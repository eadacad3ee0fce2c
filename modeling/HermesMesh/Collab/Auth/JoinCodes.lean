import HermesMesh.Foundation.Machine
import HermesMesh.Python.Text

/-!
# Join codes in a store that processes share

`create_invite` and `join` open the file of the store, take `flock` on it, read the
store by its path, and write it by renaming a new file to that path.  A lock is on the
file that was opened: once the store is written the path names another file, which the
lock does not cover.  Checks of the arguments come before the file is opened and are
left out, as are the tokens that `join` stores in a file of their own.  Instants are
whole numbers of microseconds.
-/

namespace HermesMesh.Collab

open Python Foundation

/-- An entry of the store; `usedAt` is the instant of `used_at`, once it is set. -/
structure CodeRecord where
  codeHash : PyStr
  nodeId : Option PyStr
  expiresAt : Int
  usedAt : Option Int
  deriving DecidableEq

/-- The argument `expires_at` of `join`: not given, not an instant, or an instant. -/
inductive RequestedExpiry where
  | absent
  | unreadable
  | instant (expiry : Int)

/-- The arguments of a call that passed their checks, with the code that
`create_invite` has drawn. -/
inductive CodeRequest where
  | invite (code : PyStr) (nodeId : Option PyStr) (expiresAt : Int)
  | join (nodeId code : PyStr) (expiresAt : RequestedExpiry)

namespace CodeRecord

/-- `create_invite` keeps an entry that is not used and not expired. -/
def isLive (now : Int) (item : CodeRecord) : Bool :=
  item.usedAt.isNone && decide (now < item.expiresAt)

/-- `join` compares the requested expiry with that of the entry and with the clock. -/
def fitsExpiry (now : Int) (requested : RequestedExpiry) (item : CodeRecord) : Bool :=
  match requested with
  | .absent => true
  | .unreadable => false
  | .instant expiry => decide (now < expiry) && expiry == item.expiresAt

/-- The entry is one that `join` takes; the clock is read twice. -/
def fits (hash : PyStr → PyStr) (nodeId code : PyStr) (requested : RequestedExpiry)
    (clock : Int × Int) (item : CodeRecord) : Bool :=
  item.usedAt.isNone && item.codeHash == hash code && decide (clock.1 < item.expiresAt) &&
    (item.nodeId == none || item.nodeId == some nodeId) && item.fitsExpiry clock.2 requested

end CodeRecord

/-- The store with the first entry that fits marked as used; `clock` gives the readings
for each entry in turn. -/
def redeem (hash : PyStr → PyStr) (nodeId code : PyStr) (requested : RequestedExpiry)
    (usedAt : Int) : (clock : Nat → Int × Int) → List CodeRecord → Option (List CodeRecord)
  | _, [] => none
  | clock, item :: rest =>
      if item.fits hash nodeId code requested (clock 0) then
        some ({ item with usedAt := some usedAt } :: rest)
      else
        (redeem hash nodeId code requested usedAt (fun index => clock (index + 1)) rest).map
          fun rest => item :: rest

namespace CodeRequest

def code : CodeRequest → PyStr
  | .invite code _ _ => code
  | .join _ code _ => code

def isInvite : CodeRequest → Bool
  | .invite _ _ _ => true
  | .join _ _ _ => false

def isJoin (request : CodeRequest) : Bool := !request.isInvite

/-- The entry that `create_invite` adds. -/
def record (hash : PyStr → PyStr) : CodeRequest → Option CodeRecord
  | .invite code nodeId expiresAt => some ⟨hash code, nodeId, expiresAt, none⟩
  | .join _ _ _ => none

end CodeRequest

/-- What a call finds out in its locked section besides the store: the time of the
purge, the readings for the entries, whether the node is new and has been issued a
certificate, and the time of use. -/
structure Findings where
  now : Int
  clock : Nat → Int × Int
  registers : Bool
  usedAt : Int

/-- The store that a call writes in its locked section, `none` where `join` raises. -/
def CodeRequest.rewrite (hash : PyStr → PyStr) (findings : Findings) (records : List CodeRecord) :
    CodeRequest → Option (List CodeRecord)
  | .invite code nodeId expiresAt =>
      some (records.filter (CodeRecord.isLive findings.now) ++
        [⟨hash code, nodeId, expiresAt, none⟩])
  | .join nodeId code requested =>
      if findings.registers then redeem hash nodeId code requested findings.usedAt findings.clock records
      else none

/-- Where a call is. -/
inductive CodePhase where
  | ready
  /-- Waiting for the lock on the file it opened. -/
  | opened (inode : Nat)
  | locked (inode : Nat)
  /-- It has read the store and knows what to write. -/
  | looked (inode : Nat) (records : List CodeRecord)
  /-- It is about to raise. -/
  | refused (inode : Nat)
  | written (inode : Nat)
  | raised
  /-- Out of its section: `create_invite` has returned, `join` has a token to store. -/
  | released
  /-- `join` has returned. -/
  | joined

structure CodeCall where
  request : CodeRequest
  phase : CodePhase

/-- The store and the calls on it.  Files are numbered in the order of their creation. -/
structure CodeStore where
  /-- The file that the path names. -/
  inode : Nat
  records : List CodeRecord
  calls : List CodeCall

inductive CodeStep where
  | start (request : CodeRequest)
  | openFile (index : Nat)
  | flock (index : Nat)
  | read (index : Nat) (findings : Findings)
  | replace (index : Nat)
  | unlock (index : Nat)
  | finish (index : Nat)

/-- The file that a call holds the lock on. -/
def CodePhase.holds : CodePhase → Option Nat
  | .locked inode | .looked inode _ | .refused inode | .written inode => some inode
  | _ => none

/-- Between `flock` and the write: what the call has read must not change. -/
def CodePhase.inSection : CodePhase → Bool
  | .locked _ | .looked _ _ => true
  | _ => false

def CodePhase.hasWritten : CodePhase → Bool
  | .written _ | .released | .joined => true
  | _ => false

namespace CodeStore

def setCall (index : Nat) (call : CodeCall) (store : CodeStore) : CodeStore :=
  { store with calls := store.calls.set index call }

/-- A lock on the file is held. -/
def isHeld (inode : Nat) (store : CodeStore) : Bool :=
  store.calls.any fun call => call.phase.holds == some inode

/-- The next step of a call; one that is not at this step, or has to wait, stays. -/
def flock (index : Nat) (store : CodeStore) : CodeStore :=
  match store.calls[index]? with
  | some ⟨request, .opened inode⟩ =>
      if store.isHeld inode then store else store.setCall index ⟨request, .locked inode⟩
  | _ => store

def read (hash : PyStr → PyStr) (index : Nat) (findings : Findings) (store : CodeStore) : CodeStore :=
  match store.calls[index]? with
  | some ⟨request, .locked inode⟩ =>
      match request.rewrite hash findings store.records with
      | some records => store.setCall index ⟨request, .looked inode records⟩
      | none => store.setCall index ⟨request, .refused inode⟩
  | _ => store

/-- `_write_store`: the path names a new file. -/
def replace (index : Nat) (store : CodeStore) : CodeStore :=
  match store.calls[index]? with
  | some ⟨request, .looked inode records⟩ =>
      { store.setCall index ⟨request, .written inode⟩ with inode := store.inode + 1, records := records }
  | _ => store

def unlock (index : Nat) (store : CodeStore) : CodeStore :=
  match store.calls[index]? with
  | some ⟨request, .written _⟩ => store.setCall index ⟨request, .released⟩
  | some ⟨request, .refused _⟩ => store.setCall index ⟨request, .raised⟩
  | _ => store

def openFile (index : Nat) (store : CodeStore) : CodeStore :=
  match store.calls[index]? with
  | some ⟨request, .ready⟩ => store.setCall index ⟨request, .opened store.inode⟩
  | _ => store

/-- The token is stored and the node registered. -/
def finish (index : Nat) (store : CodeStore) : CodeStore :=
  match store.calls[index]? with
  | some ⟨.join nodeId code expiry, .released⟩ =>
      store.setCall index ⟨.join nodeId code expiry, .joined⟩
  | _ => store

/-- The store that `MeshAuth` creates. -/
def empty : CodeStore := ⟨0, [], []⟩

end CodeStore

def codeMachine (hash : PyStr → PyStr) : Machine CodeStore CodeStep Unit where
  step store
    | .start request => ((), { store with calls := store.calls ++ [⟨request, .ready⟩] })
    | .openFile index => ((), store.openFile index)
    | .flock index => ((), store.flock index)
    | .read index findings => ((), store.read hash index findings)
    | .replace index => ((), store.replace index)
    | .unlock index => ((), store.unlock index)
    | .finish index => ((), store.finish index)

end HermesMesh.Collab
