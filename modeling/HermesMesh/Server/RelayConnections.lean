import HermesMesh.Foundation.Counting
import HermesMesh.Foundation.Machine
import HermesMesh.Collab.Vault.Ledger

/-!
# Connections of the websocket relay

`api_ws_relay` takes a slot of its peer after the cap check and releases one in the
`finally` block that every exit runs.  The handler gives way to others only where it
awaits: for the first frame, for the close of a connection it turns away, and in the
stream.  What it does with a frame of the stream does not touch the counters.
-/

namespace HermesMesh.Server

open Python Foundation Collab

/-- Where the handler of a connection awaits, with its `peer_node_id`. -/
inductive ConnPhase where
  | handshake
  /-- Turned away: the close is awaited. -/
  | rejected (peer : Option PyStr)
  /-- Past the cap check. -/
  | streaming (peer : PyStr) (named : peer ≠ [])
  | finished
  deriving DecidableEq

namespace ConnPhase

/-- `peer_node_id` when the handler leaves this phase. -/
def peer : ConnPhase → Option PyStr
  | .rejected peer => peer
  | .streaming peer _ => some peer
  | .handshake | .finished => none

/-- The node whose slot the connection holds. -/
def slot : ConnPhase → Option PyStr
  | .streaming peer _ => some peer
  | _ => none

end ConnPhase

/-- A message of the websocket. -/
inductive WsFrame where
  | text (data : PyStr)
  | other

/-- The fields of a first frame that asks for authentication. -/
def authFields : WsFrame → Option (Dict PyStr Json)
  | .other => none
  | .text data =>
      if data.isEmpty then none
      else do
        let auth ← (loads data).bind asObject
        guard (((auth.get? (lit "type")).getD .null).pyEq (.str (lit "auth")))
        return auth

/-- `mesh_auth.verify_token(token) if isinstance(token, str) else None` -/
def peerNodeId (verifyToken : PyStr → Option PyStr) (auth : Dict PyStr Json) : Option PyStr :=
  match auth.get? (lit "token") with
  | some (.str token) => verifyToken token
  | _ => none

/-- `isinstance(claimed, str) and claimed != peer_node_id` -/
def claimsOther (auth : Dict PyStr Json) (peer : PyStr) : Bool :=
  match auth.get? (lit "node_id") with
  | some (.str claimed) => claimed ≠ peer
  | _ => false

/-- `ws_relay_conns` and the connections of the server. -/
structure RelayConns where
  conns : Dict PyStr Int
  connections : List ConnPhase

namespace RelayConns

/-- `ws_relay_conns.get(peer, 0)` -/
def count (server : RelayConns) (peer : PyStr) : Int := (server.conns.get? peer).getD 0

/-- The handshake: the phase that the first frame leads to, and the counters after it. -/
def admitPeer (maxConns : Int) (verifyToken : PyStr → Option PyStr) (first : WsFrame)
    (conns : Dict PyStr Int) : ConnPhase × Dict PyStr Int :=
  match authFields first with
  | none => (.rejected none, conns)
  | some auth =>
      match peerNodeId verifyToken auth with
      | none => (.rejected none, conns)
      | some peer =>
          let current := (conns.get? peer).getD 0
          if unnamed : peer = [] then (.rejected (some peer), conns)
          else if claimsOther auth peer then (.rejected (some peer), conns)
          else if maxConns ≤ current then (.rejected (some peer), conns)
          else (.streaming peer unnamed, conns.set peer (current + 1))

/-- The `finally` block. -/
def release (peer : Option PyStr) (conns : Dict PyStr Int) : Dict PyStr Int :=
  match peer with
  | none => conns
  | some peer =>
      let remaining := (conns.get? peer).getD 0 - 1
      if peer = [] then conns
      else if 0 < remaining then conns.set peer remaining
      else conns.erase peer

end RelayConns

/-- What happens next at one of the awaits. -/
inductive ConnStep where
  | opened
  /-- The first frame arrives; the tokens are those that `verify_token` accepts now. -/
  | firstFrame (index : Nat) (verifyToken : PyStr → Option PyStr) (first : WsFrame)
  /-- The close or the stream ends, or an exception or a cancellation leaves the `try`. -/
  | finish (index : Nat)

/-- Any number of connections to one server. -/
def relayConnsMachine (maxConns : Int) : Machine RelayConns ConnStep Unit where
  step server
    | .opened => ((), { server with connections := server.connections ++ [.handshake] })
    | .firstFrame index verifyToken first =>
        match server.connections[index]? with
        | some .handshake =>
            let outcome := RelayConns.admitPeer maxConns verifyToken first server.conns
            ((), ⟨outcome.2, server.connections.set index outcome.1⟩)
        | _ => ((), server)
    | .finish index =>
        match server.connections[index]? with
        | some phase =>
            ((), ⟨RelayConns.release phase.peer server.conns,
              server.connections.set index .finished⟩)
        | none => ((), server)

namespace RelayConns

/-- The number of connections of a node that are past the cap check and not finished. -/
def active (server : RelayConns) (node : PyStr) : Nat :=
  server.connections.countP fun phase => phase.slot = some node

/-- Every counter is the number of the node's connections, which is within the cap. -/
def Balanced (maxConns : Int) (server : RelayConns) : Prop :=
  ∀ node, server.count node = server.active node ∧ (server.active node : Int) ≤ maxConns

/-- A connection that authenticated and was turned away finishes only while its node has
no connection past the cap check. -/
def TurnedAwayAlone (server : RelayConns) : ConnStep → Prop
  | .finish index => ∀ peer, server.connections[index]? = some (.rejected (some peer)) →
      peer ≠ [] → server.active peer = 0
  | _ => True

/-- A server that has just started. -/
def initial : RelayConns := ⟨[], []⟩

/-! ## One step -/

/-- A first frame leaves the counters, or takes a slot of a node that has room. -/
theorem admit_cases (maxConns : Int) (verifyToken : PyStr → Option PyStr) (first : WsFrame)
    (conns : Dict PyStr Int) :
    (∃ peer, admitPeer maxConns verifyToken first conns = (.rejected peer, conns)) ∨
      ∃ peer named, (conns.get? peer).getD 0 < maxConns ∧
        admitPeer maxConns verifyToken first conns =
          (.streaming peer named, conns.set peer ((conns.get? peer).getD 0 + 1)) := by
  unfold admitPeer
  split
  · exact .inl ⟨none, rfl⟩
  · next auth _ =>
      split
      · exact .inl ⟨none, rfl⟩
      · next peer _ =>
          by_cases unnamed : peer = []
          · exact .inl ⟨some peer, by simp only [dif_pos unnamed]⟩
          · by_cases other : claimsOther auth peer = true
            · exact .inl ⟨some peer, by simp only [dif_neg unnamed, if_pos other]⟩
            · by_cases full : maxConns ≤ (conns.get? peer).getD 0
              · exact .inl ⟨some peer, by simp only [dif_neg unnamed, if_neg other, if_pos full]⟩
              · refine .inr ⟨peer, unnamed, Int.not_le.mp full, ?_⟩
                simp only [dif_neg unnamed, if_neg other, if_neg full]

theorem count_set (conns : Dict PyStr Int) (peer node : PyStr) (value : Int) :
    ((conns.set peer value).get? node).getD 0 =
      if node = peer then value else (conns.get? node).getD 0 := by
  rw [Dict.get?_set]
  split <;> rfl

/-- A release takes one from the counter of a named peer, though never below zero. -/
theorem count_release {peer : PyStr} (named : peer ≠ []) (conns : Dict PyStr Int) (node : PyStr) :
    ((release (some peer) conns).get? node).getD 0 =
      if node = peer then max 0 ((conns.get? peer).getD 0 - 1) else (conns.get? node).getD 0 := by
  simp only [release, if_neg named]
  split
  · next positive =>
      rw [count_set, max_eq_right positive.le]
  · next empty =>
      rw [Dict.get?_erase, max_eq_left (Int.not_lt.mp empty)]
      split <;> rfl

/-- The slots before and after a connection changes its phase. -/
theorem active_set {server : RelayConns} {index : Nat} {old : ConnPhase}
    (found : server.connections[index]? = some old) (conns : Dict PyStr Int) (new : ConnPhase)
    (node : PyStr) :
    active ⟨conns, server.connections.set index new⟩ node + (if old.slot = some node then 1 else 0) =
      server.active node + if new.slot = some node then 1 else 0 := by
  have moved := countP_set_add (fun phase : ConnPhase => decide (phase.slot = some node)) found new
  simpa only [active, decide_eq_true_eq] using moved

/-- A step that changes no counter and no slot keeps the balance as it is. -/
theorem balanced_congr {maxConns : Int} {before after : RelayConns}
    (counts : ∀ node, after.count node = before.count node)
    (slots : ∀ node, after.active node = before.active node) :
    Balanced maxConns after ↔ Balanced maxConns before := by
  simp only [Balanced, counts, slots]

theorem active_set_of_slot {server : RelayConns} {index : Nat} {old new : ConnPhase}
    (found : server.connections[index]? = some old) (same : old.slot = new.slot)
    (conns : Dict PyStr Int) (node : PyStr) :
    active ⟨conns, server.connections.set index new⟩ node = server.active node := by
  have moved := active_set found conns new node
  rw [same] at moved
  omega

/-- A change of phase that takes and gives no slot keeps the balance. -/
theorem balanced_set {maxConns : Int} {server : RelayConns} (balanced : Balanced maxConns server)
    {index : Nat} {old new : ConnPhase} (found : server.connections[index]? = some old)
    (same : old.slot = new.slot) :
    Balanced maxConns ⟨server.conns, server.connections.set index new⟩ :=
  (@balanced_congr _ server ⟨server.conns, server.connections.set index new⟩ (fun _ => rfl)
    fun node => active_set_of_slot found same server.conns node).mpr balanced

/-- Taking a slot keeps the balance. -/
theorem balanced_take {maxConns : Int} {server : RelayConns} (balanced : Balanced maxConns server)
    {index : Nat} (found : server.connections[index]? = some .handshake) {peer : PyStr}
    (named : peer ≠ []) (room : server.count peer < maxConns) :
    Balanced maxConns ⟨server.conns.set peer (server.count peer + 1),
      server.connections.set index (.streaming peer named)⟩ := by
  intro node
  obtain ⟨counted, within⟩ := balanced node
  have moved := active_set found (server.conns.set peer (server.count peer + 1))
    (.streaming peer named) node
  have counts := count_set server.conns peer node (server.count peer + 1)
  simp only [ConnPhase.slot, reduceCtorEq, if_false, Option.some.injEq] at moved
  rw [count, counts]
  by_cases same : node = peer
  · subst same
    simp only [if_true] at moved ⊢
    omega
  · simp only [Ne.symm same, same, if_false, Nat.add_zero] at moved ⊢
    rw [moved]
    exact ⟨counted, within⟩

/-- A connection that gives back its slot keeps the balance. -/
theorem balanced_give {maxConns : Int} {server : RelayConns} (balanced : Balanced maxConns server)
    {index : Nat} {peer : PyStr} {named : peer ≠ []}
    (found : server.connections[index]? = some (.streaming peer named)) :
    Balanced maxConns ⟨release (some peer) server.conns,
      server.connections.set index .finished⟩ := by
  intro node
  obtain ⟨counted, within⟩ := balanced node
  have moved := active_set found (release (some peer) server.conns) .finished node
  simp only [ConnPhase.slot, reduceCtorEq, if_false, Option.some.injEq, Nat.add_zero] at moved
  rw [count, count_release named]
  by_cases same : node = peer
  · subst same
    simp only [if_true] at moved ⊢
    rw [count] at counted
    omega
  · simp only [Ne.symm same, same, if_false, Nat.add_zero] at moved ⊢
    rw [moved]
    exact ⟨counted, within⟩

/-- A connection that was turned away gives back a slot all the same: the balance is
kept exactly when its node has none. -/
theorem balanced_turned_away {maxConns : Int} {server : RelayConns}
    (balanced : Balanced maxConns server) {index : Nat} {peer : PyStr} (named : peer ≠ [])
    (found : server.connections[index]? = some (.rejected (some peer))) :
    Balanced maxConns ⟨release (some peer) server.conns,
        server.connections.set index .finished⟩ ↔ server.active peer = 0 := by
  have slots := fun node => @active_set_of_slot _ _ _ .finished found rfl
    (release (some peer) server.conns) node
  have counts := fun node => count_release named server.conns node
  constructor
  · intro after
    have kept := (after peer).1
    have before := (balanced peer).1
    rw [count, counts, if_pos rfl, slots] at kept
    rw [count] at before
    omega
  · intro alone
    refine (balanced_congr (fun node => ?_) slots).mpr balanced
    have before := (balanced peer).1
    rw [count] at before
    rw [count, counts, count]
    split
    · next same =>
        subst same
        omega
    · rfl

/-- One step keeps the balance exactly when it is permitted. -/
theorem balanced_step {maxConns : Int} {server : RelayConns} (balanced : Balanced maxConns server)
    (input : ConnStep) :
    Balanced maxConns ((relayConnsMachine maxConns).step server input).2 ↔
      server.TurnedAwayAlone input := by
  cases input with
  | opened =>
      simp only [relayConnsMachine, TurnedAwayAlone, iff_true]
      intro node
      have slots : active ⟨server.conns, server.connections ++ [.handshake]⟩ node =
          server.active node := by
        simp [active, List.countP_append, ConnPhase.slot]
      rw [slots]
      exact balanced node
  | firstFrame index verifyToken first =>
      simp only [relayConnsMachine, TurnedAwayAlone, iff_true]
      split
      · next found =>
          rcases admit_cases maxConns verifyToken first server.conns with
            ⟨peer, turnedAway⟩ | ⟨peer, named, room, admitted⟩
          · rw [turnedAway]
            exact balanced_set balanced found rfl
          · rw [admitted]
            exact balanced_take balanced found named room
      · exact balanced
  | finish index =>
      simp only [relayConnsMachine, TurnedAwayAlone]
      cases found : server.connections[index]? with
      | none => simpa using balanced
      | some phase =>
          cases phase with
          | streaming peer named => simpa [ConnPhase.peer] using balanced_give balanced found
          | handshake => simpa [ConnPhase.peer, release] using @balanced_set _ _ balanced _ _ .finished found rfl
          | finished => simpa [ConnPhase.peer, release] using @balanced_set _ _ balanced _ _ .finished found rfl
          | rejected peer =>
              cases peer with
              | none => simpa [ConnPhase.peer, release] using
                  @balanced_set _ _ balanced _ _ .finished found rfl
              | some peer =>
                  by_cases named : peer = []
                  · simpa [ConnPhase.peer, release, named] using
                      @balanced_set _ _ balanced _ _ .finished found rfl
                  · simpa [ConnPhase.peer, named] using balanced_turned_away balanced named found

/-- In every state of a run the counters are the numbers of connections past the cap
check, and these are within the cap, exactly when every connection that was turned away
after it authenticated finishes while its node has none. -/
theorem conns_balanced_iff {maxConns : Int} (nonneg : 0 ≤ maxConns) (inputs : List ConnStep) :
    (∀ past rest, inputs = past ++ rest →
        Balanced maxConns ((relayConnsMachine maxConns).run initial past)) ↔
      (relayConnsMachine maxConns).Allowed TurnedAwayAlone initial inputs :=
  Machine.throughout_iff_allowed TurnedAwayAlone (Balanced maxConns)
    (fun _ input balanced => balanced_step balanced input)
    (by simpa [Balanced, count, active, initial] using nonneg) inputs

/-! ## A turned-away connection -/

/-- The first frame of a connection with the token of `node-a`, claiming to be `node`. -/
def authFrame (node : String) : WsFrame :=
  .text (lit "\x7b\"type\":\"auth\",\"token\":\"t\",\"node_id\":\"" ++ lit node ++ lit "\"\x7d")

/-- The token `t` is that of `node-a`. -/
def acceptsOne (token : PyStr) : Option PyStr :=
  if token = lit "t" then some (lit "node-a") else none

/-- A connection of `node-a` is in its stream and another ends its handshake. -/
def twoConnections (claimed : String) : List ConnStep :=
  [.opened, .firstFrame 0 acceptsOne (authFrame "node-a"), .opened,
    .firstFrame 1 acceptsOne (authFrame claimed), .finish 1]

theorem conns_balanced_alone :
    (∀ past rest, twoConnections "node-a" = past ++ rest →
        Balanced 3 ((relayConnsMachine 3).run initial past)) ↔
      (relayConnsMachine 3).Allowed TurnedAwayAlone initial (twoConnections "node-a") :=
  conns_balanced_iff (by decide) _

/-- The second connection authenticates as `node-a`, claims to be `node-b` and is turned
away: the counter of `node-a` is gone while its first connection is in its stream. -/
theorem slot_lost_to_turned_away :
    let server := (relayConnsMachine 3).run initial (twoConnections "node-b")
    server.count (lit "node-a") = 0 ∧ server.active (lit "node-a") = 1 ∧ ¬Balanced 3 server := by
  have counted : ((relayConnsMachine 3).run initial (twoConnections "node-b")).count
      (lit "node-a") = 0 := by decide +kernel
  have held : ((relayConnsMachine 3).run initial (twoConnections "node-b")).active
      (lit "node-a") = 1 := by decide +kernel
  refine ⟨counted, held, fun balanced => ?_⟩
  have same := (balanced (lit "node-a")).1
  rw [counted, held] at same
  cases same

end RelayConns

end HermesMesh.Server
