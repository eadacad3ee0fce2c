import HermesMesh.Foundation.Action
import HermesMesh.Platform
import HermesMesh.Python.RealPath

/-!
# The paths of the file API

`safe_path` checks the components that a request names and then follows them.  The names
that must not be reached are looked for among the requested components only; of the
place that symbolic links lead to it checks no more than that it lies below the root.
-/

namespace HermesMesh.Collab

open Python Foundation

/-- `FORBIDDEN_PARTS` -/
def forbiddenParts : List PyStr :=
  [lit ".auth", lit ".hermes", lit "keys", lit "key", lit ".env", lit "config.yaml",
    lit "config.yml"]

/-- The parts of a requested path, without a leading `collab`. -/
def pathParts (requested : PyStr) : List PyStr :=
  match splitSlash requested with
  | [] => []
  | first :: rest => if first = lit "collab" then rest else first :: rest

/-- A part that `safe_path` refuses. -/
def isForbiddenPart (py : Platform) (part : PyStr) : Bool :=
  part.isEmpty || part == lit "." || part == lit ".." ||
    forbiddenParts.contains (py.unicode.lower part) || (lit ".").isPrefixOf part

/-- `requested.replace("\\", "/")` -/
def normalizeSlashes (requested : PyStr) : PyStr :=
  requested.map fun c => if c = backslash then slash else c

/-- The parts below the root that a request names, where `safe_path` accepts them. -/
def safeParts (py : Platform) : Json → Except Fault (List PyStr)
  | .str requested =>
      let normalized := normalizeSlashes requested
      let parts := pathParts normalized
      if isBlank requested then .error (.vaultError "invalid collab path")
      else if normalized.head? = some slash || normalized.any (fun c => c.val == 0) then
        .error (.vaultError "forbidden collab path")
      else if parts.length < 2 || parts.any (isForbiddenPart py) then
        .error (.vaultError "forbidden collab path")
      else .ok parts
  | _ => .error (.vaultError "invalid collab path")

/-- The exceptions of the file API. -/
inductive FileFault where
  | raised (fault : Fault)
  /-- The `RuntimeError` of `resolve` where `stat` fails with `ELOOP`. -/
  | symlinkLoop
  /-- A link is left on the path that links that loop leave.  What a file there is, the model
  does not say. -/
  | unresolved
  deriving DecidableEq

/-- The name can be that of a file: `os.fsencode` takes the surrogates for bytes that are no
UTF-8, and no other ones. -/
def isFileName (part : PyStr) : Bool :=
  part.all fun c => c.val < 0xD800 || (0xDC80 ≤ c.val && c.val ≤ 0xDCFF) || 0xDFFF < c.val

/-- The root of a vault, which `__init__` has resolved, and the links on its disk. -/
structure VaultDisk where
  root : Path
  links : Links
  entries : ∀ piece ∈ root, IsEntry piece
  resolved : links.Free root
  /-- `stat` of the path fails with `ELOOP`. -/
  loops : Path → Bool
  loops_of_free : ∀ place, links.Free place → loops place = false

/-- `path.resolve()` below the root -/
def resolve (disk : VaultDisk) (parts : List PyStr) : Except FileFault NormPath :=
  if parts.all isFileName then
    let candidate := disk.links.realPath (disk.root ++ parts)
    if disk.loops candidate.place then .error .symlinkLoop else .ok candidate
  else .error (.raised .valueError)

/-- `safe_path` -/
def safePath (py : Platform) (disk : VaultDisk) (requested : Json) : Except FileFault Path := do
  let parts ← (safeParts py requested).mapError .raised
  let candidate ← resolve disk parts
  if !candidate.doubled && disk.root.isPrefixOf candidate.place then .ok candidate.place
  else .error (.raised (.vaultError "forbidden collab path"))

/-! ## What the text of a request shows -/

/-- A request is accepted for its text exactly when it passes each of the checks. -/
theorem safeParts_eq_ok {py : Platform} {requested : Json} {parts : List PyStr} :
    safeParts py requested = .ok parts ↔
      ∃ text, requested = .str text ∧ parts = pathParts (normalizeSlashes text) ∧
        isBlank text = false ∧ (normalizeSlashes text).head? ≠ some slash ∧
        (∀ c ∈ normalizeSlashes text, c.val ≠ 0) ∧ 2 ≤ parts.length ∧
        ∀ part ∈ parts, isForbiddenPart py part = false := by
  cases requested with
  | str text =>
      simp only [safeParts, Json.str.injEq, exists_eq_left']
      split
      · next blank => simp [blank]
      split
      · next absolute =>
          simp only [reduceCtorEq, false_iff]
          intro ⟨_, _, relative, noNul, _⟩
          rcases Bool.or_eq_true_iff.mp absolute with starts | nul
          · exact relative (of_decide_eq_true starts)
          · obtain ⟨c, member, isNul⟩ := List.any_eq_true.mp nul
            exact noNul c member (by simpa using isNul)
      · next notBlank relative =>
          simp only [Bool.or_eq_true, decide_eq_true_eq, List.any_eq_true, beq_iff_eq,
            not_or] at relative
          split
          · next refused =>
              simp only [reduceCtorEq, false_iff]
              rintro ⟨rfl, _, _, _, long, allowed⟩
              rcases Bool.or_eq_true_iff.mp refused with short | forbidden
              · exact absurd (of_decide_eq_true short) (Nat.not_lt.mpr long)
              · obtain ⟨part, member, isForbidden⟩ := List.any_eq_true.mp forbidden
                rw [allowed part member] at isForbidden
                cases isForbidden
          · next accepted =>
              simp only [Bool.or_eq_true, decide_eq_true_eq, List.any_eq_true, not_or] at accepted
              simp only [Except.ok.injEq]
              constructor
              · rintro rfl
                refine ⟨rfl, by simpa using notBlank, relative.1, ?_, Nat.not_lt.mp accepted.1, ?_⟩
                · exact fun c member isNul => relative.2 ⟨c, member, isNul⟩
                · exact fun part member => Bool.eq_false_iff.mpr
                    fun forbidden => accepted.2 ⟨part, member, forbidden⟩
              · exact fun ⟨same, _⟩ => same.symm
  | _ => simp [safeParts]

theorem safeParts_error {py : Platform} {requested : Json} {fault : Fault}
    (refused : safeParts py requested = .error fault) : ∃ message, fault = .vaultError message := by
  cases requested with
  | str text =>
      simp only [safeParts] at refused
      split at refused
      · exact ⟨_, (Except.error.inj refused).symm⟩
      split at refused
      · exact ⟨_, (Except.error.inj refused).symm⟩
      split at refused
      · exact ⟨_, (Except.error.inj refused).symm⟩
      · cases refused
  | _ => exact ⟨_, (Except.error.inj refused).symm⟩

/-- A part that passes is the name of an entry. -/
theorem isEntry_of_allowed {py : Platform} {part : PyStr}
    (allowed : isForbiddenPart py part = false) : IsEntry part := by
  simp only [isForbiddenPart, Bool.or_eq_false_iff, List.isEmpty_eq_false_iff,
    beq_eq_false_iff_ne] at allowed
  exact ⟨allowed.1.1.1.1, allowed.1.1.1.2, allowed.1.1.2⟩

theorem entries_of_safeParts {py : Platform} {requested : Json} {parts : List PyStr}
    (accepted : safeParts py requested = .ok parts) : ∀ part ∈ parts, IsEntry part := by
  obtain ⟨_, _, _, _, _, _, _, allowed⟩ := safeParts_eq_ok.mp accepted
  exact fun part member => isEntry_of_allowed (allowed part member)

/-! ## Where a request leads -/

/-- A name that no request may reach: a dotfile, or one of `FORBIDDEN_PARTS`. -/
def isHidden (py : Platform) (name : PyStr) : Bool :=
  forbiddenParts.contains (py.unicode.lower name) || (lit ".").isPrefixOf name

/-- A place that requests may reach: at least two components below the root, none of them
hidden. -/
def Reachable (py : Platform) (root place : Path) : Prop :=
  ∃ inside, place = root ++ inside ∧ 2 ≤ inside.length ∧ ∀ name ∈ inside, isHidden py name = false

/-- The files that the vault keeps for itself: the ledger, the state, and all below the
directory of its secrets, the audit log among them. -/
def Reserved (root place : Path) : Prop :=
  place = root ++ [lit "ledger.jsonl"] ∨ place = root ++ [lit "state.json"] ∨
    root ++ [lit ".auth"] <+: place

theorem Reachable.not_reserved {py : Platform} {root place : Path}
    (reachable : Reachable py root place) : ¬Reserved root place := by
  obtain ⟨inside, rfl, deep, visible⟩ := reachable
  rintro (ledger | state | ⟨below, auth⟩)
  · rw [List.append_cancel_left ledger] at deep
    simp at deep
  · rw [List.append_cancel_left state] at deep
    simp at deep
  · rw [List.append_assoc] at auth
    rw [← List.append_cancel_left auth] at visible
    have hidden := visible (lit ".auth") (by simp)
    simp [isHidden, lit, List.isPrefixOf] at hidden

/-- `safe_path` refuses a request, or the place it returns has no link on it and is one that
requests may reach, and so none of the vault's own. -/
def Confined (py : Platform) (disk : VaultDisk) (outcome : Except FileFault Path) : Prop :=
  (∃ message, outcome = .error (.raised (.vaultError message))) ∨
    ∃ place, outcome = .ok place ∧ disk.links.Free place ∧ Reachable py disk.root place ∧
      ¬Reserved disk.root place

/-- Names from the root lead somewhere, or stick at a link, and then this is left of the path. -/
def VaultDisk.LeadsTo (disk : VaultDisk) (parts : List PyStr) (path : NormPath) : Prop :=
  (path.doubled = false ∧ disk.links.Leads disk.root parts path.place) ∨
    disk.links.Sticks [] disk.root parts path

/-- `realpath` finds where the names lead. -/
theorem VaultDisk.leadsTo_iff {disk : VaultDisk} {parts : List PyStr} {path : NormPath}
    (entries : ∀ part ∈ parts, IsEntry part) :
    disk.LeadsTo parts path ↔ disk.links.realPath (disk.root ++ parts) = path := by
  have noLink : ∀ start, start <+: disk.root → start ≠ [] →
      Dict.get? ([] ++ start) disk.links = none := by
    intro start isPrefix _
    exact disk.resolved start ((List.mem_inits _ _).mpr isPrefix)
  have ordinary : ∀ piece ∈ disk.root, piece ≠ lit ".." :=
    fun piece member => (disk.entries piece member).2.2
  have whole : followed (disk.root ++ parts) = disk.root ++ parts := by
    refine Links.followed_eq_self fun piece member => ?_
    exact (List.mem_append.mp member).elim (disk.entries piece) (entries piece)
  have leads : ∀ place, disk.links.Leads [] (followed (disk.root ++ parts)) place ↔
      disk.links.Leads disk.root parts place := by
    intro place
    rw [whole]
    exact Links.leads_append ordinary noLink
  have sticks : ∀ path, disk.links.Sticks [] [] (disk.root ++ parts) path ↔
      disk.links.Sticks [] disk.root parts path :=
    fun path => Links.sticks_append_iff disk.entries noLink
  constructor
  · rintro (⟨single, isPlace⟩ | isLeft)
    · rw [Links.realPath_of_leads ((leads _).mpr isPlace), ← single]
    · exact Links.realPath_of_sticks ((sticks _).mpr isLeft)
  · rintro rfl
    rcases disk.links.realPath_cases (disk.root ++ parts) with ⟨place, isPlace, same⟩ | isLeft
    · rw [same]
      exact .inl ⟨rfl, (leads place).mp isPlace⟩
    · exact .inr ((sticks _).mp isLeft)

/-- `resolve` raises no `VaultError`. -/
theorem resolve_ne_vaultError {disk : VaultDisk} {parts : List PyStr} (message : String) :
    resolve disk parts ≠ .error (.raised (.vaultError message)) := by
  rw [resolve]
  split
  · dsimp only
    split
    · exact fun impossible => by cases impossible
    · exact fun impossible => by cases impossible
  · exact fun impossible => by cases impossible

theorem resolve_eq_ok {disk : VaultDisk} {parts : List PyStr} {path : NormPath}
    (entries : ∀ part ∈ parts, IsEntry part) :
    resolve disk parts = .ok path ↔
      (∀ part ∈ parts, isFileName part = true) ∧ disk.LeadsTo parts path ∧
        disk.loops path.place = false := by
  rw [resolve, VaultDisk.leadsTo_iff entries, ← List.all_eq_true]
  by_cases names : parts.all isFileName = true
  · rw [if_pos names]
    by_cases loops : disk.loops (disk.links.realPath (disk.root ++ parts)).place = true
    · rw [if_pos loops]
      simp only [reduceCtorEq, names, true_and, false_iff]
      rintro ⟨rfl, noLoop⟩
      rw [noLoop] at loops
      cases loops
    · rw [if_neg loops]
      simp only [Except.ok.injEq, names, true_and]
      constructor
      · rintro rfl
        exact ⟨rfl, Bool.eq_false_iff.mpr loops⟩
      · exact fun facts => facts.1
  · rw [if_neg names]
    simp [names]

/-- What `safe_path` returns is where the parts lead from the root, which is below it. -/
theorem safePath_eq_ok {py : Platform} {disk : VaultDisk} {requested : Json} {place : Path} :
    safePath py disk requested = .ok place ↔
      ∃ parts, safeParts py requested = .ok parts ∧
        resolve disk parts = .ok ⟨false, place⟩ ∧ disk.root <+: place := by
  rw [safePath, except_bind_eq_ok]
  cases accepted : safeParts py requested with
  | error fault => simp [Except.mapError]
  | ok parts =>
      simp only [Except.mapError, Except.ok.injEq, exists_eq_left', except_bind_eq_ok]
      rw [← List.isPrefixOf_iff_prefix]
      constructor
      · rintro ⟨⟨doubled, candidate⟩, resolved, returned⟩
        split at returned
        · next below =>
            cases returned
            simp only [Bool.and_eq_true, Bool.not_eq_true'] at below
            rw [resolved, below.1]
            exact ⟨rfl, below.2⟩
        · cases returned
      · rintro ⟨resolved, below⟩
        refine ⟨_, resolved, ?_⟩
        simp [below]

/-- The parts that are accepted are names, and followed from the root they lead to a place that
requests may reach, or out of the root.  Where they stick at a link, what is left of the path is
such a place without a link on it, or out of the root, and `stat` does not fail with `ELOOP`. -/
def StaysReachable (py : Platform) (disk : VaultDisk) (requested : Json) : Prop :=
  ∀ parts, safeParts py requested = .ok parts →
    (∀ part ∈ parts, isFileName part = true) ∧
      ((∃ place, disk.links.Leads disk.root parts place ∧
          (disk.root <+: place → Reachable py disk.root place)) ∨
        ∃ path, disk.links.Sticks [] disk.root parts path ∧ disk.loops path.place = false ∧
          (path.doubled = false → disk.root <+: path.place →
            disk.links.Free path.place ∧ Reachable py disk.root path.place))

/-- What the parts resolve to, and what must hold of it. -/
theorem staysReachable_iff {py : Platform} {disk : VaultDisk} {requested : Json} :
    StaysReachable py disk requested ↔
      ∀ parts, safeParts py requested = .ok parts → ∃ path, resolve disk parts = .ok path ∧
        (path.doubled = false → disk.root <+: path.place →
          disk.links.Free path.place ∧ Reachable py disk.root path.place) := by
  refine forall₂_congr fun parts accepted => ?_
  have found := fun path => @resolve_eq_ok disk parts path (entries_of_safeParts accepted)
  constructor
  · rintro ⟨names, ⟨place, leads, reachable⟩ | ⟨path, sticks, noLoop, reachable⟩⟩
    · have free := leads.free disk.resolved
      have noLoop := disk.loops_of_free place free
      exact ⟨⟨false, place⟩, (found _).mpr ⟨names, .inl ⟨rfl, leads⟩, noLoop⟩,
        fun _ below => ⟨free, reachable below⟩⟩
    · exact ⟨path, (found _).mpr ⟨names, .inr sticks, noLoop⟩, reachable⟩
  · rintro ⟨path, resolved, reachable⟩
    obtain ⟨names, ⟨single, leads⟩ | sticks, noLoop⟩ := (found _).mp resolved
    · exact ⟨names, .inl ⟨path.place, leads, fun below => (reachable single below).2⟩⟩
    · exact ⟨names, .inr ⟨path, sticks, noLoop, reachable⟩⟩

/-- Every request is confined exactly when its parts, links followed, lead to a place
that requests may reach or out of the root. -/
theorem safePath_confined_iff (py : Platform) (disk : VaultDisk) (requested : Json) :
    Confined py disk (safePath py disk requested) ↔ StaysReachable py disk requested := by
  rw [staysReachable_iff]
  constructor
  · rintro (⟨message, refused⟩ | ⟨place, returned, free, reachable, -⟩) parts accepted
    · rw [safePath, accepted] at refused
      simp only [Except.mapError, bind, Except.bind] at refused
      cases resolved : resolve disk parts with
      | error fault =>
          rw [resolved] at refused
          cases refused
          exact absurd resolved (resolve_ne_vaultError _)
      | ok path =>
          rw [resolved] at refused
          refine ⟨path, rfl, fun single below => ?_⟩
          simp [single, List.isPrefixOf_iff_prefix.mpr below] at refused
    · obtain ⟨others, same, resolved, -⟩ := safePath_eq_ok.mp returned
      cases accepted.symm.trans same
      exact ⟨⟨false, place⟩, resolved, fun _ _ => ⟨free, reachable⟩⟩
  · intro stays
    cases accepted : safeParts py requested with
    | error fault =>
        obtain ⟨message, rfl⟩ := safeParts_error accepted
        left
        exact ⟨message, by rw [safePath, accepted]; rfl⟩
    | ok parts =>
        obtain ⟨path, resolved, reachable⟩ := stays parts accepted
        by_cases below : path.doubled = false ∧ disk.root <+: path.place
        · right
          obtain ⟨free, inside⟩ := reachable below.1 below.2
          refine ⟨path.place, safePath_eq_ok.mpr ⟨parts, accepted, ?_, below.2⟩, free, inside,
            inside.not_reserved⟩
          rw [resolved, ← below.1]
        · left
          refine ⟨"forbidden collab path", ?_⟩
          rw [safePath, accepted]
          simp only [Except.mapError, bind, Except.bind, resolved]
          rw [if_neg]
          simpa [List.isPrefixOf_iff_prefix] using below

theorem entries_v : ∀ piece ∈ [lit "v"], IsEntry piece := by
  intro piece member
  rw [List.mem_singleton.mp member]
  unfold IsEntry
  decide

/-- A link to the audit log, that lies among the tasks. -/
def linkToLog : Links := [([lit "v", lit "tasks", lit "log"], lit "../.auth/audit.jsonl")]

theorem free_v_linkToLog : linkToLog.Free [lit "v"] := by decide

def linkedDisk : VaultDisk where
  root := [lit "v"]
  links := linkToLog
  entries := entries_v
  resolved := free_v_linkToLog
  loops _ := false
  loops_of_free _ _ := rfl

/-- A request without a dotfile in it is led to the audit log. -/
theorem audit_reached_through_link :
    safePath .plain linkedDisk (.str (lit "tasks/log")) =
        .ok [lit "v", lit ".auth", lit "audit.jsonl"] ∧
      ¬Confined .plain linkedDisk (safePath .plain linkedDisk (.str (lit "tasks/log"))) := by
  have reached : safePath .plain linkedDisk (.str (lit "tasks/log")) =
      .ok [lit "v", lit ".auth", lit "audit.jsonl"] := by decide +kernel
  refine ⟨reached, ?_⟩
  rw [reached]
  rintro (⟨message, impossible⟩ | ⟨place, same, -, -, spared⟩)
  · cases impossible
  · cases same
    exact spared (.inr (.inr ⟨[lit "audit.jsonl"], rfl⟩))

/-! ## Without links -/

theorem not_isHidden_of_allowed {py : Platform} {name : PyStr}
    (allowed : isForbiddenPart py name = false) : isHidden py name = false := by
  simp only [isForbiddenPart, Bool.or_eq_false_iff] at allowed
  simp only [isHidden, Bool.or_eq_false_iff]
  exact ⟨allowed.1.2, allowed.2⟩

/-- Where no entry on the way is a link, a request leads to the place its parts name, and
requests may reach it. -/
theorem safePath_of_no_link {py : Platform} {disk : VaultDisk} {requested : Json}
    {parts : List PyStr} (accepted : safeParts py requested = .ok parts)
    (names : ∀ part ∈ parts, isFileName part = true)
    (noLink : ∀ front, front <+: parts → front ≠ [] →
      Dict.get? (disk.root ++ front) disk.links = none) :
    safePath py disk requested = .ok (disk.root ++ parts) ∧
      Reachable py disk.root (disk.root ++ parts) := by
  obtain ⟨_, _, _, _, _, _, long, allowed⟩ := safeParts_eq_ok.mp accepted
  have entries := entries_of_safeParts accepted
  have leads := Links.leads_of_no_link (fun part member => (entries part member).2.2) noLink
  have noLoop := disk.loops_of_free _ (leads.free disk.resolved)
  have resolved : resolve disk parts = .ok ⟨false, disk.root ++ parts⟩ :=
    (resolve_eq_ok entries).mpr ⟨names, .inl ⟨rfl, leads⟩, noLoop⟩
  exact ⟨safePath_eq_ok.mpr ⟨parts, accepted, resolved, List.prefix_append _ _⟩, parts, rfl, long,
    fun name member => not_isHidden_of_allowed (allowed name member)⟩

end HermesMesh.Collab
