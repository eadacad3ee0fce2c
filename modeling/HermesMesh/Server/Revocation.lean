import HermesMesh.Collab.Auth.Revoke
import HermesMesh.Foundation.Tickets
import HermesMesh.Python.FloatOrder
import HermesMesh.Server.Handlers

/-!
# Revocation in two steps

The owner prepares the revocation of a node and gets a challenge, which the second request
has to present within a minute with the phrases of both confirmations.  A challenge is
forgotten when it is presented.  Other routes change the stores between the two requests,
but they know nothing of the challenges.
-/

namespace HermesMesh.Server

open Python Foundation Foundation.Action Collab

/-- A value of `mesh_challenges`. -/
structure Challenge where
  nodeId : PyStr
  phrase : PyStr
  expiresAt : PyFloat

/-- What `broadcast` is called with. -/
inductive MeshNotice where
  /-- `collab_activity`: its kind and its other fields. -/
  | activity (kind : String) (timestamp : PyStr) (data : Dict PyStr Json)
  /-- `collab_node` -/
  | node (nodeId status timestamp : PyStr)

/-- What the two routes read and change. -/
structure MeshControl where
  stores : MeshStores
  challenges : Dict PyStr Challenge
  notices : List MeshNotice

/-- What the environment supplies to a request. -/
structure MeshMoment where
  now : Binary64
  isoNow : PlainText
  /-- `secrets.token_urlsafe(18)` -/
  challenge : PlainText
  /-- `audit_status`: whether the chain is verified, or what the reading raises. -/
  audit : Except AuthFault Bool
  /-- `list_files` -/
  files : Except AuthFault Unit

/-- A request as the checks before the handler's own work leave it. -/
structure MeshRequest where
  /-- `_client_ip` -/
  client : PyStr
  /-- `retry_after`, where the limiter refuses the request. -/
  retryAfter : Option Int
  /-- `_owner_authorized` -/
  owner : Bool
  /-- `none` is a body that is no JSON object. -/
  body : Option JsonObject

abbrev MeshHandler := Action MeshControl AuthFault

def invalidChallenge : Reply := errorReply 403 "invalid or expired mesh challenge"

def confirmationMismatch : Reply := errorReply 400 "mesh confirmation mismatch"

def nodeNotFound : Reply := errorReply 404 "node not found"

namespace MeshControl

def onStores {α : Type} (action : Action MeshStores AuthFault α) : MeshHandler α :=
  .zoom MeshControl.stores (fun stores control => { control with stores := stores }) action

def broadcast (notice : MeshNotice) : MeshHandler Unit :=
  .modify fun control => { control with notices := control.notices ++ [notice] }

/-- `_record_collab_activity` -/
def recordActivity (moment : MeshMoment) (kind : String) (data : Dict PyStr Json) :
    MeshHandler Unit :=
  broadcast (.activity kind moment.isoNow.text data)

/-- The start that both routes share. -/
def ownerRequest (scope : String) (moment : MeshMoment) (request : MeshRequest)
    (next : JsonObject → MeshHandler Reply) : MeshHandler Reply :=
  match request.retryAfter, request.owner, request.body with
  | some retryAfter, _, _ => do
      recordActivity moment "rate_limit"
        [(lit "scope", .str (lit scope)), (lit "identity", .str request.client),
          (lit "status", .int 429), (lit "retry_after", .int retryAfter)]
      return errorReply 429 "rate limit exceeded"
  | none, false, _ => return forbidden
  | none, true, none => return badRequest
  | none, true, some body => next body

/-! ## `api_mesh_prepare_revoke` -/

/-- `audit_status` notes whether the chain is verified. -/
def noteAudit (verified : Bool) (stores : MeshStores) : MeshStores :=
  { stores with state := stores.state.set (lit "audit_tampered") (.bool !verified) }

/-- `collab_state().get("nodes", {}).get(node_id)` -/
def collabNode (moment : MeshMoment) (nodeId : PyStr) : Action MeshStores AuthFault Json := do
  let verified ← .ofExcept moment.audit
  .modify (noteAudit verified)
  .ofExcept moment.files
  let stores ← .read
  let nodes ← .ofExcept (nodesOf stores.state)
  return (nodes.get? nodeId).getD .null

/-- The challenge of a revocation that is prepared. -/
def challengeFor (now : Binary64) (nodeId : PyStr) : Challenge where
  nodeId := nodeId
  phrase := lit "REVOKE " ++ nodeId
  expiresAt := .add (.finite now) (.ofInt 60)

/-- The end of `api_mesh_prepare_revoke`, for a node that is found. -/
def issueChallenge (moment : MeshMoment) (nodeId : PyStr) : MeshHandler Reply := do
  .modify fun control => { control with
    challenges := control.challenges.set moment.challenge.text (challengeFor moment.now nodeId) }
  recordActivity moment "kill_switch"
    [(lit "node_id", .str nodeId), (lit "status", .str (lit "challenge_issued"))]
  return ⟨200, [(lit "status", .str (lit "challenge_issued")),
    (lit "challenge", .str moment.challenge.text),
    (lit "phrase", .str (challengeFor moment.now nodeId).phrase), (lit "expires_in", .int 60)]⟩

/-- `api_mesh_prepare_revoke`, once the body is there. -/
def prepareRevocation (moment : MeshMoment) (body : JsonObject) : MeshHandler Reply :=
  match body.getD (lit "node_id") .null with
  | .str nodeId => do
      let node ← onStores (collabNode moment nodeId)
      if node.truthy then issueChallenge moment nodeId else return nodeNotFound
  | _ => return nodeNotFound

/-- `api_mesh_prepare_revoke` -/
def apiMeshPrepareRevoke (moment : MeshMoment) (request : MeshRequest) : MeshHandler Reply :=
  ownerRequest "mesh-revoke-prepare" moment request (prepareRevocation moment)

/-! ## `api_mesh_revoke` -/

/-- `mesh_challenges.pop(challenge, None)` -/
def popChallenge : Json → MeshHandler (Option Challenge)
  | .str challenge => do
      let control ← .read
      .modify fun control => { control with challenges := control.challenges.erase challenge }
      return control.challenges.get? challenge
  | _ => return none

/-- The node of a confirmation, or the answer to one that does not stand. -/
def checkConfirmation (now : Binary64) (body : JsonObject) : Option Challenge → Except Reply PyStr
  | none => .error invalidChallenge
  | some record =>
      if record.expiresAt.lt (.finite now) ||
          !(body.getD (lit "node_id") .null).pyEq (.str record.nodeId) then
        .error invalidChallenge
      else if !(body.getD (lit "confirmation") .null).pyEq (.str record.phrase) ||
          !(body.getD (lit "mesh_confirmation") .null).pyEq (.str (lit "CONFIRM MESH REVOKE")) then
        .error confirmationMismatch
      else .ok record.nodeId

/-- The end of `api_mesh_revoke`, for a confirmation that stands. -/
def confirmRevocation (py : Platform) (moment : MeshMoment) (nodeId : PyStr) : MeshHandler Reply := do
  let changed ← onStores (revokeNode py moment.isoNow nodeId)
  if changed then
    broadcast (.node nodeId (lit "revoked") moment.isoNow.text)
    recordActivity moment "kill_switch"
      [(lit "node_id", .str nodeId), (lit "status", .str (lit "revoked"))]
    return ⟨200, [(lit "status", .str (lit "ok")), (lit "revoked", .str nodeId)]⟩
  else return nodeNotFound

/-- `api_mesh_revoke`, once the body is there. -/
def answerConfirmation (py : Platform) (moment : MeshMoment) (body : JsonObject) :
    MeshHandler Reply := do
  let record ← popChallenge (body.getD (lit "challenge") .null)
  match checkConfirmation moment.now body record with
  | .error reply => return reply
  | .ok nodeId => confirmRevocation py moment nodeId

/-- `api_mesh_revoke` -/
def apiMeshRevoke (py : Platform) (moment : MeshMoment) (request : MeshRequest) :
    MeshHandler Reply :=
  ownerRequest "mesh-revoke-confirm" moment request (answerConfirmation py moment)

end MeshControl

open MeshControl

/-! ## Interleavings -/

inductive MeshCall where
  | prepare (moment : MeshMoment) (request : MeshRequest)
  | revoke (moment : MeshMoment) (request : MeshRequest)
  /-- Another route leaves the stores like this. -/
  | elsewhere (stores : MeshStores)

/-- The answer to a request, whose handler may have raised. -/
def meshReply : Except AuthFault Reply → Reply
  | .ok reply => reply
  | .error _ => serverError

/-- The server, with the requests in the order in which their handlers have their bodies. -/
def revocationMachine (py : Platform) : Machine MeshControl MeshCall (Option Reply) where
  step control
    | .prepare moment request =>
        let outcome := (apiMeshPrepareRevoke moment request).run control
        (some (meshReply outcome.1), outcome.2)
    | .revoke moment request =>
        let outcome := (apiMeshRevoke py moment request).run control
        (some (meshReply outcome.1), outcome.2)
    | .elsewhere stores => (none, { control with stores := stores })

/-- A server that has just started. -/
def MeshControl.started (stores : MeshStores) : MeshControl := ⟨stores, [], []⟩

abbrev MeshEvent := Event MeshControl MeshCall (Option Reply)

namespace MeshCall

/-- `time.time()` of a request. -/
def time? : MeshCall → Option Binary64
  | .prepare moment _ | .revoke moment _ => some moment.now
  | .elsewhere _ => none

/-- The body of a request for a revocation that the handler comes to read. -/
def confirmation? : MeshCall → Option (MeshMoment × JsonObject)
  | .revoke moment ⟨_, none, true, some body⟩ => some (moment, body)
  | _ => none

/-- The challenge that a request presents. -/
def presented? (call : MeshCall) : Option PyStr :=
  match call.confirmation? with
  | some (_, body) =>
      match body.getD (lit "challenge") .null with
      | .str challenge => some challenge
      | _ => none
  | none => none

end MeshCall

/-! ## What is asked of the two steps -/

/-- A challenge, the node it is for, and when it was issued or presented. -/
structure Grant where
  challenge : PyStr
  nodeId : PyStr
  time : Binary64

def grant? (challenge nodeId : Json) (time : Binary64) : Option Grant :=
  match challenge, nodeId with
  | .str challenge, .str nodeId => some ⟨challenge, nodeId, time⟩
  | _, _ => none

/-- The challenge that a request for one is answered with. -/
def issued? (event : MeshEvent) : Option Grant :=
  match event.input, event.output with
  | .prepare moment request, some reply =>
      if reply.status = 200 then
        grant? ((reply.body.get? (lit "challenge")).getD .null)
          ((request.body.getD .empty).getD (lit "node_id") .null) moment.now
      else none
  | _, _ => none

/-- The challenge that a successful revocation presents, with the node it revokes. -/
def revoked? (event : MeshEvent) : Option Grant :=
  match event.input.confirmation?, event.output with
  | some (moment, body), some reply =>
      if reply.status = 200 then
        grant? (body.getD (lit "challenge") .null) ((reply.body.get? (lit "revoked")).getD .null)
          moment.now
      else none
  | _, _ => none

/-- The challenges issued in some steps. -/
def issuedChallenges (events : List MeshEvent) : List PyStr :=
  (events.filterMap issued?).map Grant.challenge

/-- The nodes, the certificates, the tokens and the set of the revoked nodes are the same. -/
structure Untouched (before after : MeshStores) : Prop where
  nodes : after.state.get? (lit "nodes") = before.state.get? (lit "nodes")
  stateFile : after.stateFile = before.stateFile
  certificates : after.certificates = before.certificates
  certificateFile : after.certificateFile = before.certificateFile
  tokens : after.tokens = before.tokens
  revoked : after.revoked = before.revoked

/-- Sixty seconds after the first time, as the clock counts, are not over at the second. -/
def WithinMinute (issued presented : Binary64) : Prop :=
  issued.units ≤ presented.units ∧
    PyFloat.lt (.add (.finite issued) (.ofInt 60)) (.finite presented) = false

/-- What the two steps are for. -/
structure TwoSteps (events : List MeshEvent) : Prop where
  /-- What is revoked was prepared for the same node within the last minute. -/
  prepared : ∀ past event future, events = past ++ event :: future → ∀ grant,
    revoked? event = some grant → ∃ issue ∈ past.filterMap issued?,
      issue.challenge = grant.challenge ∧ issue.nodeId = grant.nodeId ∧
        WithinMinute issue.time grant.time
  /-- Each revocation has a challenge of its own. -/
  distinct : ((events.filterMap revoked?).map Grant.challenge).Nodup
  /-- A challenge that has been presented is refused, whatever became of it. -/
  spent : ∀ past event future, events = past ++ event :: future → ∀ challenge,
    event.input.presented? = some challenge → challenge ∈ issuedChallenges past →
      ∀ later ∈ future, later.input.presented? = some challenge →
        later.output = some invalidChallenge
  /-- What does not succeed changes nothing. -/
  untouched : ∀ event ∈ events, ∀ reply, event.output = some reply → reply.status ≠ 200 →
    Untouched event.before.stores event.after.stores

/-- The record of the challenge that a body presents. -/
def MeshControl.recordOf (control : MeshControl) (body : JsonObject) : Option Challenge :=
  match body.getD (lit "challenge") .null with
  | .str challenge => control.challenges.get? challenge
  | _ => none

/-- The server once the challenge that a body presents is forgotten. -/
def MeshControl.forgetting (body : JsonObject) (control : MeshControl) : MeshControl :=
  match body.getD (lit "challenge") .null with
  | .str challenge => { control with challenges := control.challenges.erase challenge }
  | _ => control

/-- Whenever a confirmation stands, the stores are fit for the revocation. -/
def StoresFit (py : Platform) (control : MeshControl) (call : MeshCall) : Prop :=
  ∀ moment body nodeId, call.confirmation? = some (moment, body) →
    checkConfirmation moment.now body (control.recordOf body) = .ok nodeId →
      CanRevoke py moment.isoNow nodeId control.stores

/-! ## One request -/

variable {py : Platform} {moment : MeshMoment} {request : MeshRequest} {control : MeshControl}
  {body : JsonObject}

theorem Untouched.refl (stores : MeshStores) : Untouched stores stores := ⟨rfl, rfl, rfl, rfl, rfl, rfl⟩

theorem untouched_noteAudit (verified : Bool) (stores : MeshStores) :
    Untouched stores (noteAudit verified stores) :=
  ⟨Dict.get?_set_of_ne (by simp) _ _, rfl, rfl, rfl, rfl, rfl⟩

/-- Looking a node up changes nothing that is asked about. -/
theorem untouched_collabNode (nodeId : PyStr) (stores : MeshStores) :
    Untouched stores ((collabNode moment nodeId).run stores).2 := by
  rw [collabNode]
  cases moment.audit with
  | error fault => exact .refl stores
  | ok verified =>
      rw [run_bind_ok (run_ofExcept _ _), run_bind_ok (run_modify _ _)]
      cases moment.files with
      | error fault => exact untouched_noteAudit verified stores
      | ok done =>
          rw [run_bind_ok (run_ofExcept _ _), run_bind_ok (run_read _)]
          cases nodesOf (noteAudit verified stores).state with
          | error fault => exact untouched_noteAudit verified stores
          | ok nodes => exact untouched_noteAudit verified stores

/-- A request that the handler does not come to is refused, and nothing but a notice is
left of it. -/
theorem run_ownerRequest_of_refused {scope : String} {next : JsonObject → MeshHandler Reply}
    (refused : ¬∃ body, request.retryAfter = none ∧ request.owner = true ∧ request.body = some body) :
    ∃ reply notices, (ownerRequest scope moment request next).run control =
      (.ok reply, { control with notices := notices }) ∧ reply.status ≠ 200 := by
  obtain ⟨client, retryAfter, owner, body⟩ := request
  cases retryAfter with
  | some seconds => exact ⟨_, _, rfl, by decide⟩
  | none =>
      cases owner with
      | false => exact ⟨_, _, rfl, by decide⟩
      | true =>
          cases body with
          | none => exact ⟨_, _, rfl, by decide⟩
          | some body => exact absurd ⟨body, rfl, rfl, rfl⟩ refused

/-- What a request for a challenge leaves, with its answer: a challenge for the node that it
names, or an error. -/
structure Prepares (moment : MeshMoment) (body : JsonObject) (before : MeshControl) (reply : Reply)
    (after : MeshControl) : Prop where
  untouched : Untouched before.stores after.stores
  challenge : (reply.status ≠ 200 ∧ after.challenges = before.challenges) ∨
    ∃ nodeId, reply.status = 200 ∧
      reply.body.get? (lit "challenge") = some (.str moment.challenge.text) ∧
      body.getD (lit "node_id") .null = .str nodeId ∧
      after.challenges = before.challenges.set moment.challenge.text (challengeFor moment.now nodeId)

theorem run_prepareRevocation (moment : MeshMoment) (body : JsonObject) (control : MeshControl) :
    Prepares moment body control (meshReply ((prepareRevocation moment body).run control).1)
      ((prepareRevocation moment body).run control).2 := by
  rw [prepareRevocation]
  cases named : body.getD (lit "node_id") .null with
  | str nodeId =>
      have untouched := @untouched_collabNode moment nodeId control.stores
      cases looked : (collabNode moment nodeId).run control.stores with
      | mk result stores =>
          rw [looked] at untouched
          have onControl : (onStores (collabNode moment nodeId)).run control =
              (result, { control with stores := stores }) := by
            rw [onStores, run_zoom, looked]
          cases result with
          | error fault =>
              simp only [run_bind_error onControl]
              exact ⟨untouched, .inl ⟨by simp [meshReply, serverError], rfl⟩⟩
          | ok node =>
              simp only [run_bind_ok onControl]
              by_cases present : node.truthy = true
              · rw [if_pos present]
                exact ⟨untouched, .inr ⟨nodeId, rfl, rfl, named, rfl⟩⟩
              · rw [if_neg present]
                exact ⟨untouched, .inl ⟨by simp [meshReply, nodeNotFound, errorReply], rfl⟩⟩
  | _ => exact ⟨.refl _, .inl ⟨by simp [meshReply, nodeNotFound, errorReply], rfl⟩⟩

/-- A confirmation that stands is answered with a revocation, or with an error. -/
theorem run_confirmRevocation (moment : MeshMoment) (nodeId : PyStr) (control : MeshControl) :
    (∃ after notices, (revokeNode py moment.isoNow nodeId).run control.stores = (.ok true, after) ∧
      (confirmRevocation py moment nodeId).run control =
        (.ok ⟨200, [(lit "status", .str (lit "ok")), (lit "revoked", .str nodeId)]⟩,
          { control with stores := after, notices := notices })) ∨
    ((revokeNode py moment.isoNow nodeId).run control.stores).1 ≠ .ok true ∧
      (meshReply ((confirmRevocation py moment nodeId).run control).1).status ≠ 200 ∧
      ((confirmRevocation py moment nodeId).run control).2 = { control with
        stores := ((revokeNode py moment.isoNow nodeId).run control.stores).2 } := by
  rw [confirmRevocation]
  cases ran : (revokeNode py moment.isoNow nodeId).run control.stores with
  | mk result stores =>
      have onControl : (onStores (revokeNode py moment.isoNow nodeId)).run control =
          (result, { control with stores := stores }) := by
        rw [onStores, run_zoom, ran]
      cases result with
      | error fault =>
          right
          rw [run_bind_error onControl]
          exact ⟨by simp, by simp [meshReply, serverError], rfl⟩
      | ok changed =>
          rw [run_bind_ok onControl]
          cases changed with
          | false =>
              right
              exact ⟨by simp, by simp [meshReply, nodeNotFound, errorReply], rfl⟩
          | true =>
              left
              exact ⟨stores, _, rfl, rfl⟩

/-- A challenge is forgotten before it is checked. -/
theorem run_answerConfirmation (moment : MeshMoment) (body : JsonObject) (control : MeshControl) :
    (answerConfirmation py moment body).run control =
      match checkConfirmation moment.now body (control.recordOf body) with
      | .error reply => (.ok reply, control.forgetting body)
      | .ok nodeId => (confirmRevocation py moment nodeId).run (control.forgetting body) := by
  have popped : (popChallenge (body.getD (lit "challenge") .null)).run control =
      (.ok (control.recordOf body), control.forgetting body) := by
    rw [MeshControl.recordOf, MeshControl.forgetting]
    cases body.getD (lit "challenge") .null <;> rfl
  rw [answerConfirmation, run_bind_ok popped]
  cases checkConfirmation moment.now body (control.recordOf body) with
  | error reply => rfl
  | ok nodeId => rfl

/-- The answer to a confirmation that does not stand is an error. -/
theorem status_of_checkConfirmation {now : Binary64} {record : Option Challenge} {reply : Reply}
    (refused : checkConfirmation now body record = .error reply) : reply.status ≠ 200 := by
  unfold checkConfirmation at refused
  split at refused
  · cases refused
    decide
  · split at refused
    · cases refused
      decide
    · split at refused
      · cases refused
        decide
      · cases refused

/-- A confirmation stands for a challenge of its node that has not expired. -/
theorem record_of_checkConfirmation {now : Binary64} {record : Option Challenge} {nodeId : PyStr}
    (stands : checkConfirmation now body record = .ok nodeId) :
    ∃ found, record = some found ∧ found.nodeId = nodeId ∧
      found.expiresAt.lt (.finite now) = false := by
  unfold checkConfirmation at stands
  split at stands
  · cases stands
  · next found =>
      split at stands
      · cases stands
      · next valid =>
          split at stands
          · cases stands
          · cases stands
            simp only [Bool.or_eq_true, not_or, Bool.not_eq_true] at valid
            exact ⟨found, rfl, rfl, valid.1⟩

/-- What is left of a request to revoke that has been read, with its answer. -/
structure Answers (py : Platform) (moment : MeshMoment) (body : JsonObject) (before : MeshControl)
    (reply : Reply) (after : MeshControl) : Prop where
  challenges : after.challenges = (before.forgetting body).challenges
  refused : ∀ error, checkConfirmation moment.now body (before.recordOf body) = .error error →
    reply = error ∧ after.stores = before.stores
  confirmed : ∀ nodeId, checkConfirmation moment.now body (before.recordOf body) = .ok nodeId →
    (reply = ⟨200, [(lit "status", .str (lit "ok")), (lit "revoked", .str nodeId)]⟩ ∧
      (revokeNode py moment.isoNow nodeId).run before.stores = (.ok true, after.stores)) ∨
    (reply.status ≠ 200 ∧ ((revokeNode py moment.isoNow nodeId).run before.stores).1 ≠ .ok true ∧
      after.stores = ((revokeNode py moment.isoNow nodeId).run before.stores).2)

theorem stores_forgetting (body : JsonObject) (control : MeshControl) :
    (control.forgetting body).stores = control.stores := by
  unfold MeshControl.forgetting
  split
  · rfl
  · rfl

theorem answers_answerConfirmation (py : Platform) (moment : MeshMoment) (body : JsonObject)
    (control : MeshControl) :
    Answers py moment body control (meshReply ((answerConfirmation py moment body).run control).1)
      ((answerConfirmation py moment body).run control).2 := by
  rw [run_answerConfirmation]
  cases checked : checkConfirmation moment.now body (control.recordOf body) with
  | error error =>
      refine ⟨rfl, ?_, ?_⟩
      · intro other same
        cases checked.symm.trans same
        exact ⟨rfl, stores_forgetting body control⟩
      · intro nodeId same
        cases checked.symm.trans same
  | ok nodeId =>
      have same := stores_forgetting body control
      rcases @run_confirmRevocation py moment nodeId (control.forgetting body) with
        ⟨after, notices, ran, answered⟩ | ⟨failed, status, left⟩
      · simp only [answered]
        refine ⟨rfl, ?_, ?_⟩
        · intro error other
          cases checked.symm.trans other
        · intro other found
          cases checked.symm.trans found
          rw [same] at ran
          exact .inl ⟨rfl, ran⟩
      · simp only [left]
        refine ⟨rfl, ?_, ?_⟩
        · intro error other
          cases checked.symm.trans other
        · intro other found
          cases checked.symm.trans found
          rw [same] at failed ⊢
          exact .inr ⟨status, failed, rfl⟩

/-- What a call does: it is answered as a confirmation that is read, or as a request for a
challenge, or neither issues nor presents a challenge. -/
inductive StepOf (py : Platform) (control : MeshControl) (call : MeshCall) :
    Option Reply → MeshControl → Prop where
  | confirmed (moment : MeshMoment) (body : JsonObject) (reply : Reply) (after : MeshControl)
      (read : call.confirmation? = some (moment, body))
      (answers : Answers py moment body control reply after) : StepOf py control call (some reply) after
  | prepared (moment : MeshMoment) (request : MeshRequest) (reply : Reply) (after : MeshControl)
      (isPrepare : call = .prepare moment request)
      (prepares : Prepares moment (request.body.getD .empty) control reply after) :
      StepOf py control call (some reply) after
  | refused (reply : Reply) (after : MeshControl) (unread : call.confirmation? = none)
      (notPrepare : ∀ moment request, call ≠ .prepare moment request) (status : reply.status ≠ 200)
      (stores : after.stores = control.stores) (challenges : after.challenges = control.challenges) :
      StepOf py control call (some reply) after
  | elsewhere (stores : MeshStores) (isElsewhere : call = .elsewhere stores) :
      StepOf py control call none { control with stores := stores }

theorem step_prepare (moment : MeshMoment) (request : MeshRequest) (control : MeshControl) :
    (revocationMachine py).step control (.prepare moment request) =
      (some (meshReply ((apiMeshPrepareRevoke moment request).run control).1),
        ((apiMeshPrepareRevoke moment request).run control).2) := rfl

theorem step_revoke (moment : MeshMoment) (request : MeshRequest) (control : MeshControl) :
    (revocationMachine py).step control (.revoke moment request) =
      (some (meshReply ((apiMeshRevoke py moment request).run control).1),
        ((apiMeshRevoke py moment request).run control).2) := rfl

theorem stepOf (py : Platform) (control : MeshControl) (call : MeshCall) :
    StepOf py control call ((revocationMachine py).step control call).1
      ((revocationMachine py).step control call).2 := by
  cases call with
  | prepare moment request =>
      rw [step_prepare]
      apply StepOf.prepared moment request _ _ rfl
      by_cases reached : ∃ body, request.retryAfter = none ∧ request.owner = true ∧
          request.body = some body
      · obtain ⟨body, admitted, owner, hasBody⟩ := reached
        have handled : apiMeshPrepareRevoke moment request = prepareRevocation moment body := by
          rw [apiMeshPrepareRevoke, ownerRequest, admitted, owner, hasBody]
        rw [handled, hasBody]
        exact run_prepareRevocation moment body control
      · obtain ⟨reply, notices, ran, status⟩ := @run_ownerRequest_of_refused moment request control
          "mesh-revoke-prepare" (prepareRevocation moment) reached
        rw [apiMeshPrepareRevoke, ran]
        exact ⟨.refl _, .inl ⟨status, rfl⟩⟩
  | revoke moment request =>
      rw [step_revoke]
      by_cases reached : ∃ body, request.retryAfter = none ∧ request.owner = true ∧
          request.body = some body
      · obtain ⟨body, admitted, owner, hasBody⟩ := reached
        have handled : apiMeshRevoke py moment request = answerConfirmation py moment body := by
          rw [apiMeshRevoke, ownerRequest, admitted, owner, hasBody]
        rw [handled]
        apply StepOf.confirmed moment body
        · obtain ⟨client, retryAfter, isOwner, content⟩ := request
          cases admitted
          cases owner
          cases hasBody
          rfl
        · exact answers_answerConfirmation py moment body control
      · obtain ⟨reply, notices, ran, status⟩ := @run_ownerRequest_of_refused moment request control
          "mesh-revoke-confirm" (answerConfirmation py moment) reached
        rw [apiMeshRevoke, ran]
        apply StepOf.refused
        · unfold MeshCall.confirmation?
          split
          · next same =>
              cases same
              exact absurd ⟨_, rfl, rfl, rfl⟩ reached
          · rfl
        · intro moment request same
          cases same
        · exact status
        · rfl
        · rfl
  | elsewhere stores => exact .elsewhere stores rfl

/-! ## Challenges as tickets -/

/-- What a step does with the challenges. -/
def ticketCall (event : MeshEvent) : TicketCall PyStr Challenge :=
  match issued? event with
  | some grant => .issue grant.challenge (challengeFor grant.time grant.nodeId)
  | none =>
      match event.input.presented? with
      | some challenge => .take challenge
      | none => .idle

/-- What the server knows of each challenge. -/
def MeshControl.held (control : MeshControl) : PyStr → Option Challenge :=
  fun challenge => control.challenges.get? challenge

theorem held_congr {left right : MeshControl} (same : left.challenges = right.challenges) :
    left.held = right.held := by
  funext challenge
  rw [MeshControl.held, MeshControl.held, same]

theorem held_set (challenges : Dict PyStr Challenge) (challenge : PyStr) (record : Challenge) :
    (fun other => (challenges.set challenge record).get? other) =
      Function.update (fun other => challenges.get? other) challenge (some record) := by
  funext other
  rw [Dict.get?_set, Function.update_apply]

theorem held_erase (challenges : Dict PyStr Challenge) (challenge : PyStr) :
    (fun other => (challenges.erase challenge).get? other) =
      Function.update (fun other => challenges.get? other) challenge none := by
  funext other
  rw [Dict.get?_erase, Function.update_apply]

/-- The event of a step. -/
def eventOf (py : Platform) (control : MeshControl) (call : MeshCall) : MeshEvent :=
  ⟨control, call, ((revocationMachine py).step control call).1,
    ((revocationMachine py).step control call).2⟩

/-- The table of challenges is a desk at which they are tickets. -/
theorem held_step (py : Platform) (control : MeshControl) (call : MeshCall) :
    ((revocationMachine py).step control call).2.held =
      (ticketDesk.step control.held (ticketCall (eventOf py control call))).2 := by
  have step := stepOf py control call
  rw [eventOf]
  generalize ((revocationMachine py).step control call).1 = output at step ⊢
  generalize ((revocationMachine py).step control call).2 = state at step ⊢
  cases step with
  | confirmed moment body reply _ read answers =>
      have notIssue : issued? ⟨control, call, some reply, state⟩ = none := by
        cases call with
        | prepare moment request => cases read
        | revoke moment request => rfl
        | elsewhere stores => rfl
      rw [ticketCall, notIssue, held_congr answers.challenges]
      simp only [MeshCall.presented?, read, MeshControl.forgetting]
      cases body.getD (lit "challenge") .null with
      | str challenge => exact held_erase _ _
      | _ => rfl
  | prepared moment request reply _ isPrepare prepares =>
      subst isPrepare
      rcases prepares.challenge with ⟨status, same⟩ | ⟨nodeId, status, inReply, named, issued⟩
      · have notIssue : issued? ⟨control, .prepare moment request, some reply, state⟩ = none := by
          rw [issued?]
          simp only [if_neg status]
        rw [ticketCall, notIssue, held_congr same]
        rfl
      · have isIssue : issued? ⟨control, .prepare moment request, some reply, state⟩ =
            some ⟨moment.challenge.text, nodeId, moment.now⟩ := by
          rw [issued?]
          simp only [if_pos status, inReply, named, Option.getD_some, grant?]
        have added : state.held = fun other => (control.challenges.set moment.challenge.text
            (challengeFor moment.now nodeId)).get? other := by
          rw [← issued]
          rfl
        rw [ticketCall, isIssue, added]
        exact held_set _ _ _
  | refused reply _ unread notPrepare status stores challenges =>
      have notIssue : issued? ⟨control, call, some reply, state⟩ = none := by
        cases call with
        | prepare moment request => exact absurd rfl (notPrepare moment request)
        | revoke moment request => rfl
        | elsewhere stores => rfl
      rw [ticketCall, notIssue, held_congr challenges]
      simp only [MeshCall.presented?, unread]
      rfl
  | elsewhere stores isElsewhere =>
      subst isElsewhere
      rfl

theorem held_run (py : Platform) (control : MeshControl) (calls : List MeshCall) :
    ((revocationMachine py).run control calls).held =
      ticketDesk.run control.held (((revocationMachine py).trace control calls).map ticketCall) := by
  induction calls generalizing control with
  | nil => rfl
  | cons call rest ih =>
      rw [Machine.run_cons, Machine.trace, List.map_cons, Machine.run_cons, ih, held_step]
      rfl

theorem held_started (py : Platform) (stores : MeshStores) (calls : List MeshCall) :
    ((revocationMachine py).run (.started stores) calls).held =
      heldAfter (((revocationMachine py).trace (.started stores) calls).map ticketCall) :=
  held_run py (.started stores) calls

theorem issued_of_ticketCall {event : MeshEvent} {challenge : PyStr} {record : Challenge}
    (issues : ticketCall event = .issue challenge record) :
    ∃ grant, issued? event = some grant ∧ grant.challenge = challenge ∧
      record = challengeFor grant.time grant.nodeId := by
  unfold ticketCall at issues
  split at issues
  · next grant found =>
      cases issues
      exact ⟨grant, found, rfl, rfl⟩
  · split at issues
    · cases issues
    · cases issues

theorem issuedTickets_map (events : List MeshEvent) :
    issuedTickets (events.map ticketCall) = issuedChallenges events := by
  rw [issuedTickets, issuedChallenges, List.filterMap_map, List.map_filterMap]
  apply List.filterMap_congr
  intro event member
  rw [Function.comp_apply, ticketCall]
  cases issued? event with
  | some grant => rfl
  | none => cases event.input.presented? <;> rfl

theorem time_of_grant? {challenge nodeId : Json} {time : Binary64} {grant : Grant}
    (made : grant? challenge nodeId time = some grant) :
    challenge = .str grant.challenge ∧ nodeId = .str grant.nodeId ∧ grant.time = time := by
  unfold grant? at made
  split at made
  · cases made
    exact ⟨rfl, rfl, rfl⟩
  · cases made

theorem time_of_issued {event : MeshEvent} {grant : Grant} (issued : issued? event = some grant) :
    event.input.time? = some grant.time := by
  unfold issued? at issued
  split at issued
  · next moment request reply isPrepare isReply =>
      split at issued
      · rw [isPrepare, (time_of_grant? issued).2.2]
        rfl
      · cases issued
  · cases issued

theorem call_of_confirmation {call : MeshCall} (read : call.confirmation? = some (moment, body)) :
    ∃ request, call = .revoke moment request := by
  unfold MeshCall.confirmation? at read
  split at read
  · cases read
    exact ⟨_, rfl⟩
  · cases read

/-- What a successful revocation presents is a challenge that the server knows of. -/
structure Redeems (control : MeshControl) (call : MeshCall) (grant : Grant) : Prop where
  time : call.time? = some grant.time
  record : ∃ record, control.held grant.challenge = some record ∧ record.nodeId = grant.nodeId ∧
    record.expiresAt.lt (.finite grant.time) = false

/-- A successful revocation presents its challenge. -/
theorem presented_of_revoked {event : MeshEvent} {grant : Grant}
    (revoked : revoked? event = some grant) : event.input.presented? = some grant.challenge ∧
      ∃ reply, event.output = some reply ∧ reply.status = 200 := by
  unfold revoked? at revoked
  split at revoked
  · next moment body reply read isReply =>
      split at revoked
      · next status =>
          refine ⟨?_, reply, isReply, status⟩
          simp only [MeshCall.presented?, read, (time_of_grant? revoked).1]
      · cases revoked
  · cases revoked

theorem redeems_of_revoked {call : MeshCall} {grant : Grant}
    (revoked : revoked? (eventOf py control call) = some grant) : Redeems control call grant := by
  have step := stepOf py control call
  rw [eventOf] at revoked
  generalize ((revocationMachine py).step control call).1 = output at step revoked
  generalize ((revocationMachine py).step control call).2 = state at step revoked
  cases step with
  | confirmed moment body reply _ read answers =>
      simp only [revoked?, read] at revoked
      split at revoked
      · next status =>
          obtain ⟨challenge, node, time⟩ := time_of_grant? revoked
          obtain ⟨request, rfl⟩ := call_of_confirmation read
          cases checked : checkConfirmation moment.now body (control.recordOf body) with
          | error error =>
              rw [(answers.refused error checked).1] at status
              exact absurd status (status_of_checkConfirmation checked)
          | ok nodeId =>
              obtain ⟨record, found, named, valid⟩ := record_of_checkConfirmation checked
              rcases answers.confirmed nodeId checked with ⟨isOk, -⟩ | ⟨failed, -⟩
              · rw [isOk] at node
                cases node
                simp only [MeshControl.recordOf, challenge] at found
                refine ⟨?_, record, found, named, ?_⟩
                · rw [time]
                  rfl
                · rw [time]
                  exact valid
              · exact absurd status failed
      · cases revoked
  | prepared moment request reply _ isPrepare prepares =>
      subst isPrepare
      cases revoked
  | refused reply _ unread notPrepare status stores challenges =>
      simp only [revoked?, unread] at revoked
      cases revoked
  | elsewhere stores isElsewhere =>
      subst isElsewhere
      cases revoked

/-- A challenge that the server does not know is refused. -/
theorem refused_of_not_held {call : MeshCall} {challenge : PyStr}
    (presented : call.presented? = some challenge) (unknown : control.held challenge = none) :
    ((revocationMachine py).step control call).1 = some invalidChallenge := by
  have step := stepOf py control call
  generalize ((revocationMachine py).step control call).1 = output at step ⊢
  generalize ((revocationMachine py).step control call).2 = state at step
  cases step with
  | confirmed moment body reply _ read answers =>
      simp only [MeshCall.presented?, read] at presented
      have noRecord : control.recordOf body = none := by
        rw [MeshControl.recordOf]
        cases isText : body.getD (lit "challenge") .null with
        | str text =>
            rw [isText] at presented
            cases presented
            exact unknown
        | _ => rfl
      have refused : checkConfirmation moment.now body (control.recordOf body) =
          .error invalidChallenge := by
        rw [noRecord]
        rfl
      rw [(answers.refused _ refused).1]
  | prepared moment request reply _ isPrepare prepares =>
      subst isPrepare
      cases presented
  | refused reply _ unread notPrepare status stores challenges =>
      simp only [MeshCall.presented?, unread] at presented
      cases presented
  | elsewhere stores isElsewhere =>
      subst isElsewhere
      cases presented

/-- With the stores fit, what does not succeed changes nothing. -/
theorem untouched_step {call : MeshCall} (fit : StoresFit py control call) {reply : Reply}
    (answered : ((revocationMachine py).step control call).1 = some reply)
    (failed : reply.status ≠ 200) :
    Untouched control.stores ((revocationMachine py).step control call).2.stores := by
  have step := stepOf py control call
  generalize ((revocationMachine py).step control call).1 = output at step answered
  generalize ((revocationMachine py).step control call).2 = state at step ⊢
  cases step with
  | confirmed moment body other _ read answers =>
      cases answered
      cases checked : checkConfirmation moment.now body (control.recordOf body) with
      | error error =>
          rw [(answers.refused error checked).2]
          exact .refl _
      | ok nodeId =>
          rcases answers.confirmed nodeId checked with ⟨isOk, -⟩ | ⟨-, notRevoked, left⟩
          · rw [isOk] at failed
            exact absurd rfl failed
          · have can := fit moment body nodeId read checked
            by_cases recorded : ∃ nodes record,
                HasRecord nodeId control.stores.toAuthStores nodes record
            · obtain ⟨nodes, record, recorded⟩ := recorded
              obtain ⟨after, ran⟩ := run_revokeNode_of_revocable recorded (can _ _ recorded)
              rw [ran] at notRevoked
              exact absurd rfl notRevoked
            · obtain ⟨result, ran, -⟩ := @run_revokeNode_of_none py moment.isoNow nodeId
                control.stores fun nodes record has => recorded ⟨nodes, record, has⟩
              rw [left, ran]
              exact .refl _
  | prepared moment request other _ isPrepare prepares => exact prepares.untouched
  | refused other _ unread notPrepare status stores challenges =>
      rw [stores]
      exact .refl _
  | elsewhere stores isElsewhere => cases answered

/-- Where the stores are not fit to revoke a node that is not revoked yet, the request fails
and leaves the node marked. -/
theorem touched_of_unfit {call : MeshCall} {nodeId : PyStr} {nodes record : Dict PyStr Json}
    (read : call.confirmation? = some (moment, body))
    (stands : checkConfirmation moment.now body (control.recordOf body) = .ok nodeId)
    (recorded : HasRecord nodeId control.stores.toAuthStores nodes record)
    (notYet : record.get? (lit "status") ≠ some (.str (lit "revoked")))
    (unfit : ¬Revocable py moment.isoNow nodeId control.stores nodes record) :
    ∃ reply, ((revocationMachine py).step control call).1 = some reply ∧ reply.status ≠ 200 ∧
      ¬Untouched control.stores ((revocationMachine py).step control call).2.stores := by
  obtain ⟨request, rfl⟩ := call_of_confirmation read
  have step := stepOf py control (.revoke moment request)
  generalize ((revocationMachine py).step control (.revoke moment request)).1 = output at step ⊢
  generalize ((revocationMachine py).step control (.revoke moment request)).2 = state at step ⊢
  obtain ⟨fault, after, ran, marked⟩ := run_revokeNode_of_not_revocable recorded unfit
  cases step with
  | confirmed other found reply _ isRead answers =>
      cases read.symm.trans isRead
      rcases answers.confirmed nodeId stands with ⟨-, isOk⟩ | ⟨status, -, left⟩
      · cases ran.symm.trans isOk
      · refine ⟨reply, rfl, status, ?_⟩
        intro untouched
        have same := untouched.nodes
        obtain ⟨table, present, -⟩ := recorded
        have before : control.stores.state.get? (lit "nodes") = some (.obj nodes) := by
          rw [nodesOf, getOr] at table
          cases found : control.stores.state.get? (lit "nodes") with
          | none =>
              rw [found] at table
              cases table
              cases present
          | some value =>
              rw [found] at table
              cases value with
              | obj fields =>
                  cases table
                  rfl
              | _ => cases table
        rw [left, ran, marked, stateWithNode, Dict.get?_set_self, before] at same
        have records := congrArg (fun table : Dict PyStr Json => table.get? nodeId)
          (Json.obj.inj (Option.some.inj same))
        simp only [Dict.get?_set_self, present] at records
        apply notYet
        rw [← Json.obj.inj (Option.some.inj records), revokedRecord,
          Dict.get?_set_of_ne (by simp), Dict.get?_set_self]
  | prepared other request reply _ isPrepare prepares => cases isPrepare
  | refused reply _ unread notPrepare status stores challenges => cases read.symm.trans unread
  | elsewhere stores isElsewhere => cases isElsewhere

/-! ## Runs -/

section Runs

variable {stores : MeshStores} {calls : List MeshCall}

theorem ticketCall_of_presented {event : MeshEvent} {challenge : PyStr}
    (presented : event.input.presented? = some challenge) : ticketCall event = .take challenge := by
  have notIssue : issued? event = none := by
    unfold issued?
    split
    · next isPrepare isReply =>
        rw [isPrepare] at presented
        cases presented
    · rfl
  rw [ticketCall, notIssue]
  simp only [presented]

/-- What is revoked was prepared for the same node within the last minute. -/
theorem prepared_of_revoked
    (ordered : (calls.filterMap MeshCall.time?).Pairwise fun earlier later =>
      earlier.units ≤ later.units)
    {past future : List MeshEvent} {event : MeshEvent}
    (split : (revocationMachine py).trace (.started stores) calls = past ++ event :: future)
    {grant : Grant} (revoked : revoked? event = some grant) :
    ∃ issue ∈ past.filterMap issued?, issue.challenge = grant.challenge ∧
      issue.nodeId = grant.nodeId ∧ WithinMinute issue.time grant.time := by
  obtain ⟨earlier, call, later, rfl, rfl, rfl, -⟩ := Machine.trace_split split
  obtain ⟨time, record, held, named, valid⟩ := redeems_of_revoked revoked
  rw [held_started] at held
  obtain ⟨before, member, isIssue⟩ := List.mem_map.mp (issue_mem_of_held held)
  obtain ⟨issue, issued, same, rfl⟩ := issued_of_ticketCall isIssue
  refine ⟨issue, List.mem_filterMap.mpr ⟨before, member, issued⟩, same, named, ?_, valid⟩
  rw [List.filterMap_append, List.pairwise_append] at ordered
  apply ordered.2.2
  · apply List.mem_filterMap.mpr
    refine ⟨before.input, ?_, time_of_issued issued⟩
    rw [← (revocationMachine py).inputs_trace (.started stores) earlier]
    exact List.mem_map_of_mem member
  · exact List.mem_filterMap.mpr ⟨call, List.mem_cons_self, time⟩

/-- A challenge that has been presented is refused. -/
theorem refused_of_presented
    (unique : (issuedChallenges ((revocationMachine py).trace (.started stores) calls)).Nodup)
    {past future : List MeshEvent} {event : MeshEvent}
    (split : (revocationMachine py).trace (.started stores) calls = past ++ event :: future)
    {challenge : PyStr} (presented : event.input.presented? = some challenge)
    (issued : challenge ∈ issuedChallenges past) {later : MeshEvent} (member : later ∈ future)
    (again : later.input.presented? = some challenge) : later.output = some invalidChallenge := by
  obtain ⟨between, rest, rfl⟩ := List.append_of_mem member
  have regrouped : (revocationMachine py).trace (.started stores) calls =
      (past ++ event :: between) ++ later :: rest := by
    rw [split, List.append_assoc, List.cons_append]
  rw [regrouped] at unique
  obtain ⟨earlier, call, others, -, isTrace, rfl, -⟩ := Machine.trace_split regrouped
  apply refused_of_not_held again
  rw [held_started, ← isTrace, List.map_append, List.map_cons, ticketCall_of_presented presented]
  apply not_held_of_taken
  · rwa [issuedTickets_map]
  · rw [← ticketCall_of_presented presented, ← List.map_cons, ← List.map_append, issuedTickets_map]
    rw [issuedChallenges, List.filterMap_append, List.map_append] at unique
    exact List.Nodup.of_append_left unique

/-- Whatever the owner's clients send in whatever order, every revocation uses up a challenge
that was prepared for its node within the last minute, no challenge is accepted after it has
been presented, and what does not succeed changes nothing, provided that the challenges are
unique, the clock does not go back and the stores are fit for each confirmation that stands. -/
theorem twoSteps_of_storesFit
    (unique : (issuedChallenges ((revocationMachine py).trace (.started stores) calls)).Nodup)
    (ordered : (calls.filterMap MeshCall.time?).Pairwise fun earlier later =>
      earlier.units ≤ later.units)
    (fit : (revocationMachine py).Allowed (StoresFit py) (.started stores) calls) :
    TwoSteps ((revocationMachine py).trace (.started stores) calls) where
  prepared := by
    intro past event future split grant revoked
    exact prepared_of_revoked ordered split revoked
  distinct := by
    rw [List.Nodup, List.pairwise_map, List.pairwise_filterMap]
    apply Machine.pairwise_of_splits
    intro past event future split later member first revokes second revokesAgain same
    obtain ⟨issue, issued, isFirst, -⟩ := prepared_of_revoked ordered split revokes
    have presented := (presented_of_revoked revokes).1
    obtain ⟨again, reply, isReply, status⟩ := presented_of_revoked revokesAgain
    rw [← same] at again
    have issuedBefore : first.challenge ∈ issuedChallenges past :=
      isFirst ▸ List.mem_map_of_mem issued
    have refused := refused_of_presented unique split presented issuedBefore member again
    rw [isReply] at refused
    cases refused
    cases status
  spent := by
    intro past event future split challenge presented issued later member again
    exact refused_of_presented unique split presented issued member again
  untouched := by
    apply @Machine.trace_invariant _ _ _ (revocationMachine py) (StoresFit py) (fun _ => True)
      fun event => ∀ reply, event.output = some reply → reply.status ≠ 200 →
        Untouched event.before.stores event.after.stores
    · intro control call holds fit
      trivial
    · intro control call holds fit reply answered failed
      exact untouched_step fit answered failed
    · trivial
    · exact fit

end Runs

/-! ## A revocation that fails halfway -/

/-- Stores with one active node and a token file with some content. -/
def oneNode (tokens : StoreFile) : MeshStores where
  codes := .decoded (.obj [])
  tokens := tokens
  certificates := []
  certificateFile := []
  state := [(lit "nodes", .obj [(lit "n-1", .obj [(lit "status", .str (lit "active"))])])]
  stateFile := [(lit "nodes", .obj [(lit "n-1", .obj [(lit "status", .str (lit "active"))])])]
  revoked := .decoded (.obj [(lit "nodes", .arr [])])

theorem plain_zeroText : ∀ c ∈ lit "0", IsPlain c := isPlain_lit _ (by decide)

/-- The moment of the closed examples, with `c` for a challenge. -/
def MeshMoment.first : MeshMoment where
  now := zeroTime
  isoNow := ⟨lit "0", plain_zeroText⟩
  challenge := ⟨lit "c", isPlain_lit _ (by decide)⟩
  audit := .ok true
  files := .ok ()

/-- What the owner sends to prepare the revocation of `n-1`. -/
def preparation : JsonObject := JsonObject.empty.setText (lit "node_id") (lit "n-1")

/-- What the owner sends to confirm it. -/
def confirmation : JsonObject :=
  ((preparation.setText (lit "challenge") (lit "c")).setText (lit "confirmation")
    (lit "REVOKE n-1")).setText (lit "mesh_confirmation") (lit "CONFIRM MESH REVOKE")

/-- The two requests, one after the other. -/
def bothSteps : List MeshCall :=
  [.prepare .first ⟨lit "127.0.0.1", none, true, some preparation⟩,
    .revoke .first ⟨lit "127.0.0.1", none, true, some confirmation⟩]

/-- The server between the two requests. -/
def betweenSteps (tokens : StoreFile) : MeshControl :=
  (revocationMachine Platform.plain).run (.started (oneNode tokens)) (bothSteps.take 1)

theorem stands_bothSteps (tokens : StoreFile) :
    checkConfirmation MeshMoment.first.now confirmation ((betweenSteps tokens).recordOf confirmation) =
      .ok (lit "n-1") := by
  have record : (betweenSteps tokens).recordOf confirmation =
      some (challengeFor zeroTime (lit "n-1")) := rfl
  have unexpired : (challengeFor zeroTime (lit "n-1")).expiresAt.lt (.finite zeroTime) = false := by
    decide +kernel
  rw [record, checkConfirmation]
  simp only [MeshMoment.first, unexpired]
  rfl

theorem issuedChallenges_bothSteps (tokens : StoreFile) :
    issuedChallenges ((revocationMachine Platform.plain).trace (.started (oneNode tokens))
      bothSteps) = [lit "c"] := rfl

theorem ordered_bothSteps : (bothSteps.filterMap MeshCall.time?).Pairwise fun earlier later =>
    earlier.units ≤ later.units := by
  have times : bothSteps.filterMap MeshCall.time? = [zeroTime, zeroTime] := rfl
  rw [times]
  exact List.pairwise_pair.mpr (le_refl _)

/-- The token file cannot be decrypted: the request that confirms the revocation fails, after
the node has been marked as revoked. -/
theorem halfway_revocation :
    ((issuedChallenges ((revocationMachine Platform.plain).trace (.started (oneNode .invalid))
        bothSteps)).Nodup ∧
      (bothSteps.filterMap MeshCall.time?).Pairwise fun earlier later =>
        earlier.units ≤ later.units) ∧
    ¬TwoSteps ((revocationMachine Platform.plain).trace (.started (oneNode .invalid)) bothSteps) := by
  refine ⟨⟨?_, ordered_bothSteps⟩, ?_⟩
  · rw [issuedChallenges_bothSteps]
    exact List.nodup_singleton _
  · intro twoSteps
    have unfit : ¬Revocable Platform.plain MeshMoment.first.isoNow (lit "n-1")
        (betweenSteps .invalid).stores
        [(lit "n-1", .obj [(lit "status", .str (lit "active"))])]
        [(lit "status", .str (lit "active"))] := by
      intro fits
      obtain ⟨marked, read⟩ := fits.tokens
      cases read
    obtain ⟨reply, isReply, status, touched⟩ := @touched_of_unfit Platform.plain .first
      (betweenSteps .invalid) confirmation
      (.revoke .first ⟨lit "127.0.0.1", none, true, some confirmation⟩) (lit "n-1") _ _ rfl
      (stands_bothSteps .invalid) ⟨rfl, rfl, by simp⟩ (by simp [Dict.get?]) unfit
    apply touched
    apply twoSteps.untouched (eventOf Platform.plain (betweenSteps .invalid)
      (.revoke .first ⟨lit "127.0.0.1", none, true, some confirmation⟩)) _ reply isReply status
    exact List.mem_cons_of_mem _ List.mem_cons_self

/-- The stores of the example are fit when the token file is. -/
theorem storesFit_bothSteps :
    (revocationMachine Platform.plain).Allowed (StoresFit Platform.plain)
      (.started (oneNode (.decoded (.obj [(lit "tokens", .arr [])])))) bothSteps := by
  refine ⟨?_, ?_, trivial⟩
  · intro moment body nodeId read
    cases read
  · intro moment body nodeId read stands nodes record recorded
    cases read
    cases (stands_bothSteps _).symm.trans stands
    obtain ⟨table, found, nonempty⟩ := recorded
    cases table
    cases found
    refine ⟨?_, ?_, ⟨[], rfl⟩, ⟨[(lit "tokens", .arr [])], rfl⟩⟩
    · have value : Json.obj (stateWithNode (lit "n-1") (revokedRecord MeshMoment.first.isoNow
          [(lit "status", .str (lit "active"))])
          [(lit "n-1", .obj [(lit "status", .str (lit "active"))])]
          (betweenSteps (.decoded (.obj [(lit "tokens", .arr [])]))).stores.state) =
          .obj [(lit "nodes", .obj [(lit "n-1", .obj [(lit "status", .str (lit "revoked")),
            (lit "last_seen", .str (lit "0"))])]), (lit "audit_tampered", .bool false)] := rfl
      refine Eq.subst (motive := fun value => Encodable (Json.dumps .canonical value)) value.symm ?_
      apply Json.encodable_canonical
      simp [Json.AllStrings, Json.AllStringsFields, encodable_lit]
    · exact ⟨false, [], rfl, by simp⟩

/-- Both requests, with a token file that can be read. -/
theorem twoSteps_bothSteps :
    TwoSteps ((revocationMachine Platform.plain).trace
      (.started (oneNode (.decoded (.obj [(lit "tokens", .arr [])])))) bothSteps) := by
  apply twoSteps_of_storesFit
  · rw [issuedChallenges_bothSteps]
    exact List.nodup_singleton _
  · exact ordered_bothSteps
  · exact storesFit_bothSteps

end HermesMesh.Server
