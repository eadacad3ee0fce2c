import HermesMesh.Collab.Vault.Reader
import HermesMesh.Python.JsonLines
import HermesMesh.Server.ViewerGates

/-!
# The accesses of the viewers

`/api/state` and `/api/security` record every access that `_view_allowed` lets in before they
answer it, with the address that the client claims or has.  The log lists these accesses in
their order, and the security page shows the end of it.
-/

namespace HermesMesh.Server

open Python Foundation Collab

/-- `json.dumps(item, ensure_ascii=False, sort_keys=True)`. -/
def accessStyle : JsonStyle := ⟨escapePlain, lit ", ", lit ": ", true⟩

/-- The item of `_record_viewer_access`. -/
def accessItem (timestamp : PlainText) (endpoint identity : PyStr) (status : Int) :
    Dict PyStr Json :=
  [(lit "timestamp", .str timestamp.text), (lit "endpoint", .str endpoint),
    (lit "identity", .str identity), (lit "status", .int status)]

/-- `_record_viewer_access`: `none` is the `UnicodeEncodeError` that it lets through; a refused
write is an `OSError`. -/
def recordViewerAccess (refused : Bool) (item : Dict PyStr Json) (file : Option ByteArray) :
    Option (Option ByteArray) :=
  if refused then some file else (appendRow (Json.dumps accessStyle (.obj item)) file).map some

/-- The body of the loop of `_read_viewer_access`. -/
def accessLine (line : PyStr) : Option (Dict PyStr Json) :=
  if isBlank line then none else (loads line).bind asObject

/-- `_read_viewer_access`: `none` is the `UnicodeDecodeError` that it lets through. -/
def readViewerAccess (refused : Bool) (limit : Int) (file : Option ByteArray) :
    Option (List (Dict PyStr Json)) :=
  if refused then some []
  else (readRows accessLine file).map (lastN (max 1 (min limit 200)).toNat)

/-! ## Requests -/

/-- `K2_TRUST_XFF` beside the settings of the gate. -/
structure AccessConfig where
  viewer : ViewerConfig
  trustForwarded : Bool

inductive Endpoint where
  | state
  | security

def Endpoint.path : Endpoint → PyStr
  | .state => lit "/api/state"
  | .security => lit "/api/security"

/-- A request for a page, and what the environment does to it. -/
structure AccessRequest where
  view : ViewerRequest
  /-- `X-Forwarded-For`; a missing header is an empty one. -/
  forwardedFor : PyStr
  endpoint : Endpoint
  timestamp : PlainText
  writeRefused : Bool
  readRefused : Bool
  /-- What the handler does besides raises an exception. -/
  pageFails : Bool

/-- `_client_ip` -/
def clientIp (config : AccessConfig) (request : AccessRequest) : PyStr :=
  let first := strip (request.forwardedFor.takeWhile fun c => c != comma)
  if config.trustForwarded = true ∧ first ≠ [] then first
  else (textOr request.view.remote (some (lit "unknown"))).getD []

/-- What the handler records. -/
def AccessRequest.item (config : AccessConfig) (request : AccessRequest) : Dict PyStr Json :=
  accessItem request.timestamp request.endpoint.path (clientIp config request) 200

inductive AccessAnswer where
  /-- Status 500. -/
  | failed
  | forbidden
  | state
  /-- The page with its `viewer_access`. -/
  | security (accesses : List (Dict PyStr Json))

/-- The rest of the handlers, once the access is recorded. -/
def answerAccess (request : AccessRequest) (file : Option ByteArray) : AccessAnswer :=
  if request.pageFails then .failed
  else
    match request.endpoint with
    | .state => .state
    | .security =>
        match readViewerAccess request.readRefused 50 file with
        | none => .failed
        | some accesses => .security accesses

/-- `api_state` and `api_security`, as far as the log of accesses goes. -/
def accessMachine (py : Platform) (config : AccessConfig) :
    Machine (Option ByteArray) AccessRequest AccessAnswer where
  step file request :=
    match viewAllowed py config.viewer request.view with
    | .error _ => (.failed, file)
    | .ok false => (.forbidden, file)
    | .ok true =>
        match recordViewerAccess request.writeRefused (request.item config) file with
        | none => (.failed, file)
        | some after => (answerAccess request after, after)

/-! ## Rows -/

theorem oneLine_accessStyle : accessStyle.OneLine where
  escape := uncontrolled_escapePlain
  itemSep c member := (isPlain_lit ", " (by decide) c member).1
  keySep c member := (isPlain_lit ": " (by decide) c member).1

theorem spaced_accessStyle : JsonScanner.Spaced accessStyle := by
  have space : ∀ c ∈ ([32] : PyStr), JsonScanner.isWs c = true := by
    intro c member
    rw [List.mem_singleton.mp member]
    rfl
  exact ⟨⟨[32], rfl, space⟩, ⟨[32], rfl, space⟩⟩

/-- The fields of an access in the order in which they are read back. -/
def accessRow (item : Dict PyStr Json) : Dict PyStr Json :=
  Json.orderFields accessStyle (Json.orderedFields accessStyle item)

theorem distinct_accessItem (timestamp : PlainText) (endpoint identity : PyStr) (status : Int) :
    (Json.obj (accessItem timestamp endpoint identity status)).Distinct := by
  refine ⟨?_, trivial, trivial, trivial, trivial, trivial⟩
  simp only [accessItem, List.map_cons, List.map_nil, List.nodup_cons, List.mem_cons, lit_inj]
  decide

/-- Whatever its texts are, an item that was written is read back. -/
theorem accessLine_row {item : Dict PyStr Json} (distinct : (Json.obj item).Distinct) :
    accessLine (Json.dumps accessStyle (.obj item) ++ [lineFeed]) = some (accessRow item) := by
  have notBlank : isBlank (Json.dumps accessStyle (.obj item) ++ [lineFeed]) = false := by
    have brace : isSpace openBrace = false := by decide
    simp [Json.dumps, isBlank, brace]
  have preserved := Json.allStrings_of_forall
    (JsonScanner.readsBack_escapePlain accessStyle rfl) (.obj item)
  have back := loads_dumps spaced_accessStyle distinct preserved
    (fun c member => List.mem_singleton.mp member ▸ (by decide : JsonScanner.isWs lineFeed = true))
  rw [accessLine, notBlank, if_neg Bool.false_ne_true, back]
  rfl

/-! ## Runs -/

/-- The row that a request leaves in the log: it is let in, its address is a text for a file,
and the write is not refused. -/
def AccessRequest.row? (py : Platform) (config : AccessConfig) (request : AccessRequest) :
    Option (Dict PyStr Json) :=
  match viewAllowed py config.viewer request.view with
  | .ok true =>
      if request.writeRefused then none
      else (encodeUtf8 (Json.dumps accessStyle (.obj (request.item config)) ++ [lineFeed])).map
        fun _ => accessRow (request.item config)
  | _ => none

/-- The answers that have data of the monitor in them. -/
def AccessAnswer.Serves : AccessAnswer → Prop
  | .state | .security _ => True
  | _ => False

section Runs

variable {py : Platform} {config : AccessConfig}

/-- What is right about an answer, where these are the rows with that of its request: what is
served was let in and, unless the write was refused, recorded, and it shows the last rows. -/
structure AccessRight (py : Platform) (config : AccessConfig) (rows : List (Dict PyStr Json))
    (request : AccessRequest) (answer : AccessAnswer) : Prop where
  allowed : answer.Serves → viewAllowed py config.viewer request.view = .ok true
  recorded : answer.Serves → request.writeRefused = false →
    request.row? py config = some (accessRow (request.item config))
  shown : ∀ shown, answer = .security shown → request.readRefused = false → shown = lastN 50 rows

theorem accessRight_of_not_serves {rows : List (Dict PyStr Json)} {request : AccessRequest}
    {answer : AccessAnswer} (silent : ¬answer.Serves) :
    AccessRight py config rows request answer where
  allowed serves := absurd serves silent
  recorded serves := absurd serves silent
  shown _ isSecurity := absurd (isSecurity ▸ trivial) silent

/-- The rest of the handlers shows what the file holds. -/
theorem accessRight_answerAccess {rows : List (Dict PyStr Json)} {file : Option ByteArray}
    (holds : HoldsRows accessLine rows file) {request : AccessRequest}
    (allowed : viewAllowed py config.viewer request.view = .ok true)
    (recorded : request.writeRefused = false →
      request.row? py config = some (accessRow (request.item config))) :
    AccessRight py config rows request (answerAccess request file) where
  allowed _ := allowed
  recorded _ := recorded
  shown shown isSecurity readable := by
    unfold answerAccess at isSecurity
    split at isSecurity
    · cases isSecurity
    · split at isSecurity
      · cases isSecurity
      · rw [readViewerAccess, readable, if_neg Bool.false_ne_true, holds.readRows] at isSecurity
        cases isSecurity
        rfl

theorem access_unrecorded {rows : List (Dict PyStr Json)} {file : Option ByteArray}
    (holds : HoldsRows accessLine rows file) {request : AccessRequest} {answer : AccessAnswer}
    (noRow : request.row? py config = none) (right : AccessRight py config rows request answer)
    (stepped : (accessMachine py config).step file request = (answer, file)) :
    HoldsRows accessLine (rows ++ (request.row? py config).toList)
        ((accessMachine py config).step file request).2 ∧
      AccessRight py config (rows ++ (request.row? py config).toList) request
        ((accessMachine py config).step file request).1 := by
  rw [noRow, stepped, Option.toList_none, List.append_nil]
  exact ⟨holds, right⟩

theorem access_recorded {rows : List (Dict PyStr Json)} {file : Option ByteArray}
    (holds : HoldsRows accessLine rows file) {request : AccessRequest}
    (allowed : viewAllowed py config.viewer request.view = .ok true)
    (refused : request.writeRefused = false) {bytes : ByteArray}
    (encoded : encodeUtf8 (Json.dumps accessStyle (.obj (request.item config)) ++ [lineFeed]) =
      some bytes) :
    HoldsRows accessLine (rows ++ (request.row? py config).toList)
        ((accessMachine py config).step file request).2 ∧
      AccessRight py config (rows ++ (request.row? py config).toList) request
        ((accessMachine py config).step file request).1 := by
  have isRow : request.row? py config = some (accessRow (request.item config)) := by
    simp only [AccessRequest.row?, allowed, refused, encoded, Option.map_some,
      Bool.false_eq_true, if_false]
  have appended : appendRow (Json.dumps accessStyle (.obj (request.item config))) file =
      some (file.getD ByteArray.empty ++ bytes) := by
    rw [appendRow, encoded, Option.map_some]
  have stepped : (accessMachine py config).step file request =
      (answerAccess request (some (file.getD ByteArray.empty ++ bytes)),
        some (file.getD ByteArray.empty ++ bytes)) := by
    simp only [accessMachine, allowed, recordViewerAccess, refused, appended,
      Option.map_some, Bool.false_eq_true, if_false]
  have after := holds.append (oneLine_accessStyle.uncontrolled _)
    (dumps_obj_ne_nil _ _) appended (accessLine_row (distinct_accessItem _ _ _ _))
  rw [isRow, stepped]
  exact ⟨after, accessRight_answerAccess after allowed fun _ => isRow⟩

theorem access_step {rows : List (Dict PyStr Json)} {file : Option ByteArray}
    (holds : HoldsRows accessLine rows file) (request : AccessRequest) :
    HoldsRows accessLine (rows ++ (request.row? py config).toList)
        ((accessMachine py config).step file request).2 ∧
      AccessRight py config (rows ++ (request.row? py config).toList) request
        ((accessMachine py config).step file request).1 := by
  have failed : AccessRight py config rows request .failed := accessRight_of_not_serves id
  cases allowed : viewAllowed py config.viewer request.view with
  | error fault =>
      apply access_unrecorded holds _ failed
      · simp only [accessMachine, allowed]
      · simp only [AccessRequest.row?, allowed]
  | ok passes =>
      cases passes with
      | false =>
          have forbidden : AccessRight py config rows request .forbidden :=
            accessRight_of_not_serves id
          apply access_unrecorded holds _ forbidden
          · simp only [accessMachine, allowed]
          · simp only [AccessRequest.row?, allowed]
      | true =>
          cases refused : request.writeRefused with
          | true =>
              apply access_unrecorded holds
              · simp only [AccessRequest.row?, allowed, refused, if_true]
              · refine accessRight_answerAccess holds allowed fun unrefused => ?_
                rw [refused] at unrefused
                cases unrefused
              · simp only [accessMachine, allowed, recordViewerAccess, refused, if_true]
          | false =>
              cases encoded : encodeUtf8 (Json.dumps accessStyle (.obj (request.item config)) ++
                [lineFeed]) with
              | none =>
                  apply access_unrecorded holds _ failed
                  · simp only [accessMachine, allowed, recordViewerAccess, refused, appendRow,
                      encoded, Option.map_none, Bool.false_eq_true, if_false]
                  · simp only [AccessRequest.row?, allowed, refused, encoded, Option.map_none,
                      Bool.false_eq_true, if_false]
              | some bytes => exact access_recorded holds allowed refused encoded

theorem holdsRows_run {old : List (Dict PyStr Json)} {file : Option ByteArray}
    (holds : HoldsRows accessLine old file) (requests : List AccessRequest) :
    HoldsRows accessLine (old ++ requests.filterMap (AccessRequest.row? py config))
      ((accessMachine py config).run file requests) := by
  induction requests generalizing old file with
  | nil => rwa [List.filterMap_nil, List.append_nil]
  | cons request rest ih =>
      have later := ih (@access_step py config _ _ holds request).1
      rw [List.append_assoc] at later
      cases row : request.row? py config with
      | none =>
          rw [row] at later
          rwa [List.filterMap_cons_none row]
      | some item =>
          rw [row] at later
          rwa [List.filterMap_cons_some row]

/-- The log of accesses is complete: whatever credentials and addresses the requests have, the
file is read as its old rows and one for each request that was let in and could be written,
and at each of the requests the answer is right about the rows so far. -/
theorem access_run {old : List (Dict PyStr Json)} {file : Option ByteArray}
    (holds : HoldsRows accessLine old file) (requests : List AccessRequest) :
    HoldsRows accessLine (old ++ requests.filterMap (AccessRequest.row? py config))
        ((accessMachine py config).run file requests) ∧
      ∀ past event future, (accessMachine py config).trace file requests = past ++ event :: future →
        AccessRight py config
          (old ++ ((past ++ [event]).map Event.input).filterMap (AccessRequest.row? py config))
          event.input event.output := by
  refine ⟨holdsRows_run holds requests, fun past event future split => ?_⟩
  obtain ⟨earlier, request, later, -, rfl, rfl, -⟩ := Machine.trace_split split
  have before := @holdsRows_run py config _ _ holds earlier
  have right := (@access_step py config _ _ before request).2
  rw [List.append_assoc] at right
  rw [List.map_append, Machine.inputs_trace, List.map_singleton, Machine.filterMap_concat]
  exact right

end Runs

/-- A loopback peer looks at the security page twice. -/
def twoLooks : List AccessRequest :=
  let look : AccessRequest :=
    ⟨tokenRequest (some (lit "127.0.0.1")) none, [], .security,
      Moment.epoch.now, false, false, false⟩
  [look, look]

/-- The settings without a view token. -/
def loopbackOnly : AccessConfig := ⟨⟨[], lit "127.0.0.1"⟩, false⟩

theorem twoLooks_recorded :
    (twoLooks.filterMap (AccessRequest.row? .plain loopbackOnly)).length = 2 := by
  decide +kernel

theorem access_run_twoLooks :
    ∃ first second, HoldsRows accessLine [first, second]
      ((accessMachine .plain loopbackOnly).run none twoLooks) := by
  have ran := (@access_run .plain loopbackOnly [] none (holdsRows_none _) twoLooks).1
  obtain ⟨first, second, rows⟩ := List.length_eq_two.mp twoLooks_recorded
  rw [rows] at ran
  exact ⟨first, second, ran⟩

end HermesMesh.Server
