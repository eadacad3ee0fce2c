import HermesMesh.Collab.Vault.State
import HermesMesh.Python.JsonLines
import HermesMesh.Foundation.Machine

/-!
# The discussion

What the dashboards say is added to a file of JSON lines and shown from the memory, which
keeps the last entries only; a start of the server shows the file again.  An abstract board
has what is saved and what there is to show, and the server's log is read as one, also where
entries are any JSON values or have lone surrogates.
-/

namespace HermesMesh.Server

open Python Foundation Collab

/-- `state["discussion"]`, and the file of the discussion while there is one. -/
structure Discussion where
  file : Option ByteArray
  shown : List Json

/-- The body of the loop of `load_discussion`; a line that is no JSON is left out. -/
def discussionLine (line : PyStr) : Option Json :=
  if strip line = [] then none else loads (strip line)

/-- `load_discussion`: `none` is the `UnicodeDecodeError` that it lets through. -/
def loadDiscussion (file : Option ByteArray) : Option (List Json) := readRows discussionLine file

/-- The fields of the entry of `append_discussion`. -/
def discussionFields (sender message : Json) (timestamp : PlainText) : Dict PyStr Json :=
  [(lit "from", sender), (lit "message", message), (lit "timestamp", .str timestamp.text)]

/-- An entry, and whether its write fails with an `OSError`. -/
structure Saying where
  sender : Json
  message : Json
  timestamp : PlainText
  refused : Bool

def Saying.entry (saying : Saying) : Json :=
  .obj (discussionFields saying.sender saying.message saying.timestamp)

/-- The last hundred entries, once there are more than two hundred. -/
def trimmed (shown : List Json) : List Json :=
  if 200 < shown.length then lastN 100 shown else shown

/-- `append_discussion`: `none` is the `UnicodeEncodeError` that it would let through. -/
def Discussion.append (saying : Saying) (log : Discussion) : Option Discussion :=
  let shown := trimmed (log.shown ++ [saying.entry])
  if saying.refused then some { log with shown }
  else (appendRow (saying.entry.dumps .default) log.file).map fun file => ⟨some file, shown⟩

/-! ## Frames -/

/-- What a frame asks for. -/
inductive FrameContent where
  | nothing
  | saying (sender message : Json)
  /-- An exception that ends the connection. -/
  | failure

/-- `value or default` -/
def orDefault (value default : Json) : Json := if value.truthy then value else default

/-- A frame in `ws_handler`, as the text that `json.loads` reads; bytes need not be one. -/
def frameContent : Option PyStr → FrameContent
  | none => .failure
  | some text =>
      match loads text with
      | none => .nothing
      | some (.obj fields) =>
          let field := fun name => ((Dict.get? (lit name) fields).getD .null : Json)
          if (field "type").pyEq (.str (lit "add_discussion")) then
            .saying (orDefault (field "from") (.str (lit "system")))
              (orDefault (field "message") (.str []))
          else .nothing
      | some _ => .failure

/-- What happens to the discussion. -/
inductive DiscussionStep where
  /-- A frame; `retryAfter` is given where the limiter refuses it. -/
  | frame (retryAfter : Option Int) (content : Option PyStr) (timestamp : PlainText) (refused : Bool)
  /-- `mock_startup` on a host. -/
  | greeting (host : PyStr) (timestamp : PlainText) (refused : Bool)
  /-- `main` loads the file. -/
  | start

inductive DiscussionAnswer where
  | limited (retryAfter : Int)
  | ignored
  | disconnected
  /-- The entry that is broadcast. -/
  | said (entry : Json)
  | started
  /-- `main` ends with an exception. -/
  | failed

/-- What a step says. -/
def DiscussionStep.saying? : DiscussionStep → Option Saying
  | .frame none content timestamp refused =>
      match frameContent content with
      | .saying sender message => some ⟨sender, message, timestamp, refused⟩
      | _ => none
  | .greeting host timestamp refused =>
      some ⟨.str (lit "system"), .str (lit "Hermes K2 Monitor started on " ++ host), timestamp,
        refused⟩
  | _ => none

/-- A step that says something, and what a failed write answers. -/
def Discussion.say (saying : Saying) (otherwise : DiscussionAnswer) (log : Discussion) :
    DiscussionAnswer × Discussion :=
  match log.append saying with
  | some after => (.said saying.entry, after)
  | none => (otherwise, log)

def discussionMachine : Machine Discussion DiscussionStep DiscussionAnswer where
  step
    | log, .frame (some retryAfter) _ _ _ => (.limited retryAfter, log)
    | log, .frame none content timestamp refused =>
        match frameContent content with
        | .nothing => (.ignored, log)
        | .failure => (.disconnected, log)
        | .saying sender message => log.say ⟨sender, message, timestamp, refused⟩ .disconnected
    | log, .greeting host timestamp refused =>
        log.say ⟨.str (lit "system"), .str (lit "Hermes K2 Monitor started on " ++ host), timestamp,
          refused⟩ .failed
    | log, .start =>
        match loadDiscussion log.file with
        | some entries => (.started, { log with shown := entries })
        | none => (.failed, log)

/-! ## The abstract board -/

/-- What is saved, and what has been loaded or said since the last start. -/
structure DiscussionBoard where
  saved : List Json
  since : List Json

inductive BoardStep where
  | say (entry : Json) (kept : Bool)
  | start

def boardMachine : Machine DiscussionBoard BoardStep Unit where
  step
    | board, .say entry kept =>
        ((), ⟨board.saved ++ if kept then [entry] else [], board.since ++ [entry]⟩)
    | board, .start => ((), ⟨board.saved, board.saved⟩)

/-- What a step does to the board. -/
def DiscussionStep.onBoard : DiscussionStep → List BoardStep
  | .start => [.start]
  | step => step.saying?.toList.map fun saying => .say saying.entry !saying.refused

/-- The entries that are shown are all there are to show, or at least the last hundred of
them, and at most two hundred. -/
structure Shows (since shown : List Json) : Prop where
  last : shown <:+ since
  enough : shown = since ∨ 100 ≤ shown.length ∧ shown.length ≤ 200

/-- The log of a server is that of a board: its file ends its last line and is read as what
is saved. -/
structure OnBoard (board : DiscussionBoard) (log : Discussion) : Prop where
  saved : HoldsRows discussionLine board.saved log.file
  shown : Shows board.since log.shown

theorem shows_trimmed {since shown : List Json} (shows_ : Shows since shown) (entry : Json) :
    Shows (since ++ [entry]) (trimmed (shown ++ [entry])) := by
  obtain ⟨hidden, whole⟩ := shows_.last
  have longer : shown ++ [entry] <:+ since ++ [entry] := ⟨hidden, by rw [← List.append_assoc, whole]⟩
  unfold trimmed
  split
  · next many =>
      constructor
      · exact (List.drop_suffix _ _).trans longer
      · right
        rw [lastN, List.length_drop]
        omega
  · next few =>
      refine ⟨longer, ?_⟩
      rcases shows_.enough with rfl | enough
      · exact .inl rfl
      · right
        rw [List.length_append, List.length_singleton] at few ⊢
        omega

/-! ## Reading the file back -/

/-- An entry whose texts have no pair of surrogates left apart, and no repeated field. -/
structure Saying.ReadsBack (saying : Saying) : Prop where
  sender : saying.sender.Distinct ∧ saying.sender.AllStrings Unpaired
  message : saying.message.Distinct ∧ saying.message.AllStrings Unpaired

theorem Saying.ReadsBack.line {saying : Saying} (readsBack : saying.ReadsBack) :
    discussionLine (saying.entry.dumps .default ++ [lineFeed]) = some saying.entry := by
  have distinct : saying.entry.Distinct := by
    refine ⟨?_, readsBack.sender.1, readsBack.message.1, trivial, trivial⟩
    simp only [discussionFields, List.map_cons, List.map_nil, List.nodup_cons, List.mem_cons, lit_inj]
    decide
  have name : ∀ text : String, Unpaired (lit text) := fun text =>
    unpaired_of_encodable (encodable_lit text)
  have plain := unpaired_of_encodable (encodable_of_plain saying.timestamp.plain)
  have strings : saying.entry.AllStrings Unpaired :=
    ⟨name _, readsBack.sender.2, name _, readsBack.message.2, name _, plain, trivial⟩
  have back := @loads_dumps_unpaired _ distinct strings [] (by simp)
  rw [List.append_nil] at back
  have stripped : strip (saying.entry.dumps .default ++ [lineFeed]) = saying.entry.dumps .default :=
    strip_row _ _
  have nonempty : saying.entry.dumps .default ≠ [] := dumps_obj_ne_nil _ _
  rw [discussionLine, stripped, if_neg nonempty, back]

theorem onBoard_append {board : DiscussionBoard} {log : Discussion} (onBoard : OnBoard board log)
    {saying : Saying} (readsBack : saying.ReadsBack) :
    ∃ after, log.append saying = some after ∧
      OnBoard (boardMachine.step board (.say saying.entry !saying.refused)).2 after := by
  unfold Discussion.append
  cases refused : saying.refused with
  | true =>
      refine ⟨_, rfl, ?_, shows_trimmed onBoard.shown _⟩
      have unchanged := onBoard.saved
      rw [← List.append_nil board.saved] at unchanged
      exact unchanged
  | false =>
      obtain ⟨bytes, appended⟩ := exists_appendRow (encodable_default saying.entry) log.file
      refine ⟨⟨some bytes, _⟩, by rw [appended]; rfl, ?_, shows_trimmed onBoard.shown _⟩
      exact onBoard.saved.append (oneLine_default.uncontrolled _) (dumps_obj_ne_nil _ _) appended
        readsBack.line

/-! ## Runs -/

/-- A frame of text, and a host without a pair of surrogates: what a websocket and
`platform.node()` give. -/
def DiscussionStep.Sound : DiscussionStep → Prop
  | .frame _ content _ _ => ∀ text, content = some text → Encodable text
  | .greeting host _ _ => Unpaired (lit "Hermes K2 Monitor started on " ++ host)
  | .start => True

theorem readsBack_orDefault {value default : Json}
    (isValue : value.Distinct ∧ value.AllStrings Unpaired)
    (isDefault : default.Distinct ∧ default.AllStrings Unpaired) :
    (orDefault value default).Distinct ∧ (orDefault value default).AllStrings Unpaired := by
  unfold orDefault
  split
  · exact isValue
  · exact isDefault

/-- What a frame of text says can be read back. -/
theorem readsBack_frameContent {text : PyStr} {sender message : Json} {timestamp : PlainText}
    {refused : Bool} (encodable : Encodable text)
    (speaks : frameContent (some text) = .saying sender message) :
    Saying.ReadsBack ⟨sender, message, timestamp, refused⟩ := by
  unfold frameContent at speaks
  split at speaks
  · cases speaks
  · next content isText =>
      cases isText
      split at speaks
      · cases speaks
      · next fields decoded =>
          have distinct := distinct_of_loads decoded
          have unpaired := unpaired_of_loads encodable decoded
          have field : ∀ name, ((Dict.get? name fields).getD Json.null).Distinct ∧
              ((Dict.get? name fields).getD Json.null).AllStrings Unpaired := by
            intro name
            cases found : Dict.get? name fields with
            | none => exact ⟨trivial, trivial⟩
            | some value =>
                exact ⟨Json.distinctFields_iff.mp distinct.2 _ (Dict.mem_of_get? found),
                  unpaired.get? found⟩
          dsimp only at speaks
          split at speaks
          · cases speaks
            have system : Unpaired (lit "system") := unpaired_of_encodable (encodable_lit _)
            exact ⟨readsBack_orDefault (field _) ⟨trivial, system⟩,
              readsBack_orDefault (field _) ⟨trivial, .nil⟩⟩
          · cases speaks
      · cases speaks

theorem readsBack_of_sound {step : DiscussionStep} (sound : step.Sound) {saying : Saying}
    (speaks : step.saying? = some saying) : saying.ReadsBack := by
  cases step with
  | start => cases speaks
  | greeting host timestamp refused =>
      cases speaks
      exact ⟨⟨trivial, unpaired_of_encodable (encodable_lit _)⟩, trivial, sound⟩
  | frame retryAfter content timestamp refused =>
      cases retryAfter with
      | some seconds => cases speaks
      | none =>
          cases content with
          | none => cases speaks
          | some text =>
              dsimp only [DiscussionStep.saying?] at speaks
              split at speaks
              · next sender message isSaying =>
                  cases speaks
                  exact readsBack_frameContent (sound text rfl) isSaying
              · cases speaks

/-- A saying is added to the log and to the board. -/
theorem onBoard_say {board : DiscussionBoard} {log : Discussion} (onBoard : OnBoard board log)
    {saying : Saying} (readsBack : saying.ReadsBack) (otherwise : DiscussionAnswer) :
    OnBoard (boardMachine.run board [.say saying.entry !saying.refused])
      (log.say saying otherwise).2 ∧
      (log.say saying otherwise).1 = .said saying.entry := by
  obtain ⟨after, appended, still⟩ := onBoard_append onBoard readsBack
  rw [Discussion.say, appended]
  exact ⟨still, rfl⟩

/-- Each step does to the log what it does to the board, and no start fails. -/
theorem onBoard_step {board : DiscussionBoard} {log : Discussion} (onBoard : OnBoard board log)
    {step : DiscussionStep} (sound : step.Sound) :
    OnBoard (boardMachine.run board step.onBoard) (discussionMachine.step log step).2 ∧
      (discussionMachine.step log step).1 ≠ .failed := by
  have heard : ∀ {saying : Saying} {otherwise : DiscussionAnswer}, step.saying? = some saying →
      step.onBoard = [.say saying.entry !saying.refused] →
      discussionMachine.step log step = log.say saying otherwise →
      OnBoard (boardMachine.run board step.onBoard) (discussionMachine.step log step).2 ∧
        (discussionMachine.step log step).1 ≠ .failed := by
    intro saying otherwise speaks onIt stepped
    obtain ⟨still, answer⟩ := onBoard_say onBoard (readsBack_of_sound sound speaks) otherwise
    rw [stepped, onIt, answer]
    exact ⟨still, by simp⟩
  cases step with
  | start =>
      have loaded : loadDiscussion log.file = some board.saved := onBoard.saved.readRows
      have stepped : discussionMachine.step log .start =
          (.started, { log with shown := board.saved }) := by
        simp only [discussionMachine, loaded]
      rw [stepped]
      exact ⟨⟨onBoard.saved, List.suffix_refl _, .inl rfl⟩, by simp⟩
  | greeting host timestamp refused => exact heard rfl rfl rfl
  | frame retryAfter content timestamp refused =>
      cases retryAfter with
      | some seconds => exact ⟨onBoard, by simp [discussionMachine]⟩
      | none =>
          cases isContent : frameContent content with
          | nothing =>
              simp [discussionMachine, DiscussionStep.onBoard, DiscussionStep.saying?, isContent,
                onBoard]
          | failure =>
              simp [discussionMachine, DiscussionStep.onBoard, DiscussionStep.saying?, isContent,
                onBoard]
          | saying sender message =>
              refine @heard ⟨sender, message, timestamp, refused⟩ .disconnected ?_ ?_ ?_
              · simp only [DiscussionStep.saying?, isContent]
              · simp [DiscussionStep.onBoard, DiscussionStep.saying?, isContent]
              · simp only [discussionMachine, isContent]

theorem onBoard_run {board : DiscussionBoard} {log : Discussion} (onBoard : OnBoard board log)
    {steps : List DiscussionStep} (sound : ∀ step ∈ steps, step.Sound) :
    OnBoard (boardMachine.run board (steps.flatMap DiscussionStep.onBoard))
        (discussionMachine.run log steps) ∧
      ∀ event ∈ discussionMachine.trace log steps, event.output ≠ .failed := by
  induction steps generalizing board log with
  | nil => exact ⟨onBoard, fun event member => absurd member List.not_mem_nil⟩
  | cons step rest ih =>
      obtain ⟨first, others⟩ := List.forall_mem_cons.mp sound
      obtain ⟨still, answer⟩ := onBoard_step onBoard first
      obtain ⟨later, answers⟩ := ih still others
      rw [List.flatMap_cons, Machine.run_append]
      exact ⟨later, List.forall_mem_cons.mpr ⟨answer, answers⟩⟩

/-- The entry of a step that is saved. -/
def DiscussionStep.saved? (step : DiscussionStep) : Option Json :=
  step.saying?.bind fun saying => if saying.refused then none else some saying.entry

theorem saved_step (board : DiscussionBoard) (step : DiscussionStep) :
    (boardMachine.run board step.onBoard).saved = board.saved ++ step.saved?.toList := by
  have said : ∀ saying : Option Saying,
      (boardMachine.run board
        (saying.toList.map fun saying => .say saying.entry !saying.refused)).saved =
        board.saved ++ (saying.bind fun saying =>
          if saying.refused then none else some saying.entry).toList := by
    intro saying
    cases saying with
    | none => exact (List.append_nil _).symm
    | some saying => cases refused : saying.refused <;> simp [boardMachine, refused]
  cases step with
  | start => exact (List.append_nil _).symm
  | greeting host timestamp refused => exact said _
  | frame retryAfter content timestamp refused => exact said _

theorem saved_run (board : DiscussionBoard) (steps : List DiscussionStep) :
    (boardMachine.run board (steps.flatMap DiscussionStep.onBoard)).saved =
      board.saved ++ steps.filterMap DiscussionStep.saved? := by
  induction steps generalizing board with
  | nil => exact (List.append_nil _).symm
  | cons step rest ih =>
      rw [List.flatMap_cons, Machine.run_append, ih, saved_step, List.append_assoc]
      cases saved : step.saved? with
      | none => rw [List.filterMap_cons_none saved]; rfl
      | some entry => rw [List.filterMap_cons_some saved]; rfl

/-- Whatever is said, and however often the server starts, from any file that ends its last
line: the file is read as its old entries and those that were saved since, each as it was
said and in their order; the dashboards are shown all that has been loaded and said since the
last start, or the end of it, of at least a hundred entries; and no start fails. -/
theorem discussion_run {file : Option ByteArray} {old : List Json}
    (holds : HoldsRows discussionLine old file) {steps : List DiscussionStep}
    (sound : ∀ step ∈ steps, step.Sound) :
    let log := discussionMachine.run ⟨file, old⟩ steps
    loadDiscussion log.file = some (old ++ steps.filterMap DiscussionStep.saved?) ∧
      Shows (boardMachine.run ⟨old, old⟩ (steps.flatMap DiscussionStep.onBoard)).since log.shown ∧
      ∀ event ∈ discussionMachine.trace ⟨file, old⟩ steps, event.output ≠ .failed := by
  intro log
  have start : OnBoard ⟨old, old⟩ ⟨file, old⟩ := ⟨holds, List.suffix_refl _, .inl rfl⟩
  obtain ⟨onBoard, answers⟩ := onBoard_run start sound
  refine ⟨?_, onBoard.shown, answers⟩
  have loaded : loadDiscussion log.file = some _ := onBoard.saved.readRows
  rw [loaded, saved_run]

/-- A dashboard says something, and the server starts again. -/
def helloSteps : List DiscussionStep :=
  [.frame none (some (lit "\x7b\"type\": \"add_discussion\", \"message\": \"hi\"\x7d"))
    ⟨lit "2026-01-01", isPlain_lit _ (by decide)⟩ false, .start]

theorem hello_saved : (helloSteps.filterMap DiscussionStep.saved?).length = 1 := by
  decide +kernel

theorem discussion_run_hello :
    ∃ entry, helloSteps.filterMap DiscussionStep.saved? = [entry] ∧
      loadDiscussion (discussionMachine.run ⟨none, []⟩ helloSteps).file = some [entry] := by
  have sound : ∀ step ∈ helloSteps, step.Sound := by
    intro step member
    rw [helloSteps] at member
    rcases List.mem_cons.mp member with rfl | later
    · intro text isText
      rw [← Option.some.inj isText]
      exact encodable_lit _
    · rw [List.mem_singleton.mp later]
      trivial
  obtain ⟨entry, saved⟩ := List.length_eq_one_iff.mp hello_saved
  have ran := (@discussion_run none [] (holdsRows_none _) helloSteps sound).1
  rw [saved] at ran
  exact ⟨entry, saved, ran⟩

end HermesMesh.Server
