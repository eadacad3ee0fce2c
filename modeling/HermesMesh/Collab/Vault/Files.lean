import HermesMesh.Foundation.Machine
import HermesMesh.Python.JsonFacts
import HermesMesh.Collab.Vault.SafePath

/-!
# Files written and read back

`write_file` encodes a text as it is and answers with the path below the root;
`read_file` reads in text mode, which makes a line feed of every carriage return.  The
path of an answer is meant to be used in later requests, which strip a leading `collab`.
-/

namespace HermesMesh.Python

/-! ## Splitting and joining -/

theorem splitSlash_ne_nil (text : PyStr) : splitSlash text ≠ [] := by
  cases text with
  | nil => simp [splitSlash]
  | cons c rest =>
      rw [splitSlash]
      split
      · simp
      · split <;> simp

theorem splitSlash_clean {piece : PyStr} (clean : slash ∉ piece) : splitSlash piece = [piece] := by
  induction piece with
  | nil => rfl
  | cons c rest ih =>
      rw [List.mem_cons, not_or] at clean
      rw [splitSlash, if_neg (Ne.symm clean.1), ih clean.2]

theorem splitSlash_append {piece : PyStr} (clean : slash ∉ piece) (rest : PyStr) :
    splitSlash (piece ++ slash :: rest) = piece :: splitSlash rest := by
  induction piece with
  | nil => rw [List.nil_append, splitSlash, if_pos rfl]
  | cons c piece ih =>
      rw [List.mem_cons, not_or] at clean
      rw [List.cons_append, splitSlash, if_neg (Ne.symm clean.1), ih clean.2]

/-- Pieces without slashes are split again where they were joined. -/
theorem splitSlash_joinWith {pieces : List PyStr} (some : pieces ≠ [])
    (clean : ∀ piece ∈ pieces, slash ∉ piece) :
    splitSlash (joinWith (lit "/") pieces) = pieces := by
  induction pieces with
  | nil => exact absurd rfl some
  | cons piece rest ih =>
      have here := clean piece List.mem_cons_self
      cases rest with
      | nil => exact splitSlash_clean here
      | cons other more =>
          have later := ih (by simp) fun next member => clean next (List.mem_cons_of_mem _ member)
          rw [joinWith_cons _ _ (by simp), List.append_assoc]
          exact (splitSlash_append here _).trans (congrArg _ later)

theorem mem_of_mem_splitSlash {text piece : PyStr} {c : CodePoint} (member : piece ∈ splitSlash text)
    (inside : c ∈ piece) : c ∈ text ∧ c ≠ slash := by
  induction text generalizing piece with
  | nil =>
      rw [List.mem_singleton.mp member] at inside
      cases inside
  | cons first rest ih =>
      rw [splitSlash] at member
      split at member
      · rcases List.mem_cons.mp member with rfl | later
        · cases inside
        · exact (ih later inside).imp_left (List.mem_cons_of_mem _)
      · next notSlash =>
          split at member
          · next none => exact absurd none (splitSlash_ne_nil rest)
          · next head tail pieces =>
              rcases List.mem_cons.mp member with rfl | later
              · rcases List.mem_cons.mp inside with rfl | inHead
                · exact ⟨List.mem_cons_self, notSlash⟩
                · exact (ih (pieces ▸ List.mem_cons_self) inHead).imp_left (List.mem_cons_of_mem _)
              · exact (ih (pieces ▸ List.mem_cons_of_mem _ later) inside).imp_left
                  (List.mem_cons_of_mem _)

/-! ## Text mode -/

theorem carriageReturn_notMem_translate (afterReturn : Bool) (text : PyStr) :
    carriageReturn ∉ translateNewlines afterReturn text := by
  induction text generalizing afterReturn with
  | nil => simp [translateNewlines]
  | cons c rest ih =>
      rw [translateNewlines]
      split
      · exact List.not_mem_cons_of_ne_of_not_mem (by decide) (ih true)
      · next notReturn =>
          split
          · exact ih false
          · exact List.not_mem_cons_of_ne_of_not_mem (Ne.symm notReturn) (ih false)

/-- Text mode leaves exactly the texts without carriage returns as they are. -/
theorem translateNewlines_eq_self_iff {text : PyStr} :
    translateNewlines false text = text ↔ carriageReturn ∉ text := by
  constructor
  · intro same
    rw [← same]
    exact carriageReturn_notMem_translate false text
  · exact translateNewlines_eq_self

end HermesMesh.Python

namespace HermesMesh.Collab

open Python Foundation

/-- The largest file of the API, in bytes. -/
def maxFileSize : Nat := 1048576

/-- The disk of a vault, with its regular files by the places they are at. -/
structure VaultFiles where
  disk : VaultDisk
  files : Dict Path ByteArray

/-- The place of the file that a request names: what `safe_path` returns, where no link is left
on it. -/
def filePlace (py : Platform) (disk : VaultDisk) (requested : Json) : Except FileFault Path := do
  let path ← safePath py disk requested
  if disk.links.Free path then .ok path else .error .unresolved

theorem filePlace_eq_ok {py : Platform} {disk : VaultDisk} {requested : Json} {path : Path} :
    filePlace py disk requested = .ok path ↔
      safePath py disk requested = .ok path ∧ disk.links.Free path := by
  rw [filePlace, except_bind_eq_ok]
  constructor
  · rintro ⟨found, leads, returned⟩
    split at returned
    · next free =>
        cases returned
        exact ⟨leads, free⟩
    · cases returned
  · rintro ⟨leads, free⟩
    exact ⟨path, leads, if_pos free⟩

/-- `str(path.relative_to(root)).replace(os.sep, "/")` -/
def relativeText (root place : Path) : PyStr :=
  match place.drop root.length with
  | [] => lit "."
  | inside => joinWith (lit "/") inside

/-- `content.encode("utf-8")`, where it is not too long. -/
def encodedContent : Json → Except Fault ByteArray
  | .str content =>
      match encodeUtf8 content with
      | none => .error .valueError
      | some bytes =>
          if maxFileSize < bytes.size then .error (.vaultError "invalid or oversized collab file")
          else .ok bytes
  | _ => .error (.vaultError "invalid or oversized collab file")

namespace VaultFiles

/-- `write_file`; the file system may refuse.  On Linux a text is written as it is. -/
def writeFile (py : Platform) (refuses : Bool) (requested content : Json) :
    Action VaultFiles FileFault PyStr := do
  let bytes ← .ofExcept ((encodedContent content).mapError .raised)
  let store ← .read
  let path ← .ofExcept (filePlace py store.disk requested)
  if refuses then .raise (.raised .osError)
  else
    .modify fun store => { store with files := store.files.set path bytes }
    return relativeText store.disk.root path

/-- `read_file` -/
def readFile (py : Platform) (requested : Json) : Action VaultFiles FileFault PyStr := do
  let store ← .read
  let path ← .ofExcept (filePlace py store.disk requested)
  match store.files.get? path with
  | none => .raise (.raised .osError)
  | some bytes =>
      if maxFileSize < bytes.size then .raise (.raised (.vaultError "collab file too large"))
      else .ofOption (.raised .valueError) (readText bytes)

end VaultFiles

/-- The arguments of a call of `write_file`. -/
structure FileWrite where
  refuses : Bool
  requested : Json
  content : Json

/-- Calls of `write_file`, one after the other. -/
def fileMachine (py : Platform) : Machine VaultFiles FileWrite (Except FileFault PyStr) where
  step store write := (VaultFiles.writeFile py write.refuses write.requested write.content).run store

namespace VaultFiles

variable {py : Platform}

/-! ## One call -/

/-- A write returns where its content and its path are accepted and the file system does
not refuse, and puts the bytes at the place that the path leads to. -/
theorem writeFile_eq_ok {refuses : Bool} {requested content : Json} {store after : VaultFiles}
    {returned : PyStr} :
    (writeFile py refuses requested content).run store = (.ok returned, after) ↔
      ∃ bytes path, encodedContent content = .ok bytes ∧
        filePlace py store.disk requested = .ok path ∧ refuses = false ∧
        returned = relativeText store.disk.root path ∧
        after = ⟨store.disk, store.files.set path bytes⟩ := by
  rw [writeFile, Action.run_bind_eq_ok]
  cases encodes : encodedContent content with
  | error fault => simp [Except.mapError]
  | ok bytes =>
      cases leads : filePlace py store.disk requested with
      | error fault => simp [Except.mapError, Action.run_bind, leads]
      | ok path =>
          cases refuses with
          | true => simp [Except.mapError, Action.run_bind, leads]
          | false => simp [Except.mapError, Action.run_bind, leads, eq_comm]

/-- A write that raises changes nothing. -/
theorem writeFile_error {refuses : Bool} {requested content : Json} {store after : VaultFiles}
    {fault : FileFault}
    (raised : (writeFile py refuses requested content).run store = (.error fault, after)) :
    after = store := by
  rw [writeFile, Action.run_bind] at raised
  cases encodes : encodedContent content with
  | error fault =>
      rw [encodes] at raised
      exact (Prod.mk.inj raised).2.symm
  | ok bytes =>
      rw [encodes, Except.mapError, Action.run_ofExcept] at raised
      cases leads : filePlace py store.disk requested with
      | error fault =>
          simp only [Action.run_bind, Action.run_read, Action.run_ofExcept, leads] at raised
          exact (Prod.mk.inj raised).2.symm
      | ok path =>
          simp only [Action.run_bind, Action.run_read, Action.run_ofExcept, leads] at raised
          split at raised
          · exact (Prod.mk.inj raised).2.symm
          · cases raised

/-- A write leaves the disk's links, and the files at other places than its own. -/
theorem run_writeFile (write : FileWrite) (store : VaultFiles) :
    ((fileMachine py).step store write).2.disk = store.disk ∧
      ∀ path, safePath py store.disk write.requested ≠ .ok path →
        ((fileMachine py).step store write).2.files.get? path = store.files.get? path := by
  rcases ran : (fileMachine py).step store write with ⟨fault | returned, after⟩
  · rw [writeFile_error ran]
    exact ⟨rfl, fun _ _ => rfl⟩
  · obtain ⟨bytes, place, _, leads, _, _, rfl⟩ := writeFile_eq_ok.mp ran
    refine ⟨rfl, fun path elsewhere => ?_⟩
    rw [Dict.get?_set, if_neg]
    rintro rfl
    exact elsewhere (filePlace_eq_ok.mp leads).1

/-- Reading a file that was written from a text gives the text as text mode reads it. -/
theorem run_readFile {requested : Json} {content : PyStr} {bytes : ByteArray} {path : Path}
    {store : VaultFiles} (leads : filePlace py store.disk requested = .ok path)
    (encodes : encodedContent (.str content) = .ok bytes)
    (holds : store.files.get? path = some bytes) :
    (readFile py requested).run store = (.ok (translateNewlines false content), store) := by
  have encoded : encodeUtf8 content = some bytes ∧ bytes.size ≤ maxFileSize := by
    rw [encodedContent] at encodes
    split at encodes
    · cases encodes
    · next other found =>
        split at encodes
        · cases encodes
        · next fits =>
            cases encodes
            exact ⟨found, Nat.not_lt.mp fits⟩
  rw [readFile, Action.run_bind_ok (Action.run_read _), leads,
    Action.run_bind_ok (Action.run_ofExcept _ _)]
  simp only [holds, if_neg (Nat.not_lt.mpr encoded.2), readText,
    decodeUtf8_of_encodeUtf8 encoded.1, Option.map_some, Action.run_ofOption_some]

/-! ## What is read back -/

/-- None of the writes leads to this place. -/
def Elsewhere (py : Platform) (disk : VaultDisk) (path : Path) (writes : List FileWrite) : Prop :=
  ∀ write ∈ writes, safePath py disk write.requested ≠ .ok path

theorem run_elsewhere {store : VaultFiles} {path : Path} {writes : List FileWrite}
    (elsewhere : Elsewhere py store.disk path writes) :
    ((fileMachine py).run store writes).disk = store.disk ∧
      ((fileMachine py).run store writes).files.get? path = store.files.get? path := by
  induction writes generalizing store with
  | nil => exact ⟨rfl, rfl⟩
  | cons write rest ih =>
      obtain ⟨disk, others⟩ := @run_writeFile py write store
      have here := others path (elsewhere write List.mem_cons_self)
      have later := @ih ((fileMachine py).step store write).2 fun other member => by
        rw [disk]
        exact elsewhere other (List.mem_cons_of_mem _ member)
      rw [disk, here] at later
      exact later

/-- A text that was written is read back, whatever is written to other places in between,
exactly when it holds no carriage return. -/
theorem file_roundTrip_iff {refuses : Bool} {requested : Json} {content returned : PyStr}
    {store after : VaultFiles}
    (wrote : (writeFile py refuses requested (.str content)).run store = (.ok returned, after)) :
    (∀ path writes, safePath py store.disk requested = .ok path →
      Elsewhere py store.disk path writes →
        ((readFile py requested).run ((fileMachine py).run after writes)).1 = .ok content) ↔
      carriageReturn ∉ content := by
  obtain ⟨bytes, path, encodes, found, _, _, rfl⟩ := writeFile_eq_ok.mp wrote
  have leads := (filePlace_eq_ok.mp found).1
  have reads : ∀ writes, Elsewhere py store.disk path writes →
      ((readFile py requested).run ((fileMachine py).run ⟨store.disk, store.files.set path bytes⟩
        writes)).1 = .ok (translateNewlines false content) := by
    intro writes elsewhere
    obtain ⟨disk, kept⟩ := @run_elsewhere py ⟨store.disk, store.files.set path bytes⟩ path writes
      elsewhere
    have stillFound : filePlace py ((fileMachine py).run ⟨store.disk, store.files.set path bytes⟩
        writes).disk requested = .ok path := by
      rw [disk]
      exact found
    rw [run_readFile stillFound encodes (kept.trans (Dict.get?_set_self _ _ _))]
  rw [← translateNewlines_eq_self_iff]
  constructor
  · intro roundTrip
    have read := reads [] (fun _ member => absurd member List.not_mem_nil)
    rw [roundTrip path [] leads fun _ member => absurd member List.not_mem_nil] at read
    exact (Except.ok.inj read).symm
  · intro same other writes alsoLeads elsewhere
    rw [leads] at alsoLeads
    cases alsoLeads
    rw [reads writes elsewhere, same]

/-- A vault at `/v` without links and without files. -/
def emptyStore : VaultFiles where
  disk :=
    { root := [lit "v"], links := [], entries := entries_v, resolved := fun _ _ => rfl,
      loops := fun _ => false, loops_of_free := fun _ _ => rfl }
  files := []

/-- The vault after the two bytes of `hi` are written to `tasks/a.txt`. -/
def storeWithNote : VaultFiles :=
  ⟨emptyStore.disk, [([lit "v", lit "tasks", lit "a.txt"], ⟨#[104, 105]⟩)]⟩

theorem file_roundTrip_note :
    (∀ path writes, safePath .plain emptyStore.disk (.str (lit "collab/tasks/a.txt")) = .ok path →
      Elsewhere .plain emptyStore.disk path writes →
        ((readFile .plain (.str (lit "collab/tasks/a.txt"))).run
          ((fileMachine .plain).run storeWithNote writes)).1 = .ok (lit "hi")) ↔
      carriageReturn ∉ lit "hi" :=
  @file_roundTrip_iff .plain false (.str (lit "collab/tasks/a.txt")) (lit "hi") (lit "tasks/a.txt")
    emptyStore storeWithNote rfl

/-- A lone carriage return is written and read back as a line feed. -/
theorem carriageReturn_read_back :
    ((writeFile .plain false (.str (lit "tasks/a.txt")) (.str [carriageReturn])).run emptyStore).1 =
        .ok (lit "tasks/a.txt") ∧
      ((readFile .plain (.str (lit "tasks/a.txt"))).run ((writeFile .plain false
        (.str (lit "tasks/a.txt")) (.str [carriageReturn])).run emptyStore).2).1 =
          .ok [lineFeed] := by
  decide +kernel

end VaultFiles

/-! ## The path of the answer -/

variable {py : Platform}

theorem mem_of_mem_pathParts {text piece : PyStr} {c : CodePoint}
    (member : piece ∈ pathParts text) (inside : c ∈ piece) : c ∈ text ∧ c ≠ slash := by
  refine @mem_of_mem_splitSlash text piece c ?_ inside
  unfold pathParts at member
  split at member
  · cases member
  · next first rest pieces =>
      rw [pieces]
      split at member
      · exact List.mem_cons_of_mem _ member
      · exact member

/-- The characters of an accepted part are none that the checks of a path treat apart. -/
theorem clean_of_accepted {requested : Json} {parts : List PyStr}
    (accepted : safeParts py requested = .ok parts) {part : PyStr} (member : part ∈ parts)
    {c : CodePoint} (inside : c ∈ part) : c ≠ slash ∧ c ≠ backslash ∧ c.val ≠ 0 := by
  obtain ⟨text, _, rfl, _, _, noNul, _⟩ := safeParts_eq_ok.mp accepted
  obtain ⟨inText, notSlash⟩ := mem_of_mem_pathParts member inside
  refine ⟨notSlash, ?_, noNul c inText⟩
  obtain ⟨original, _, rfl⟩ := List.mem_map.mp inText
  split
  · decide
  · next notBackslash => exact notBackslash

theorem normalizeSlashes_eq_self {text : PyStr} (clean : backslash ∉ text) :
    normalizeSlashes text = text := by
  refine (List.map_congr_left fun c member => ?_).trans (List.map_id text)
  have ordinary : c ≠ backslash := by
    rintro rfl
    exact clean member
  rw [if_neg ordinary, id]

/-- What is common to the characters of some pieces and of a slash is so of their join. -/
theorem forall_joined {holds : CodePoint → Prop} {parts : List PyStr} (atSlash : holds slash)
    (inside : ∀ part ∈ parts, ∀ c ∈ part, holds c) : ∀ c ∈ joinWith (lit "/") parts, holds c := by
  intro c member
  rcases Json.mem_joinWith member with separator | ⟨part, inParts, inPart⟩
  · rw [List.mem_singleton.mp separator]
    exact atSlash
  · exact inside part inParts c inPart

/-- Joined again, accepted parts are split as they were, but for a first part `collab`. -/
theorem pathParts_joined {requested : Json} {parts : List PyStr}
    (accepted : safeParts py requested = .ok parts) :
    pathParts (normalizeSlashes (joinWith (lit "/") parts)) =
      if parts.head? = some (lit "collab") then parts.tail else parts := by
  obtain ⟨_, _, _, _, _, _, long, _⟩ := safeParts_eq_ok.mp accepted
  have noBackslash := @forall_joined (fun c => c ≠ backslash) parts (by decide)
    fun part member c inside => (clean_of_accepted accepted member inside).2.1
  have noSlash : ∀ part ∈ parts, slash ∉ part := fun part member inside =>
    (clean_of_accepted accepted member inside).1 rfl
  have some : parts ≠ [] := List.ne_nil_of_length_pos (by omega)
  rw [normalizeSlashes_eq_self fun member => noBackslash _ member rfl, pathParts,
    splitSlash_joinWith some noSlash]
  cases parts with
  | nil => exact absurd rfl some
  | cons first rest => simp

/-- The join of accepted parts starts with no slash, but holds one. -/
theorem slash_in_joined {requested : Json} {parts : List PyStr}
    (accepted : safeParts py requested = .ok parts) :
    (joinWith (lit "/") parts).head? ≠ some slash ∧ isBlank (joinWith (lit "/") parts) = false := by
  obtain ⟨_, _, _, _, _, _, long, allowed⟩ := safeParts_eq_ok.mp accepted
  cases parts with
  | nil => simp at long
  | cons first rest =>
      cases rest with
      | nil => simp at long
      | cons second rest =>
          have firstAllowed := allowed first List.mem_cons_self
          cases first with
          | nil => simp [isForbiddenPart] at firstAllowed
          | cons c name =>
              have ordinary := (clean_of_accepted accepted List.mem_cons_self List.mem_cons_self).1
              rw [joinWith_cons _ _ (by simp)]
              refine ⟨by simpa using ordinary, ?_⟩
              rw [isBlank, List.all_eq_false]
              refine ⟨slash, ?_, by decide⟩
              exact List.mem_append_left _ (List.mem_append_right _ (by decide))

/-- Joined again, the parts of a request are accepted and the same unless the first is
`collab`. -/
theorem safeParts_joined {requested : Json} {parts : List PyStr}
    (accepted : safeParts py requested = .ok parts) :
    safeParts py (.str (joinWith (lit "/") parts)) = .ok parts ↔
      parts.head? ≠ some (lit "collab") := by
  have split := pathParts_joined accepted
  obtain ⟨_, _, _, _, _, _, long, allowed⟩ := safeParts_eq_ok.mp accepted
  constructor
  · intro again stripped
    obtain ⟨_, same, parted, _⟩ := safeParts_eq_ok.mp again
    cases same
    rw [split, if_pos stripped] at parted
    have shorter := congrArg List.length parted
    rw [List.length_tail] at shorter
    omega
  · intro notStripped
    rw [if_neg notStripped] at split
    have noBackslash := @forall_joined (fun c => c ≠ backslash) parts (by decide)
      fun part member c inside => (clean_of_accepted accepted member inside).2.1
    have noNul := @forall_joined (fun c => c.val ≠ 0) parts (by decide)
      fun part member c inside => (clean_of_accepted accepted member inside).2.2
    have same := normalizeSlashes_eq_self fun member => noBackslash _ member rfl
    obtain ⟨relative, notBlank⟩ := slash_in_joined accepted
    rw [← same] at relative noNul
    exact safeParts_eq_ok.mpr ⟨_, rfl, split.symm, notBlank, relative, noNul, long, allowed⟩

theorem relativeText_append (root : Path) {inside : List PyStr} (some : inside ≠ []) :
    relativeText root (root ++ inside) = joinWith (lit "/") inside := by
  rw [relativeText, List.drop_left]
  cases inside with
  | nil => exact absurd rfl some
  | cons first rest => rfl

/-- The path that a write answers with leads to the file that was written and reads what
was written, in a vault without links. -/
def AnswersWithPath (py : Platform) (store : VaultFiles) (requested : Json) (content returned : PyStr)
    (after : VaultFiles) : Prop :=
  ∃ path, safePath py store.disk requested = .ok path ∧
    safePath py after.disk (.str returned) = .ok path ∧
    ((VaultFiles.readFile py (.str returned)).run after).1 = .ok content

/-- The answer of a write leads back to what was written exactly when the path below the
root does not begin with `collab` once more and the text holds no carriage return. -/
theorem answersWithPath_iff {refuses : Bool} {requested : Json} {content returned : PyStr}
    {store after : VaultFiles} (noLinks : store.disk.links = [])
    (wrote : (VaultFiles.writeFile py refuses requested (.str content)).run store =
      (.ok returned, after)) :
    AnswersWithPath py store requested content returned after ↔
      (∀ parts, safeParts py requested = .ok parts → parts.head? ≠ some (lit "collab")) ∧
        carriageReturn ∉ content := by
  obtain ⟨bytes, path, encodes, found, _, rfl, rfl⟩ := VaultFiles.writeFile_eq_ok.mp wrote
  obtain ⟨leads, free⟩ := filePlace_eq_ok.mp found
  have unlinked : ∀ parts : List PyStr, ∀ front, front <+: parts → front ≠ [] →
      Dict.get? (store.disk.root ++ front) store.disk.links = none := by
    intro parts front _ _
    rw [noLinks]
    rfl
  obtain ⟨parts, accepted, resolved, _⟩ := safePath_eq_ok.mp leads
  have names := ((resolve_eq_ok (entries_of_safeParts accepted)).mp resolved).1
  have direct := (safePath_of_no_link accepted names (unlinked parts)).1
  rw [leads] at direct
  cases direct
  obtain ⟨_, _, _, _, _, _, long, _⟩ := safeParts_eq_ok.mp accepted
  rw [relativeText_append _ (List.ne_nil_of_length_pos (by omega))]
  have returns : safePath py store.disk (.str (joinWith (lit "/") parts)) =
      .ok (store.disk.root ++ parts) ↔ parts.head? ≠ some (lit "collab") := by
    rw [← safeParts_joined accepted]
    constructor
    · intro leadsBack
      obtain ⟨others, again, otherResolved, _⟩ := safePath_eq_ok.mp leadsBack
      have otherNames := ((resolve_eq_ok (entries_of_safeParts again)).mp otherResolved).1
      have otherwise := (safePath_of_no_link again otherNames (unlinked others)).1
      rw [leadsBack] at otherwise
      rw [again, List.append_cancel_left (Except.ok.inj otherwise)]
    · exact fun again => (safePath_of_no_link again names (unlinked parts)).1
  have only : (∀ others, safeParts py requested = .ok others →
      others.head? ≠ some (lit "collab")) ↔ parts.head? ≠ some (lit "collab") := by
    simp [accepted]
  rw [only, ← returns, ← translateNewlines_eq_self_iff]
  have reads := fun leadsBack => @VaultFiles.run_readFile py (.str (joinWith (lit "/") parts)) content
    bytes (store.disk.root ++ parts) ⟨store.disk, store.files.set (store.disk.root ++ parts) bytes⟩
    (filePlace_eq_ok.mpr ⟨leadsBack, free⟩) encodes (Dict.get?_set_self _ _ _)
  constructor
  · intro ⟨place, alsoLeads, leadsBack, read⟩
    rw [leads] at alsoLeads
    cases alsoLeads
    rw [reads leadsBack] at read
    exact ⟨leadsBack, Except.ok.inj read⟩
  · intro ⟨leadsBack, same⟩
    refine ⟨_, leads, leadsBack, ?_⟩
    rw [reads leadsBack, same]

theorem answersWithPath_note :
    AnswersWithPath .plain VaultFiles.emptyStore (.str (lit "collab/tasks/a.txt")) (lit "hi")
        (lit "tasks/a.txt") VaultFiles.storeWithNote ↔
      (∀ parts, safeParts .plain (.str (lit "collab/tasks/a.txt")) = .ok parts →
        parts.head? ≠ some (lit "collab")) ∧ carriageReturn ∉ lit "hi" :=
  @answersWithPath_iff .plain false (.str (lit "collab/tasks/a.txt")) (lit "hi") (lit "tasks/a.txt")
    VaultFiles.emptyStore VaultFiles.storeWithNote rfl rfl

/-- A file below a folder `collab` is answered with a path that leads to another file. -/
theorem collab_stripped_again :
    ((VaultFiles.writeFile .plain false (.str (lit "collab/collab/x/y")) (.str (lit "hi"))).run
        VaultFiles.emptyStore).1 = .ok (lit "collab/x/y") ∧
      ∀ after, ¬AnswersWithPath .plain VaultFiles.emptyStore (.str (lit "collab/collab/x/y"))
        (lit "hi") (lit "collab/x/y") ⟨VaultFiles.emptyStore.disk, after⟩ := by
  have written : safePath .plain VaultFiles.emptyStore.disk (.str (lit "collab/collab/x/y")) =
      .ok [lit "v", lit "collab", lit "x", lit "y"] := by decide +kernel
  have answered : safePath .plain VaultFiles.emptyStore.disk (.str (lit "collab/x/y")) =
      .ok [lit "v", lit "x", lit "y"] := by decide +kernel
  refine ⟨by decide +kernel, fun after ⟨path, leads, leadsBack, _⟩ => ?_⟩
  rw [written] at leads
  rw [answered] at leadsBack
  rw [← Except.ok.inj leads] at leadsBack
  revert leadsBack
  decide

end HermesMesh.Collab
