import HermesMesh.Python.Links

/-!
# `os.path.realpath`

`realpath` follows a path through its links, and remembers of each link whether it is still
being followed.  Where such a link is met again, it gives up: the path that is left is the path
of that link with the rest of each text on the way behind it, `..` taken as text.  (Python 3.13
follows links in another way.)
-/

namespace HermesMesh.Python

open Foundation

/-- The pieces of a text that are followed: neither empty nor `.`. -/
def followed (pieces : List PyStr) : List PyStr :=
  pieces.filter fun piece => piece ≠ [] ∧ piece ≠ lit "."

/-- A piece that names an entry of a folder. -/
def IsEntry (piece : PyStr) : Prop := piece ≠ [] ∧ piece ≠ lit "." ∧ piece ≠ lit ".."

/-- An absolute path as `normpath` leaves it, which keeps two slashes in front. -/
structure NormPath where
  doubled : Bool
  place : Path
  deriving DecidableEq

/-- The text of these pieces starts with a slash. -/
def isAbsolute : List PyStr → Bool
  | [] :: _ :: _ => true
  | _ => false

/-- The text of these pieces starts with two slashes, and no third. -/
def hasTwoSlashes : List PyStr → Bool
  | [] :: [] :: third :: more => !third.isEmpty || more.isEmpty
  | _ => false

/-- `normpath(join(path, rest))` -/
def NormPath.join (path : NormPath) (rest : List PyStr) : NormPath :=
  if isAbsolute rest then ⟨hasTwoSlashes rest, Path.follow [] (followed rest)⟩
  else ⟨path.doubled, Path.follow path.place (followed rest)⟩

/-- What `_joinrealpath` remembers of a link: where it leads, or that it is being followed. -/
abbrev Seen := Dict Path (Option Path)

/-- What `_joinrealpath` returns: the place, or what is left of the path at a link that is being
followed. -/
inductive Joined where
  | done (place : Path) (seen : Seen)
  | stuck (path : NormPath)

namespace Links

/-- The loop of `_joinrealpath`; `expand` follows the target of a link. -/
def joinPieces (links : Links) (expand : Seen → Path → PyStr → Joined) :
    Seen → Path → List PyStr → Joined
  | seen, place, [] => .done place seen
  | seen, place, piece :: rest =>
      if piece = [] ∨ piece = lit "." then joinPieces links expand seen place rest
      else if piece = lit ".." then joinPieces links expand seen place.dropLast rest
      else
        match Dict.get? (place ++ [piece]) links with
        | none => joinPieces links expand seen (place ++ [piece]) rest
        | some target =>
            match seen.get? (place ++ [piece]) with
            | some (some found) => joinPieces links expand seen found rest
            | some none => .stuck (NormPath.join ⟨false, place ++ [piece]⟩ rest)
            | none =>
                match expand (seen.set (place ++ [piece]) none) place target with
                | .done found after =>
                    joinPieces links expand (after.set (place ++ [piece]) (some found)) found rest
                | .stuck path => .stuck (path.join rest)

/-- `_joinrealpath` through links within links, no deeper than `depth`. -/
def joinRealPath (links : Links) : Nat → Seen → Path → List PyStr → Joined
  | 0 => joinPieces links fun _ _ _ => .stuck ⟨false, []⟩
  | depth + 1 => joinPieces links fun seen folder target =>
      joinRealPath links depth seen (Path.linkStart folder target) (splitSlash target)

/-- `realpath` of an absolute path. -/
def realPath (links : Links) (pieces : List PyStr) : NormPath :=
  match links.joinRealPath links.length [] [] pieces with
  | .done place _ => ⟨false, place⟩
  | .stuck path => path

/-- No link lies on the path. -/
def Free (links : Links) (place : Path) : Prop :=
  ∀ front ∈ place.inits, Dict.get? front links = none

instance (links : Links) (place : Path) : Decidable (links.Free place) :=
  inferInstanceAs (Decidable (∀ front ∈ place.inits, _))

/-- While these links are being followed, one of them is met again, or a link in whose target
that happens, and this path is left. -/
inductive Sticks (links : Links) : List Path → Path → List PyStr → NormPath → Prop
  | skip {waiting : List Path} {place : Path} {piece : PyStr} {rest : List PyStr} {path : NormPath} :
      piece = [] ∨ piece = lit "." → Sticks links waiting place rest path →
      Sticks links waiting place (piece :: rest) path
  | up {waiting : List Path} {place : Path} {rest : List PyStr} {path : NormPath} :
      Sticks links waiting place.dropLast rest path →
      Sticks links waiting place (lit ".." :: rest) path
  | entry {waiting : List Path} {place : Path} {piece : PyStr} {rest : List PyStr} {path : NormPath} :
      IsEntry piece → Dict.get? (place ++ [piece]) links = none →
      Sticks links waiting (place ++ [piece]) rest path →
      Sticks links waiting place (piece :: rest) path
  | past {waiting : List Path} {place found : Path} {piece target : PyStr} {rest : List PyStr}
      {path : NormPath} :
      IsEntry piece → Dict.get? (place ++ [piece]) links = some target →
      Leads links (Path.linkStart place target) (components target) found →
      Sticks links waiting found rest path → Sticks links waiting place (piece :: rest) path
  | again {waiting : List Path} {place : Path} {piece target : PyStr} {rest : List PyStr} :
      IsEntry piece → Dict.get? (place ++ [piece]) links = some target →
      place ++ [piece] ∈ waiting →
      Sticks links waiting place (piece :: rest) (NormPath.join ⟨false, place ++ [piece]⟩ rest)
  | inside {waiting : List Path} {place : Path} {piece target : PyStr} {rest : List PyStr}
      {path : NormPath} :
      IsEntry piece → Dict.get? (place ++ [piece]) links = some target →
      place ++ [piece] ∉ waiting →
      Sticks links ((place ++ [piece]) :: waiting) (Path.linkStart place target) (splitSlash target) path →
      Sticks links waiting place (piece :: rest) (path.join rest)

variable {links : Links}

/-! ## Where the loop ends -/

theorem followed_skip {piece : PyStr} (skips : piece = [] ∨ piece = lit ".") (rest : List PyStr) :
    followed (piece :: rest) = followed rest := by
  rcases skips with rfl | rfl
  · rw [followed, List.filter_cons_of_neg (by simp)]
    rfl
  · rw [followed, List.filter_cons_of_neg (by simp)]
    rfl

theorem followed_up (rest : List PyStr) : followed (lit ".." :: rest) = lit ".." :: followed rest :=
  List.filter_cons_of_pos (by simp [lit])

theorem followed_entry {piece : PyStr} (isEntry : IsEntry piece) (rest : List PyStr) :
    followed (piece :: rest) = piece :: followed rest :=
  List.filter_cons_of_pos (by simp [isEntry.1, isEntry.2.1])

/-- What is remembered of the links: those that are being followed, and where others lead. -/
structure Knows (links : Links) (waiting : List Path) (seen : Seen) : Prop where
  waiting : ∀ entry, seen.get? entry = some none ↔ entry ∈ waiting
  resolved : ∀ entry target found, seen.get? entry = some (some found) →
    Dict.get? entry links = some target →
      links.Leads (Path.linkStart entry.dropLast target) (components target) found

theorem knows_nil (links : Links) : links.Knows [] [] where
  waiting _ := by simp [Dict.get?]
  resolved _ _ _ isFound := by cases isFound

theorem Knows.start {waiting : List Path} {seen : Seen} (knows : links.Knows waiting seen)
    (entry : Path) : links.Knows (entry :: waiting) (seen.set entry none) where
  waiting other := by
    rw [Dict.get?_set, List.mem_cons]
    split
    · next same => simp [same]
    · next different => simp [different, knows.waiting]
  resolved other target found isFound isLink := by
    rw [Dict.get?_set] at isFound
    split at isFound
    · cases isFound
    · exact knows.resolved other target found isFound isLink

theorem Knows.finish {waiting : List Path} {seen : Seen} {entry found : Path} {target : PyStr}
    (knows : links.Knows (entry :: waiting) seen) (absent : entry ∉ waiting)
    (isLink : Dict.get? entry links = some target)
    (leads : links.Leads (Path.linkStart entry.dropLast target) (components target) found) :
    links.Knows waiting (seen.set entry (some found)) where
  waiting other := by
    rw [Dict.get?_set]
    split
    · next same => simp [same, absent]
    · next different => simpa [different] using knows.waiting other
  resolved other otherTarget otherFound isFound otherLink := by
    rw [Dict.get?_set] at isFound
    split at isFound
    · next same =>
        cases isFound
        rw [same] at otherLink ⊢
        cases isLink.symm.trans otherLink
        exact leads
    · exact knows.resolved other otherTarget otherFound isFound otherLink

/-- The outcome is what the relations say of these pieces. -/
def Agrees (links : Links) (waiting : List Path) (place : Path) (pieces : List PyStr) :
    Joined → Prop
  | .done goal after => links.Leads place (followed pieces) goal ∧ links.Knows waiting after
  | .stuck path => links.Sticks waiting place pieces path

/-- What is said of the pieces that are left is said of them all. -/
theorem Agrees.before {waiting : List Path} {place next : Path} {pieces more : List PyStr}
    {outcome : Joined} (agrees : links.Agrees waiting next more outcome)
    (leads : ∀ goal, links.Leads next (followed more) goal →
      links.Leads place (followed pieces) goal)
    (sticks : ∀ path, links.Sticks waiting next more path →
      links.Sticks waiting place pieces path) :
    links.Agrees waiting place pieces outcome := by
  cases outcome with
  | done goal after => exact ⟨leads goal agrees.1, agrees.2⟩
  | stuck path => exact sticks path agrees

theorem agrees_joinPieces {expand : Seen → Path → PyStr → Joined} {waiting : List Path}
    (sound : ∀ folder piece target seen, Dict.get? (folder ++ [piece]) links = some target →
      folder ++ [piece] ∉ waiting → links.Knows ((folder ++ [piece]) :: waiting) seen →
        links.Agrees ((folder ++ [piece]) :: waiting) (Path.linkStart folder target)
          (splitSlash target) (expand seen folder target))
    {seen : Seen} (knows : links.Knows waiting seen) (place : Path) (pieces : List PyStr) :
    links.Agrees waiting place pieces (links.joinPieces expand seen place pieces) := by
  induction pieces generalizing seen place with
  | nil => exact ⟨.here, knows⟩
  | cons piece rest ih =>
      rw [joinPieces]
      split
      · next skips =>
          refine (ih knows place).before (fun goal leads => ?_) fun path => .skip skips
          rwa [followed_skip skips]
      split
      · next notSkipped dots =>
          subst dots
          refine (ih knows place.dropLast).before (fun goal leads => ?_) fun path => .up
          rw [followed_up]
          exact .up leads
      · next notSkipped notUp =>
          obtain ⟨notEmpty, notDot⟩ := not_or.mp notSkipped
          have isEntry : IsEntry piece := ⟨notEmpty, notDot, notUp⟩
          split
          · next absent =>
              refine (ih knows (place ++ [piece])).before (fun goal leads => ?_)
                fun path => .entry isEntry absent
              rw [followed_entry isEntry]
              exact .entry notUp absent leads
          · next target isLink =>
              -- Where the link leads is known, it is being followed, or it is followed now.
              split
              · next found isFound =>
                  have leads := knows.resolved _ _ _ isFound isLink
                  rw [List.dropLast_concat] at leads
                  refine (ih knows found).before (fun goal onward => ?_)
                    fun path => .past isEntry isLink leads
                  rw [followed_entry isEntry]
                  exact .link notUp isLink leads onward
              · next isWaiting => exact .again isEntry isLink ((knows.waiting _).mp isWaiting)
              · next isNew =>
                  have absent : place ++ [piece] ∉ waiting := by
                    intro member
                    rw [(knows.waiting _).mpr member] at isNew
                    cases isNew
                  have inside := sound place piece target _ isLink absent (knows.start _)
                  split
                  · next found after finished =>
                      rw [finished] at inside
                      obtain ⟨leads, knowsAfter⟩ := inside
                      have knowsNow := knowsAfter.finish absent isLink
                        (by rwa [List.dropLast_concat])
                      refine (ih knowsNow found).before (fun goal onward => ?_)
                        fun path => .past isEntry isLink leads
                      rw [followed_entry isEntry]
                      exact .link notUp isLink leads onward
                  · next path gaveUp =>
                      rw [gaveUp] at inside
                      exact .inside isEntry isLink absent inside

/-- A link that is followed next is one more link of the disk. -/
theorem waits_more {waiting : List Path} (distinct : waiting.Nodup)
    (known : waiting ⊆ links.map Prod.fst) {entry : Path} {target : PyStr}
    (isLink : Dict.get? entry links = some target) (absent : entry ∉ waiting) :
    (entry :: waiting).Nodup ∧ entry :: waiting ⊆ links.map Prod.fst := by
  refine ⟨List.nodup_cons.mpr ⟨absent, distinct⟩, List.cons_subset.mpr ⟨?_, known⟩⟩
  exact List.mem_map_of_mem (Dict.mem_of_get? isLink)

/-- Each link that is being followed is one of the disk's, so that the depth is enough. -/
theorem agrees_joinRealPath {depth : Nat} {waiting : List Path} {seen : Seen}
    (knows : links.Knows waiting seen) (distinct : waiting.Nodup)
    (known : waiting ⊆ links.map Prod.fst) (enough : links.length ≤ waiting.length + depth)
    (place : Path) (pieces : List PyStr) :
    links.Agrees waiting place pieces (links.joinRealPath depth seen place pieces) := by
  induction depth generalizing waiting seen place pieces with
  | zero =>
      refine agrees_joinPieces (fun folder piece target seen isLink absent _ => ?_) knows place pieces
      obtain ⟨distinctMore, knownMore⟩ := waits_more distinct known isLink absent
      have within := (List.subperm_of_subset distinctMore knownMore).length_le
      rw [List.length_cons, List.length_map] at within
      omega
  | succ depth ih =>
      refine agrees_joinPieces (fun folder piece target seen isLink absent knowsMore => ?_) knows
        place pieces
      obtain ⟨distinctMore, knownMore⟩ := waits_more distinct known isLink absent
      apply ih knowsMore distinctMore knownMore
      rw [List.length_cons]
      omega

/-! ## A path that sticks leads nowhere -/

theorem resolveWithin_up (depth : Nat) (place : Path) (rest : List PyStr) :
    links.resolveWithin depth place (lit ".." :: rest) =
      links.resolveWithin depth place.dropLast rest := by
  cases depth <;> simp only [resolveWithin, walk, if_true]

theorem resolveWithin_entry {place : Path} {piece : PyStr} (notUp : piece ≠ lit "..")
    (absent : Dict.get? (place ++ [piece]) links = none) (depth : Nat) (rest : List PyStr) :
    links.resolveWithin depth place (piece :: rest) =
      links.resolveWithin depth (place ++ [piece]) rest := by
  cases depth <;> simp only [resolveWithin, walk, if_neg notUp, absent]

theorem resolveWithin_link {depth : Nat} {place goal : Path} {piece target : PyStr}
    {rest : List PyStr} (notUp : piece ≠ lit "..")
    (isLink : Dict.get? (place ++ [piece]) links = some target)
    (reached : links.resolveWithin depth place (piece :: rest) = some goal) :
    ∃ less < depth, ∃ found,
      links.resolveWithin less (Path.linkStart place target) (components target) = some found ∧
        links.resolveWithin depth found rest = some goal := by
  cases depth with
  | zero =>
      simp only [resolveWithin, walk, if_neg notUp, isLink] at reached
      cases reached
  | succ depth =>
      simp only [resolveWithin, walk, if_neg notUp, isLink] at reached
      obtain ⟨found, expanded, onward⟩ := Option.bind_eq_some_iff.mp reached
      exact ⟨depth, Nat.lt_succ_self _, found, expanded, onward⟩

/-- No link that is being followed leads anywhere at less than this depth. -/
def Blocked (links : Links) (waiting : List Path) (depth : Nat) : Prop :=
  ∀ entry ∈ waiting, ∀ target, Dict.get? entry links = some target → ∀ less < depth,
    links.resolveWithin less (Path.linkStart entry.dropLast target) (components target) = none

/-- Of the depths at which a link on the way could lead somewhere, the least is enough, and
below it the link is no different from those that are being followed. -/
theorem Sticks.resolveWithin_eq_none {waiting : List Path} {place : Path} {pieces : List PyStr}
    {path : NormPath} (sticks : links.Sticks waiting place pieces path) {depth : Nat}
    (blocked : links.Blocked waiting depth) :
    links.resolveWithin depth place (followed pieces) = none := by
  induction sticks generalizing depth with
  | skip skips _ ih =>
      rw [followed_skip skips]
      exact ih blocked
  | up _ ih =>
      rw [followed_up, resolveWithin_up]
      exact ih blocked
  | entry isEntry absent _ ih =>
      rw [followed_entry isEntry, resolveWithin_entry isEntry.2.2 absent]
      exact ih blocked
  | past isEntry isLink leads _ ih =>
      rw [followed_entry isEntry, Option.eq_none_iff_forall_ne_some]
      intro goal reached
      obtain ⟨less, _, found, expanded, onward⟩ := resolveWithin_link isEntry.2.2 isLink reached
      rw [(leads_of_resolveWithin expanded).unique leads, ih blocked] at onward
      cases onward
  | again isEntry isLink isWaiting =>
      rw [followed_entry isEntry, Option.eq_none_iff_forall_ne_some]
      intro goal reached
      obtain ⟨less, within, found, expanded, _⟩ := resolveWithin_link isEntry.2.2 isLink reached
      have none := blocked _ isWaiting _ isLink less within
      rw [List.dropLast_concat, expanded] at none
      cases none
  | @inside waiting place piece target rest path isEntry isLink _ _ ih =>
      rw [followed_entry isEntry, Option.eq_none_iff_forall_ne_some]
      intro goal reached
      obtain ⟨less, within, found, expanded, _⟩ := resolveWithin_link isEntry.2.2 isLink reached
      have somewhere : ∃ depth,
          links.resolveWithin depth (Path.linkStart place target) (components target) ≠ none :=
        ⟨less, by rw [expanded]; exact Option.some_ne_none _⟩
      have least : Nat.find somewhere ≤ less :=
        Nat.find_min' somewhere (by rw [expanded]; exact Option.some_ne_none _)
      refine Nat.find_spec somewhere (ih ?_)
      intro entry member other otherLink below lower
      rcases List.mem_cons.mp member with rfl | isWaiting
      · cases isLink.symm.trans otherLink
        rw [List.dropLast_concat]
        exact not_not.mp (Nat.find_min somewhere lower)
      · exact blocked entry isWaiting other otherLink below (by omega)

/-- The links that are being followed lead nowhere. -/
def Looping (links : Links) (waiting : List Path) : Prop :=
  ∀ entry ∈ waiting, ∀ target, Dict.get? entry links = some target → ∀ found,
    ¬links.Leads (Path.linkStart entry.dropLast target) (components target) found

theorem Sticks.not_leads {waiting : List Path} {place goal : Path} {pieces : List PyStr}
    {path : NormPath} (sticks : links.Sticks waiting place pieces path)
    (looping : links.Looping waiting) : ¬links.Leads place (followed pieces) goal := by
  intro leads
  obtain ⟨depth, reached⟩ := exists_depth leads
  have blocked : links.Blocked waiting depth := by
    intro entry isWaiting target isLink less _
    rw [Option.eq_none_iff_forall_ne_some]
    exact fun found resolved =>
      looping entry isWaiting target isLink found (leads_of_resolveWithin resolved)
  rw [sticks.resolveWithin_eq_none blocked] at reached
  cases reached

/-! ## The path that is left -/

theorem Sticks.of_skip {waiting : List Path} {place : Path} {piece : PyStr} {rest : List PyStr}
    {path : NormPath} (skips : piece = [] ∨ piece = lit ".")
    (sticks : links.Sticks waiting place (piece :: rest) path) :
    links.Sticks waiting place rest path := by
  have notEntry : ¬IsEntry piece := fun isEntry => skips.elim isEntry.1 isEntry.2.1
  cases sticks with
  | skip _ later => exact later
  | up _ => simp [lit] at skips
  | entry isEntry _ _ => exact absurd isEntry notEntry
  | past isEntry _ _ _ => exact absurd isEntry notEntry
  | again isEntry _ _ => exact absurd isEntry notEntry
  | inside isEntry _ _ _ => exact absurd isEntry notEntry

theorem Sticks.of_up {waiting : List Path} {place : Path} {rest : List PyStr} {path : NormPath}
    (sticks : links.Sticks waiting place (lit ".." :: rest) path) :
    links.Sticks waiting place.dropLast rest path := by
  have notEntry : ¬IsEntry (lit "..") := fun isEntry => isEntry.2.2 rfl
  cases sticks with
  | skip skips _ => simp [lit] at skips
  | up later => exact later
  | entry isEntry _ _ => exact absurd isEntry notEntry
  | past isEntry _ _ _ => exact absurd isEntry notEntry
  | again isEntry _ _ => exact absurd isEntry notEntry
  | inside isEntry _ _ _ => exact absurd isEntry notEntry

theorem Sticks.of_entry {waiting : List Path} {place : Path} {piece : PyStr} {rest : List PyStr}
    {path : NormPath} (isEntry : IsEntry piece) (absent : Dict.get? (place ++ [piece]) links = none)
    (sticks : links.Sticks waiting place (piece :: rest) path) :
    links.Sticks waiting (place ++ [piece]) rest path := by
  cases sticks with
  | skip skips _ => exact absurd isEntry fun isEntry => skips.elim isEntry.1 isEntry.2.1
  | up _ => exact absurd rfl isEntry.2.2
  | entry _ _ later => exact later
  | past _ isLink _ _ => cases absent.symm.trans isLink
  | again _ isLink _ => cases absent.symm.trans isLink
  | inside _ isLink _ _ => cases absent.symm.trans isLink

theorem Sticks.of_link {waiting : List Path} {place : Path} {piece target : PyStr}
    {rest : List PyStr} {path : NormPath} (isEntry : IsEntry piece)
    (isLink : Dict.get? (place ++ [piece]) links = some target)
    (sticks : links.Sticks waiting place (piece :: rest) path) :
    (∃ found, links.Leads (Path.linkStart place target) (components target) found ∧
      links.Sticks waiting found rest path) ∨
    (place ++ [piece] ∈ waiting ∧ path = NormPath.join ⟨false, place ++ [piece]⟩ rest) ∨
    (place ++ [piece] ∉ waiting ∧ ∃ inner, path = inner.join rest ∧
      links.Sticks ((place ++ [piece]) :: waiting) (Path.linkStart place target)
        (splitSlash target) inner) := by
  cases sticks with
  | skip skips _ => exact absurd isEntry fun isEntry => skips.elim isEntry.1 isEntry.2.1
  | up _ => exact absurd rfl isEntry.2.2
  | entry _ absent _ => cases absent.symm.trans isLink
  | past _ other leads later =>
      cases isLink.symm.trans other
      exact .inl ⟨_, leads, later⟩
  | again _ _ isWaiting => exact .inr (.inl ⟨isWaiting, rfl⟩)
  | inside _ other absent inner =>
      cases isLink.symm.trans other
      exact .inr (.inr ⟨absent, _, rfl, inner⟩)

theorem Looping.cons {waiting : List Path} (looping : links.Looping waiting) {place : Path}
    {piece target : PyStr} (isLink : Dict.get? (place ++ [piece]) links = some target)
    (nowhere : ∀ found, ¬links.Leads (Path.linkStart place target) (components target) found) :
    links.Looping ((place ++ [piece]) :: waiting) := by
  intro entry member other otherLink
  rcases List.mem_cons.mp member with rfl | isWaiting
  · cases isLink.symm.trans otherLink
    rwa [List.dropLast_concat]
  · exact looping entry isWaiting other otherLink

/-- A link in whose target a path sticks leads nowhere. -/
theorem Sticks.nowhere {waiting : List Path} {place : Path} {piece target : PyStr} {path : NormPath}
    (sticks : links.Sticks ((place ++ [piece]) :: waiting) (Path.linkStart place target)
      (splitSlash target) path)
    (looping : links.Looping waiting) (isEntry : IsEntry piece)
    (isLink : Dict.get? (place ++ [piece]) links = some target)
    (absent : place ++ [piece] ∉ waiting) (found : Path) :
    ¬links.Leads (Path.linkStart place target) (components target) found := by
  intro leads
  have outer : links.Sticks waiting place [piece] (path.join []) :=
    .inside isEntry isLink absent sticks
  have reached : links.Leads place (followed [piece]) found := by
    rw [followed_entry isEntry]
    exact .link isEntry.2.2 isLink leads .here
  exact outer.not_leads looping reached

/-- Which path is left is determined. -/
theorem Sticks.unique {waiting : List Path} {place : Path} {pieces : List PyStr}
    {path other : NormPath} (sticks : links.Sticks waiting place pieces path)
    (looping : links.Looping waiting) (also : links.Sticks waiting place pieces other) :
    path = other := by
  induction sticks generalizing other with
  | skip skips _ ih => exact ih looping (also.of_skip skips)
  | up _ ih => exact ih looping also.of_up
  | entry isEntry absent _ ih => exact ih looping (also.of_entry isEntry absent)
  | past isEntry isLink leads _ ih =>
      rcases also.of_link isEntry isLink with
        ⟨found, leadsAlso, later⟩ | ⟨isWaiting, -⟩ | ⟨absent, inner, -, inside⟩
      · rw [leadsAlso.unique leads] at later
        exact ih looping later
      · have nowhere := looping _ isWaiting _ isLink
        rw [List.dropLast_concat] at nowhere
        exact absurd leads (nowhere _)
      · exact absurd leads (inside.nowhere looping isEntry isLink absent _)
  | again isEntry isLink isWaiting =>
      rcases also.of_link isEntry isLink with ⟨found, leads, -⟩ | ⟨-, same⟩ | ⟨absent, -⟩
      · have nowhere := looping _ isWaiting _ isLink
        rw [List.dropLast_concat] at nowhere
        exact absurd leads (nowhere _)
      · exact same.symm
      · exact absurd isWaiting absent
  | inside isEntry isLink absent inside ih =>
      rcases also.of_link isEntry isLink with
        ⟨found, leads, -⟩ | ⟨isWaiting, -⟩ | ⟨-, inner, rfl, alsoInside⟩
      · exact absurd leads (inside.nowhere looping isEntry isLink absent _)
      · exact absurd isWaiting absent
      · have loopingMore := looping.cons isLink (inside.nowhere looping isEntry isLink absent)
        rw [ih loopingMore alsoInside]

/-! ## The whole path -/

theorem looping_nil (links : Links) : links.Looping [] := by
  intro entry isWaiting
  cases isWaiting

/-- A path leads somewhere, or sticks; `realpath` returns the place, or the path that is left. -/
theorem realPath_cases (links : Links) (pieces : List PyStr) :
    (∃ place, links.Leads [] (followed pieces) place ∧ links.realPath pieces = ⟨false, place⟩) ∨
      links.Sticks [] [] pieces (links.realPath pieces) := by
  have agrees : links.Agrees [] [] pieces (links.joinRealPath links.length [] [] pieces) :=
    agrees_joinRealPath links.knows_nil List.nodup_nil (List.nil_subset _) (by simp) [] pieces
  rw [realPath]
  split
  · next place after finished =>
      rw [finished] at agrees
      exact .inl ⟨place, agrees.1, rfl⟩
  · next path gaveUp =>
      rw [gaveUp] at agrees
      exact .inr agrees

theorem realPath_of_leads {pieces : List PyStr} {place : Path}
    (leads : links.Leads [] (followed pieces) place) : links.realPath pieces = ⟨false, place⟩ := by
  rcases links.realPath_cases pieces with ⟨found, leadsAlso, same⟩ | sticks
  · rw [same, leadsAlso.unique leads]
  · exact absurd leads (sticks.not_leads links.looping_nil)

theorem realPath_of_sticks {pieces : List PyStr} {path : NormPath}
    (sticks : links.Sticks [] [] pieces path) : links.realPath pieces = path := by
  rcases links.realPath_cases pieces with ⟨found, leads, -⟩ | also
  · exact absurd leads (sticks.not_leads links.looping_nil)
  · exact also.unique links.looping_nil sticks

/-- Ahead of a path that sticks, a folder without links is passed by. -/
theorem sticks_append_iff {waiting : List Path} {place front : Path} {pieces : List PyStr}
    {path : NormPath} (entries : ∀ piece ∈ front, IsEntry piece)
    (noLink : ∀ start, start <+: front → start ≠ [] → Dict.get? (place ++ start) links = none) :
    links.Sticks waiting place (front ++ pieces) path ↔
      links.Sticks waiting (place ++ front) pieces path := by
  induction front generalizing place with
  | nil => rw [List.nil_append, List.append_nil]
  | cons piece rest ih =>
      have isEntry := entries piece List.mem_cons_self
      have absent := noLink [piece] ⟨rest, rfl⟩ (List.cons_ne_nil _ _)
      have onward := @ih (place ++ [piece])
        (fun other member => entries other (List.mem_cons_of_mem _ member))
        (fun start isPrefix _ => by
          rw [List.append_assoc]
          exact noLink (piece :: start) (by simpa using isPrefix) (List.cons_ne_nil _ _))
      rw [List.append_assoc, List.singleton_append] at onward
      rw [← onward, List.cons_append]
      exact ⟨Sticks.of_entry isEntry absent, Sticks.entry isEntry absent⟩

theorem followed_eq_self {pieces : List PyStr} (entries : ∀ piece ∈ pieces, IsEntry piece) :
    followed pieces = pieces :=
  List.filter_eq_self.mpr fun piece member => by
    simp [(entries piece member).1, (entries piece member).2.1]

/-- A link that leads through itself, and out of itself again as text. -/
example : realPath [([lit "a"], lit "a/../b")] [lit "a"] = ⟨false, [lit "b"]⟩ := by decide +kernel

/-- A path that leads somewhere leads to a place without a link on it. -/
theorem Leads.free {place goal : Path} {pieces : List PyStr}
    (leads : links.Leads place pieces goal) (free : links.Free place) : links.Free goal := by
  induction leads with
  | here => exact free
  | up _ ih => exact ih fun front isFront => free front ((List.mem_inits _ _).mpr
      (((List.mem_inits _ _).mp isFront).trans (List.dropLast_prefix _)))
  | @entry place _ piece _ _ absent _ ih =>
      refine ih fun front isFront => ?_
      rcases List.prefix_concat_iff.mp ((List.mem_inits _ _).mp isFront) with rfl | isPrefix
      · exact absent
      · exact free front ((List.mem_inits _ _).mpr isPrefix)
  | @link place found goal piece target rest _ _ _ _ inner outer =>
      refine outer (inner ?_)
      rw [Path.linkStart]
      split
      · intro front isFront
        rw [List.prefix_nil.mp ((List.mem_inits _ _).mp isFront)]
        exact free [] ((List.mem_inits _ _).mpr List.nil_prefix)
      · exact free

end Links

end HermesMesh.Python
