import HermesMesh.Foundation.Counting
import HermesMesh.Python.Dict
import HermesMesh.Python.Path

/-!
# Symbolic links

A path is followed piece by piece.  Where an entry is a link, its target is followed
first, from the folder of the link or from the root, and the rest of the path from where
that leads.  `resolve` finds the place in finitely many steps, and finds none where links
lead back to themselves.
-/

namespace HermesMesh.Python

open Foundation

/-- The texts of the symbolic links of a disk, by the paths of their entries. -/
abbrev Links := Dict Path PyStr

/-- The folder from which the target of a link is followed. -/
def Path.linkStart (folder : Path) (target : PyStr) : Path :=
  if target.head? = some slash then [] else folder

namespace Links

/-- Following the pieces from one place leads to the other. -/
inductive Leads (links : Links) : Path → List PyStr → Path → Prop where
  | here {place : Path} : Leads links place [] place
  | up {place goal : Path} {rest : List PyStr} :
      Leads links place.dropLast rest goal → Leads links place (lit ".." :: rest) goal
  | entry {place goal : Path} {piece : PyStr} {rest : List PyStr} :
      piece ≠ lit ".." → Dict.get? (place ++ [piece]) links = none →
      Leads links (place ++ [piece]) rest goal → Leads links place (piece :: rest) goal
  | link {place found goal : Path} {piece target : PyStr} {rest : List PyStr} :
      piece ≠ lit ".." → Dict.get? (place ++ [piece]) links = some target →
      Leads links (place.linkStart target) (components target) found →
      Leads links found rest goal → Leads links place (piece :: rest) goal

/-- Follow the pieces; `expand` says where a target leads from the folder of its link. -/
def walk (links : Links) (expand : Path → PyStr → Option Path) : Path → List PyStr → Option Path
  | place, [] => some place
  | place, piece :: rest =>
      if piece = lit ".." then walk links expand place.dropLast rest
      else
        match Dict.get? (place ++ [piece]) links with
        | none => walk links expand (place ++ [piece]) rest
        | some target => do
            let found ← expand place target
            walk links expand found rest

/-- Follow the pieces through links within links, no deeper than `depth`. -/
def resolveWithin (links : Links) : Nat → Path → List PyStr → Option Path
  | 0 => walk links fun _ _ => none
  | depth + 1 => walk links fun folder target =>
      resolveWithin links depth (folder.linkStart target) (components target)

/-- Where the pieces lead from a place; `none` is a loop. -/
def resolve (links : Links) (place : Path) (pieces : List PyStr) : Option Path :=
  links.resolveWithin (links.length + 1) place pieces

variable {links : Links}

/-! ## Soundness -/

theorem leads_of_walk {expand : Path → PyStr → Option Path}
    (sound : ∀ folder target found, expand folder target = some found →
      links.Leads (folder.linkStart target) (components target) found)
    {place goal : Path} {pieces : List PyStr} (reached : links.walk expand place pieces = some goal) :
    links.Leads place pieces goal := by
  induction pieces generalizing place with
  | nil =>
      cases reached
      exact .here
  | cons piece rest ih =>
      rw [walk] at reached
      split at reached
      · next dots =>
          subst dots
          exact .up (ih reached)
      · next ordinary =>
          split at reached
          · next absent => exact .entry ordinary absent (ih reached)
          · next target isLink =>
              obtain ⟨found, expanded, onward⟩ := Option.bind_eq_some_iff.mp reached
              exact .link ordinary isLink (sound _ _ _ expanded) (ih onward)

theorem leads_of_resolveWithin {depth : Nat} {place goal : Path} {pieces : List PyStr}
    (reached : links.resolveWithin depth place pieces = some goal) :
    links.Leads place pieces goal := by
  induction depth generalizing place pieces goal with
  | zero => exact leads_of_walk (fun _ _ _ impossible => by cases impossible) reached
  | succ depth ih => exact leads_of_walk (fun _ _ _ expanded => ih expanded) reached

/-! ## Completeness -/

/-- A walk goes as far when its links lead as far. -/
theorem walk_mono {less more : Path → PyStr → Option Path}
    (grows : ∀ folder target found, less folder target = some found →
      more folder target = some found)
    {place goal : Path} {pieces : List PyStr} (reached : links.walk less place pieces = some goal) :
    links.walk more place pieces = some goal := by
  induction pieces generalizing place with
  | nil => exact reached
  | cons piece rest ih =>
      rw [walk] at reached ⊢
      split at reached
      · next dots =>
          rw [if_pos dots]
          exact ih reached
      · next ordinary =>
          rw [if_neg ordinary]
          split at reached
          · exact ih reached
          · obtain ⟨found, expanded, onward⟩ := Option.bind_eq_some_iff.mp reached
            exact Option.bind_eq_some_iff.mpr ⟨found, grows _ _ _ expanded, ih onward⟩

theorem resolveWithin_succ {depth : Nat} {place goal : Path} {pieces : List PyStr}
    (reached : links.resolveWithin depth place pieces = some goal) :
    links.resolveWithin (depth + 1) place pieces = some goal := by
  induction depth generalizing place pieces goal with
  | zero => exact walk_mono (fun _ _ _ impossible => by cases impossible) reached
  | succ depth ih => exact walk_mono (fun _ _ _ expanded => ih expanded) reached

theorem resolveWithin_mono {depth more : Nat} (deeper : depth ≤ more) {place goal : Path}
    {pieces : List PyStr} (reached : links.resolveWithin depth place pieces = some goal) :
    links.resolveWithin more place pieces = some goal := by
  induction deeper with
  | refl => exact reached
  | step _ ih => exact resolveWithin_succ ih

/-- A path that leads somewhere does so within some depth. -/
theorem exists_depth {place goal : Path} {pieces : List PyStr}
    (leads : links.Leads place pieces goal) :
    ∃ depth, links.resolveWithin depth place pieces = some goal := by
  induction leads with
  | here => exact ⟨0, rfl⟩
  | up _ ih =>
      obtain ⟨depth, reached⟩ := ih
      refine ⟨depth, ?_⟩
      cases depth with
      | zero => exact reached
      | succ depth => exact reached
  | entry ordinary absent _ ih =>
      obtain ⟨depth, reached⟩ := ih
      refine ⟨depth, ?_⟩
      cases depth <;> simpa [resolveWithin, walk, ordinary, absent] using reached
  | link ordinary isLink _ _ target rest =>
      obtain ⟨inner, expanded⟩ := target
      obtain ⟨outer, onward⟩ := rest
      refine ⟨max inner outer + 1, ?_⟩
      have expanded := resolveWithin_mono (le_max_left inner outer) expanded
      have onward := resolveWithin_mono ((le_max_right inner outer).trans (Nat.le_succ _)) onward
      rw [resolveWithin, walk, if_neg ordinary]
      simp only [isLink]
      exact Option.bind_eq_some_iff.mpr ⟨_, expanded, onward⟩

/-- A walk depends on its links' targets only. -/
theorem walk_congr {left right : Path → PyStr → Option Path}
    (agree : ∀ folder piece target, (folder ++ [piece], target) ∈ links →
      left folder target = right folder target)
    (place : Path) (pieces : List PyStr) :
    links.walk left place pieces = links.walk right place pieces := by
  induction pieces generalizing place with
  | nil => rfl
  | cons piece rest ih =>
      rw [walk, walk]
      split
      · exact ih _
      · split
        · exact ih _
        · next target isLink =>
            rw [agree place piece target (Dict.mem_of_get? isLink)]
            exact congrArg _ (funext fun found => ih found)

/-- Where the target of a link leads within a depth. -/
def expansion (links : Links) (depth : Nat) (link : Path × PyStr) : Option Path :=
  links.resolveWithin depth (Path.linkStart link.1.dropLast link.2) (components link.2)

theorem walk_of_expansion {depth more : Nat}
    (same : ∀ link ∈ links, links.expansion depth link = links.expansion more link) (place : Path)
    (pieces : List PyStr) :
    links.resolveWithin (depth + 1) place pieces = links.resolveWithin (more + 1) place pieces := by
  refine walk_congr (fun folder piece target member => ?_) place pieces
  have agrees := same _ member
  rwa [expansion, expansion, List.dropLast_concat] at agrees

/-- Once a deeper walk leads no further, none does. -/
theorem resolveWithin_steady {depth : Nat}
    (steady : ∀ place pieces,
      links.resolveWithin (depth + 1) place pieces = links.resolveWithin depth place pieces)
    (more : Nat) (place : Path) (pieces : List PyStr) :
    links.resolveWithin (depth + more) place pieces = links.resolveWithin depth place pieces := by
  induction more with
  | zero => rfl
  | succ more ih =>
      have onward : ∀ count place pieces, links.resolveWithin (depth + count + 1) place pieces =
          links.resolveWithin (depth + count) place pieces := by
        intro count
        induction count with
        | zero => exact steady
        | succ count ih => exact walk_of_expansion fun link _ => ih _ _
      rw [← Nat.add_assoc, onward, ih]

/-- Each depth up to the number of links resolves another link, or none is left to
resolve. -/
theorem exists_steady_depth (links : Links) :
    ∃ depth ≤ links.length + 1, ∀ place pieces,
      links.resolveWithin (depth + 1) place pieces = links.resolveWithin depth place pieces := by
  have grows : ∀ depth, ∀ link ∈ links, (links.expansion depth link).isSome = true →
      (links.expansion (depth + 1) link).isSome = true := by
    intro depth link _ resolved
    obtain ⟨goal, reached⟩ := Option.isSome_iff_exists.mp resolved
    exact Option.isSome_iff_exists.mpr ⟨goal, resolveWithin_succ reached⟩
  obtain ⟨depth, within, steady⟩ := exists_steady
    (fun depth => List.countP_le_length (p := fun link => (links.expansion depth link).isSome))
    (fun depth => List.countP_mono_left (grows depth))
  refine ⟨depth + 1, Nat.succ_le_succ within, fun place pieces => ?_⟩
  refine (walk_of_expansion (fun link member => ?_) place pieces).symm
  cases resolved : links.expansion depth link with
  | some goal => exact (resolveWithin_succ resolved).symm
  | none =>
      cases deeper : links.expansion (depth + 1) link with
      | none => rfl
      | some goal =>
          have more := countP_lt_countP (grows depth) member (by rw [deeper]; rfl)
            (by rw [resolved]; rfl)
          omega

/-- `resolve` finds where a path leads, and finds nothing exactly when links loop. -/
theorem resolve_eq_some {place goal : Path} {pieces : List PyStr} :
    links.resolve place pieces = some goal ↔ links.Leads place pieces goal := by
  constructor
  · exact leads_of_resolveWithin
  · intro leads
    obtain ⟨depth, reached⟩ := exists_depth leads
    obtain ⟨enough, within, steady⟩ := exists_steady_depth links
    have deep := resolveWithin_mono (Nat.le_add_left depth enough) reached
    rw [resolveWithin_steady steady] at deep
    exact resolveWithin_mono within deep

/-- Pieces without a link among them are followed as they stand. -/
theorem leads_append {place goal : Path} {front rest : List PyStr}
    (ordinary : ∀ piece ∈ front, piece ≠ lit "..")
    (noLink : ∀ start, start <+: front → start ≠ [] → Dict.get? (place ++ start) links = none) :
    links.Leads place (front ++ rest) goal ↔ links.Leads (place ++ front) rest goal := by
  induction front generalizing place with
  | nil => rw [List.nil_append, List.append_nil]
  | cons piece front ih =>
      have here := ordinary piece List.mem_cons_self
      have absent := noLink [piece] (List.prefix_append [piece] front) (by simp)
      have onward := @ih (place ++ [piece])
        (fun other member => ordinary other (List.mem_cons_of_mem _ member))
        (fun start isPrefix _ => by
          rw [List.append_assoc]
          exact noLink (piece :: start) (by simpa using isPrefix) (by simp))
      rw [List.append_assoc, List.singleton_append] at onward
      rw [← onward, List.cons_append]
      constructor
      · intro leads
        cases leads with
        | up _ => exact absurd rfl here
        | entry _ _ leads => exact leads
        | link _ isLink _ _ =>
            rw [absent] at isLink
            cases isLink
      · exact .entry here absent

/-- Without a link on it, a path leads where its pieces say. -/
theorem leads_of_no_link {place : Path} {pieces : List PyStr}
    (ordinary : ∀ piece ∈ pieces, piece ≠ lit "..")
    (noLink : ∀ start, start <+: pieces → start ≠ [] → Dict.get? (place ++ start) links = none) :
    links.Leads place pieces (place ++ pieces) := by
  have followed := (@leads_append links place (place ++ pieces) pieces [] ordinary noLink).mpr .here
  rwa [List.append_nil] at followed

/-- A path leads to one place. -/
theorem Leads.unique {place goal other : Path} {pieces : List PyStr}
    (leads : links.Leads place pieces goal) (also : links.Leads place pieces other) :
    goal = other := by
  rw [← resolve_eq_some] at leads also
  exact Option.some.inj (leads.symm.trans also)

end Links

end HermesMesh.Python
