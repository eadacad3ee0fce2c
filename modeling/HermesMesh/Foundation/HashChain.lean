import Mathlib

/-!
# Hash chains

A hash chain folds a list of entries into a digest, each link hashing the digest
so far with the next entry.  When links determine what they hash, the last digest
determines the whole list: the induction runs backwards from the end, and the
starting digest must not be the digest of any link.
-/

namespace HermesMesh.Foundation

/-- A chain of digests over entries; a link may refuse an entry. -/
structure HashChain (δ α : Type) where
  genesis : δ
  link : δ → α → Option δ

namespace HashChain

variable {δ α κ : Type}

/-- The digest after all entries. -/
def head (chain : HashChain δ α) (entries : List α) : Option δ :=
  entries.foldlM chain.link chain.genesis

/-- Links of good entries determine the previous digest and what `view` shows of
the entry, and no link yields the starting digest. -/
structure Binding (chain : HashChain δ α) (good : α → Prop) (view : α → κ) : Prop where
  link_injective : ∀ {before before' entry entry' digest}, good entry → good entry' →
    chain.link before entry = some digest → chain.link before' entry' = some digest →
      before = before' ∧ view entry = view entry'
  fresh : ∀ before entry, chain.link before entry ≠ some chain.genesis

theorem head_concat (chain : HashChain δ α) (entries : List α) (entry : α) :
    chain.head (entries ++ [entry]) =
      (chain.head entries).bind fun before => chain.link before entry := by
  simp [head, List.foldlM_append]

/-- The last digest commits to the whole list of entries. -/
theorem head_commits {chain : HashChain δ α} {good : α → Prop} {view : α → κ}
    (binding : chain.Binding good view) {left right : List α} {digest : δ}
    (leftGood : ∀ entry ∈ left, good entry) (rightGood : ∀ entry ∈ right, good entry)
    (leftHead : chain.head left = some digest)
    (rightHead : chain.head right = some digest) : left.map view = right.map view := by
  induction left using List.reverseRecOn generalizing right digest with
  | nil =>
      rcases List.eq_nil_or_concat right with rfl | ⟨entries, entry, rfl⟩
      · rfl
      · rw [List.concat_eq_append, head_concat, Option.bind_eq_some_iff] at rightHead
        obtain ⟨before, -, linked⟩ := rightHead
        cases leftHead
        exact absurd linked (binding.fresh before entry)
  | append_singleton entries entry ih =>
      rw [head_concat, Option.bind_eq_some_iff] at leftHead
      obtain ⟨before, entriesHead, linked⟩ := leftHead
      rcases List.eq_nil_or_concat right with rfl | ⟨others, other, rfl⟩
      · cases rightHead
        exact absurd linked (binding.fresh before entry)
      · rw [List.concat_eq_append, head_concat, Option.bind_eq_some_iff] at rightHead
        obtain ⟨before', othersHead, linked'⟩ := rightHead
        rw [List.concat_eq_append] at rightGood ⊢
        obtain ⟨rfl, same⟩ := binding.link_injective (leftGood entry (by simp))
          (rightGood other (by simp)) linked linked'
        have front := ih (fun e member => leftGood e (by simp [member]))
          (fun e member => rightGood e (by simp [member])) entriesHead othersHead
        simp only [List.map_append, front, List.map_cons, same, List.map_nil]

end HashChain

end HermesMesh.Foundation
