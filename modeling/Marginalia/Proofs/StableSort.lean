/-
Stable sorting, as far as scans need it: what is picked from a list comes in
the same order whether it is picked before or after the list is sorted. From
this follow the three facts that the order of annotations and diagnostics
rests on: sorting more never rearranges what was there (`mergeSort_sublist`),
picking commutes with sorting (`filter_mergeSort`), and a list of which one
part comes before the other is sorted part by part (`mergeSort_parts`). A list
that is sorted with each element once goes up strictly (`pairwise_mergeSort`).
-/
import Mathlib.Data.List.Sort

namespace Marginalia.StableSort

/-- The comparisons that a list can be sorted by: of two elements one may
come before the other, or each before the other when they tie. -/
structure TotalPreorder {α : Type} (le : α → α → Bool) : Prop where
  trans : ∀ a b c, le a b = true → le b c = true → le a c = true
  total : ∀ a b, (le a b || le b a) = true

namespace TotalPreorder

variable {α : Type} {le : α → α → Bool}

/-- The first element of a list is sorted in behind the elements that come
strictly before it, and in front of those that it ties with. -/
theorem mergeSort_cons (h : TotalPreorder le) (a : α) (l : List α) :
    (a :: l).mergeSort le
      = (l.mergeSort le).filter (fun b => !le a b)
        ++ a :: (l.mergeSort le).filter (le a) := by
  obtain ⟨before, behind, hcons, hrest, hbefore⟩ :=
    List.mergeSort_cons h.trans h.total a l
  have hbehind : ∀ b ∈ behind, le a b = true := by
    have hsorted := List.pairwise_mergeSort h.trans h.total (a :: l)
    rw [hcons] at hsorted
    intro b hb
    exact (List.pairwise_cons.1 (List.pairwise_append.1 hsorted).2.1).1 b hb
  have hstrict : before.filter (fun b => !le a b) = before
      ∧ behind.filter (fun b => !le a b) = [] := by
    constructor
    · exact List.filter_eq_self.2 hbefore
    · rw [List.filter_eq_nil_iff]
      intro b hb
      simp [hbehind b hb]
  have hloose : before.filter (le a) = []
      ∧ behind.filter (le a) = behind := by
    constructor
    · rw [List.filter_eq_nil_iff]
      intro b hb
      simpa using hbefore b hb
    · exact List.filter_eq_self.2 hbehind
  rw [hcons, hrest, List.filter_append, List.filter_append, hstrict.1,
    hstrict.2, hloose.1, hloose.2, List.append_nil, List.nil_append]

/-- What a list has beside another one never rearranges the other one. -/
theorem mergeSort_sublist (h : TotalPreorder le) {l l' : List α}
    (hsub : l.Sublist l') : (l.mergeSort le).Sublist (l'.mergeSort le) := by
  induction hsub with
  | slnil => exact List.Sublist.refl _
  | @cons l l' a _ ih =>
      obtain ⟨before, behind, hcons, hrest, -⟩ :=
        List.mergeSort_cons h.trans h.total a l'
      rw [hrest] at ih
      rw [hcons]
      exact ih.middle a
  | @cons_cons l l' a _ ih =>
      rw [h.mergeSort_cons a l, h.mergeSort_cons a l']
      exact (ih.filter _).append ((ih.filter _).cons_cons a)

/-- Picking before sorting is picking after sorting. -/
theorem filter_mergeSort (h : TotalPreorder le) (p : α → Bool) (l : List α) :
    (l.mergeSort le).filter p = (l.filter p).mergeSort le := by
  have hall : ((l.filter p).mergeSort le).filter p
      = (l.filter p).mergeSort le := by
    rw [List.filter_eq_self]
    intro a ha
    exact (List.mem_filter.1 (List.mem_mergeSort.1 ha)).2
  have hsub : ((l.filter p).mergeSort le).Sublist
      ((l.mergeSort le).filter p) := by
    rw [← hall]
    exact (h.mergeSort_sublist List.filter_sublist).filter p
  -- neither has more elements than the other
  have hbefore : ((l.filter p).mergeSort le).length = (l.filter p).length :=
    List.length_mergeSort _
  have hafter : ((l.mergeSort le).filter p).length = (l.filter p).length :=
    ((List.mergeSort_perm l le).filter p).length_eq
  exact (hsub.eq_of_length (hbefore.trans hafter.symm)).symm

/-- Where the elements that are picked all come strictly before the others,
they are sorted apart. -/
theorem mergeSort_parts (h : TotalPreorder le) (p : α → Bool) {l : List α}
    (hp : ∀ a ∈ l, ∀ b ∈ l, p a = true → p b = false → le b a = false) :
    l.mergeSort le
      = (l.filter p).mergeSort le
        ++ (l.filter fun a => !p a).mergeSort le := by
  have hp' : ∀ a ∈ l.mergeSort le, ∀ b ∈ l.mergeSort le,
      p a = true → p b = false → le b a = false := by
    intro a ha b hb
    exact hp a (List.mem_mergeSort.1 ha) b (List.mem_mergeSort.1 hb)
  have hsorted := List.pairwise_mergeSort h.trans h.total l
  rw [← h.filter_mergeSort, ← h.filter_mergeSort]
  generalize l.mergeSort le = sorted at hp' hsorted
  induction sorted with
  | nil => rfl
  | cons a rest ih =>
      obtain ⟨hfirst, hrest⟩ := List.pairwise_cons.1 hsorted
      have ih' := ih (fun x hx y hy => hp' x (List.mem_cons_of_mem _ hx) y
        (List.mem_cons_of_mem _ hy)) hrest
      cases ha : p a with
      | true =>
          rw [List.filter_cons_of_pos ha, List.filter_cons_of_neg (by simp [ha]),
            List.cons_append, ← ih']
      | false =>
          -- no element behind this one is picked, for it would come before
          have hnone : rest.filter p = [] := by
            rw [List.filter_eq_nil_iff]
            intro b hb hpb
            have hlt := hp' b (List.mem_cons_of_mem _ hb) a
              (List.mem_cons_self ..) hpb ha
            rw [hfirst b hb] at hlt
            cases hlt
          rw [List.filter_cons_of_neg (by simp [ha]), hnone,
            List.filter_cons_of_pos (by simp [ha]), List.nil_append]
          rw [hnone, List.nil_append] at ih'
          rw [← ih']

/-- Picking parts a list where it picks all of the first part and none of
the second. -/
theorem filter_parts {p : α → Bool} {l l' : List α}
    (hl : ∀ a ∈ l, p a = true) (hl' : ∀ a ∈ l', p a = false) :
    (l ++ l').filter p = l ∧ (l ++ l').filter (fun a => !p a) = l' := by
  rw [List.filter_append, List.filter_append]
  constructor
  · rw [List.filter_eq_self.2 hl,
      List.filter_eq_nil_iff.2 fun a ha => by simp [hl' a ha],
      List.append_nil]
  · rw [List.filter_eq_nil_iff.2 fun a ha => by simp [hl a ha],
      List.filter_eq_self.2 fun a ha => by simp [hl' a ha],
      List.nil_append]

/-- Two lists that each have a part which comes before a second part of
both are sorted part by part. -/
theorem mergeSort_stretches (h : TotalPreorder le) (p : α → Bool)
    (hp : ∀ a b, p a = true → p b = false → le b a = false)
    {first first' rest rest' : List α}
    (hfirst : ∀ a ∈ first ++ first', p a = true)
    (hrest : ∀ a ∈ rest ++ rest', p a = false) :
    ((first ++ rest) ++ (first' ++ rest')).mergeSort le
      = (first ++ first').mergeSort le ++ (rest ++ rest').mergeSort le := by
  obtain ⟨hf, hf'⟩ := List.forall_mem_append.1 hfirst
  obtain ⟨hr, hr'⟩ := List.forall_mem_append.1 hrest
  obtain ⟨hpick, hleave⟩ := filter_parts hf hr
  obtain ⟨hpick', hleave'⟩ := filter_parts hf' hr'
  rw [h.mergeSort_parts p fun a _ b _ => hp a b,
    List.filter_append (first ++ rest), List.filter_append (first ++ rest),
    hpick, hpick', hleave, hleave']

/-- What is left of a list without repetitions has none. -/
theorem nodup_eraseDups [BEq α] [LawfulBEq α] (l : List α) :
    l.eraseDups.Nodup := by
  -- behind the first element the list is gone through without it
  induction hn : l.length using Nat.strongRecOn generalizing l with
  | ind n ih =>
      cases l with
      | nil => exact List.nodup_nil
      | cons a l =>
          rw [List.eraseDups_cons, List.nodup_cons, List.mem_eraseDups]
          refine ⟨by simp, ih _ ?_ _ rfl⟩
          rw [← hn, List.length_cons]
          exact Nat.lt_succ_of_le (List.length_filter_le _ _)

/-- Sorted with each element once, a list goes up. -/
theorem pairwise_mergeSort [BEq α] [LawfulBEq α] (h : TotalPreorder le)
    (l : List α) : (l.eraseDups.mergeSort le).Pairwise
      fun a b => le a b = true ∧ a ≠ b := by
  have hsorted := List.pairwise_mergeSort h.trans h.total l.eraseDups
  have hnodup : (l.eraseDups.mergeSort le).Nodup :=
    (List.mergeSort_perm _ _).nodup_iff.2 (nodup_eraseDups l)
  exact hsorted.and hnodup

end TotalPreorder

end Marginalia.StableSort
