/-
How paths are spelt. A path that is read from a text has one of three roots,
and its components can stand between slashes (`isSpelt_ofText`); such a path is
read back from its written form (`ofText_toText`), so two that are written
alike are the same (`toText_inj`).

A path has many spellings all the same. What it means is told by walking its
components from the root or from the working folder, and only a double dot
does not simply go on (`resolve_of_up_not_mem`): paths of one root without
double dots that mean the same are the same (`eq_of_resolve_eq`).
-/
import Marginalia.Proofs.Files.Order
import Marginalia.Proofs.Text.Pieces
import Marginalia.Proofs.Text.Quoting

namespace Marginalia

namespace Text

-- ============================================================== pieces

/-- Pieces without the separator come apart as they were joined. -/
theorem splitOn_joinWith {c : CodePoint} {first : Text} {pieces : List Text}
    (h : ∀ piece ∈ first :: pieces, c ∉ piece) :
    splitOn c (joinWith [c] (first :: pieces)) = first :: pieces := by
  induction pieces generalizing first with
  | nil => exact splitOn_of_not_mem (h first (List.mem_cons_self ..))
  | cons next pieces ih =>
      obtain ⟨hfirst, hrest⟩ := List.forall_mem_cons.1 h
      rw [joinWith_cons_cons, List.singleton_append,
        splitOn_append_cons hfirst, ih hrest]

end Text

namespace Path

-- ========================================================== components

/-- The double dot, which leads to the folder above. -/
def up : Text := [.scalar '.', .scalar '.']

/-- The text can stand between two slashes and is not passed over. -/
structure IsPart (part : Text) : Prop where
  ne_nil : part ≠ []
  ne_dot : part ≠ [.scalar '.']
  slash : .scalar '/' ∉ part

/-- The text can be the name of an entry of a folder. -/
structure IsName (name : Text) : Prop extends IsPart name where
  ne_up : name ≠ up

theorem isName_iff {name : Text} : IsName name
    ↔ name ≠ [] ∧ name ≠ [.scalar '.'] ∧ .scalar '/' ∉ name ∧ name ≠ up :=
  ⟨fun h => ⟨h.ne_nil, h.ne_dot, h.slash, h.ne_up⟩,
    fun h => ⟨⟨h.1, h.2.1, h.2.2.1⟩, h.2.2.2⟩⟩

instance (name : Text) : Decidable (IsName name) :=
  decidable_of_iff _ isName_iff.symm

theorem isPart_up : IsPart up where
  ne_nil := by decide
  ne_dot := by decide
  slash := by decide

/-- A path as it comes out of a text. -/
structure IsSpelt (p : Path) : Prop where
  root : p.root = [] ∨ p.root = "/" ∨ p.root = "//"
  parts : ∀ part ∈ p.parts, IsPart part

theorem isSpelt_ofText (t : Text) : (ofText t).IsSpelt where
  root := by
    show rootOf t = [] ∨ rootOf t = "/" ∨ rootOf t = "//"
    unfold rootOf
    split
    · exact .inr (.inl rfl)
    · exact .inr (.inr rfl)
    · exact .inr (.inl rfl)
    · exact .inl rfl
  parts := by
    intro part hpart
    obtain ⟨hmem, hkept⟩ := List.mem_filter.1 hpart
    simp only [Bool.and_eq_true, Bool.not_eq_true', List.isEmpty_eq_false_iff,
      bne_iff_ne, ne_eq] at hkept
    exact ⟨hkept.1, hkept.2, Text.not_mem_of_mem_splitOn hmem⟩

theorem IsSpelt.isClean {p : Path} (h : p.IsSpelt) : p.IsClean where
  root := by
    rcases h.root with hroot | hroot | hroot
    · exact .inl hroot
    · exact .inr (hroot ▸ by decide)
    · exact .inr (hroot ▸ by decide)
  parts := fun part hpart => (h.parts part hpart).slash

-- ======================================================== written forms

/-- A root is read from before components that do not start with a slash. -/
theorem rootOf_append {root : Text} {c : CodePoint} (t : Text)
    (hroot : root = [] ∨ root = "/" ∨ root = "//") (hc : c ≠ .scalar '/') :
    rootOf (root ++ c :: t) = root := by
  rcases hroot with rfl | rfl | rfl
  · simp [rootOf, hc]
  · show rootOf (.scalar '/' :: c :: t) = _
    simp [rootOf, hc]
  · show rootOf (.scalar '/' :: .scalar '/' :: c :: t) = _
    simp [rootOf, hc]

/-- The slashes of a root leave empty pieces only. -/
theorem splitOn_append_root {root : Text}
    (hroot : root = [] ∨ root = "/" ∨ root = "//") (t : Text) :
    ∃ empty : List Text, Text.splitOn (.scalar '/') (root ++ t)
        = empty ++ Text.splitOn (.scalar '/') t
      ∧ ∀ piece ∈ empty, piece = [] := by
  rcases hroot with rfl | rfl | rfl
  · exact ⟨[], rfl, List.forall_mem_nil _⟩
  · exact ⟨[[]], Text.splitOn_append_cons List.not_mem_nil t, by simp⟩
  · refine ⟨[[], []], ?_, by simp⟩
    show Text.splitOn (.scalar '/') ([] ++ .scalar '/' :: ([] ++ .scalar '/' :: t))
      = _
    rw [Text.splitOn_append_cons List.not_mem_nil,
      Text.splitOn_append_cons List.not_mem_nil]
    rfl

/-- A path is read back from its written form. -/
theorem ofText_toText {p : Path} (h : p.IsSpelt) : ofText p.toText = p := by
  obtain ⟨root, parts⟩ := p
  obtain ⟨hroot, hparts⟩ := h
  dsimp only at hroot hparts
  cases parts with
  | nil => rcases hroot with rfl | rfl | rfl <;> decide
  | cons part rest =>
      have htext : toText ⟨root, part :: rest⟩
          = root ++ Text.joinWith "/" (part :: rest) := by
        simp [toText]
      -- the first component has a first code point, which is no slash
      obtain ⟨c, more, hjoined, hc⟩ : ∃ c more,
          Text.joinWith "/" (part :: rest) = c :: more ∧ c ≠ .scalar '/' := by
        obtain ⟨hfirst, -⟩ := List.forall_mem_cons.1 hparts
        obtain ⟨c, tail, rfl⟩ := List.exists_cons_of_ne_nil hfirst.ne_nil
        have hc : c ≠ .scalar '/' := by
          rintro rfl
          exact hfirst.slash (List.mem_cons_self ..)
        cases rest with
        | nil => exact ⟨c, tail, rfl, hc⟩
        | cons next rest => exact ⟨c, _, rfl, hc⟩
      obtain ⟨empty, hsplit, hempty⟩ := splitOn_append_root hroot
        (Text.joinWith "/" (part :: rest))
      have hpieces : Text.splitOn (.scalar '/')
          (Text.joinWith "/" (part :: rest)) = part :: rest :=
        Text.splitOn_joinWith fun piece hpiece => (hparts piece hpiece).slash
      rw [htext]
      unfold ofText
      congr 1
      · rw [hjoined]
        exact rootOf_append more hroot hc
      · rw [hsplit, hpieces, List.filter_append]
        have hnone : empty.filter (fun part => !part.isEmpty
            && part != [.scalar '.']) = [] := by
          rw [List.filter_eq_nil_iff]
          intro piece hpiece
          rw [hempty piece hpiece]
          decide
        rw [hnone, List.nil_append, List.filter_eq_self]
        intro piece hpiece
        simp [(hparts piece hpiece).ne_nil, (hparts piece hpiece).ne_dot]

/-- Paths that are written alike are the same. -/
theorem toText_inj {p q : Path} (hp : p.IsSpelt) (hq : q.IsSpelt) :
    p.toText = q.toText ↔ p = q := by
  constructor
  · intro h
    rw [← ofText_toText hp, h, ofText_toText hq]
  · rintro rfl
    rfl

-- ============================================================= meaning

theorem resolveParts_cons (done : List Text) (part : Text)
    (parts : List Text) :
    resolveParts done (part :: parts)
      = if part = up then resolveParts done.dropLast parts
        else resolveParts (done ++ [part]) parts := rfl

theorem resolveParts_append (done parts more : List Text) :
    resolveParts done (parts ++ more)
      = resolveParts (resolveParts done parts) more := by
  induction parts generalizing done with
  | nil => rfl
  | cons part parts ih =>
      rw [List.cons_append, resolveParts_cons, resolveParts_cons]
      split
      · exact ih _
      · exact ih _

/-- Without double dots the walk goes on only. -/
theorem resolveParts_of_up_not_mem {done parts : List Text} (h : up ∉ parts) :
    resolveParts done parts = done ++ parts := by
  induction parts generalizing done with
  | nil => exact (List.append_nil done).symm
  | cons part parts ih =>
      rw [List.mem_cons, not_or] at h
      obtain ⟨hpart, hparts⟩ := h
      rw [resolveParts_cons, if_neg (Ne.symm hpart), ih hparts,
        List.append_assoc, List.singleton_append]

/-- Where the walk of a path starts. -/
def start (base p : Path) : List Text :=
  if p.isAbsolute then [] else resolveParts [] base.parts

theorem resolve_eq (base p : Path) :
    resolve base p = ⟨"/", resolveParts (start base p) p.parts⟩ := by
  show (⟨"/", resolveParts [] (append base p).parts⟩ : Path) = _
  unfold append start
  split
  · rfl
  · rw [resolveParts_append]

theorem resolve_of_up_not_mem (base : Path) {p : Path} (h : up ∉ p.parts) :
    resolve base p = ⟨"/", start base p ++ p.parts⟩ := by
  rw [resolve_eq, resolveParts_of_up_not_mem h]

/-- Paths of one root and without double dots that mean the same are the
same. -/
theorem eq_of_resolve_eq {base p q : Path} (hroot : p.root = q.root)
    (hp : up ∉ p.parts) (hq : up ∉ q.parts)
    (h : resolve base p = resolve base q) : p = q := by
  have hstart : start base p = start base q := by
    unfold start isAbsolute
    rw [hroot]
  rw [resolve_of_up_not_mem base hp, resolve_of_up_not_mem base hq, hstart,
    Path.mk.injEq] at h
  have hparts := List.append_cancel_left h.2
  cases p
  cases q
  rw [Path.mk.injEq]
  exact ⟨hroot, hparts⟩

end Path

end Marginalia
