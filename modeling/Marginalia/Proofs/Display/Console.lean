/-
The console of the program keeps the laws of one (`isLawful_console`). The tags
of a markup are those of its parts, but for a tag behind an escaped text: the
backslashes at the end of that may make it plain, and then the style that it
would have closed stays open. So the styles that are open are always those that
should be, and maybe others (`nested_tags`).
-/
import Mathlib.Data.List.Perm.Subperm
import Marginalia.Display.Console
import Marginalia.Proofs.Display.StyleNames
import Marginalia.Proofs.Display.Verbatim
import Marginalia.Proofs.Display.Wrapping

namespace Marginalia

open Console (Nests Part IsName isControl isPlain namesNothing shown)

namespace Console

variable {t u : Text}

theorem mem_takeWhile_append {p : CodePoint → Bool} {c : CodePoint}
    (h : c ∈ t.takeWhile p) : c ∈ (t ++ u).takeWhile p := by
  rw [List.takeWhile_append]
  split
  · exact List.mem_append_left _ (List.takeWhile_subset p h)
  · exact h

theorem namesNothing_of_append (h : namesNothing (t ++ u) = true) :
    namesNothing t = true ∧ namesNothing u = true := by
  induction t with
  | nil => exact ⟨rfl, h⟩
  | cons c t ih =>
      rw [List.cons_append, namesNothing, Bool.and_eq_true] at h
      obtain ⟨hc, hrest⟩ := h
      obtain ⟨ht, hu⟩ := ih hrest
      refine ⟨?_, hu⟩
      rw [namesNothing, ht, Bool.and_true, Bool.or_eq_true]
      refine (Bool.or_eq_true _ _ ▸ hc).imp_right fun hword => ?_
      rw [Bool.not_eq_true', ← Bool.not_eq_true, List.contains_iff_mem]
        at hword ⊢
      exact fun hmem => hword (mem_takeWhile_append hmem)

end Console

namespace Display

open Markup

/-- Names and their forms, in the same order. -/
abbrev Forms (names forms : List Text) : Prop :=
  List.Forall₂ IsStyle names forms

section Parts

variable (width : Nat) {ps : List Part} {names left forms : List Text}

/-- A tag stands in the markup as it is found there. -/
theorem written_opening_append (name rest : Text) :
    (console width).written (.opening name :: ps) ++ rest
      = .scalar '[' :: (name
        ++ .scalar ']' :: ((console width).written ps ++ rest)) := by
  rw [Console.written_cons, Part.written]
  simp only [List.cons_append, List.append_assoc, List.nil_append]

theorem written_closing_append (name rest : Text) :
    (console width).written (.closing name :: ps) ++ rest
      = .scalar '[' :: (.scalar '/' :: name
        ++ .scalar ']' :: ((console width).written ps ++ rest)) :=
  written_opening_append width (.scalar '/' :: name) rest

theorem written_opening (name : Text) :
    (console width).written (.opening name :: ps)
      = .scalar '[' :: (name
        ++ .scalar ']' :: (console width).written ps) := by
  rw [← List.append_nil ((console width).written _),
    written_opening_append, List.append_nil]

theorem written_closing (name : Text) :
    (console width).written (.closing name :: ps)
      = .scalar '[' :: (.scalar '/' :: name
        ++ .scalar ']' :: (console width).written ps) :=
  written_opening width (.scalar '/' :: name)

theorem tags_text {t : Text} (h : isPlain t = true) :
    tags ((console width).written (.text t :: ps))
      = tags ((console width).written ps) :=
  tags_append h _

/-- An escaped text may make the tag behind it plain. -/
theorem tags_escaped {name form : Text} (style : IsStyle name form)
    (t : Text) :
    ∃ n, tags ((console width).written (.escaped t :: .closing name :: ps))
      = (if n % 2 = 1 then [] else [.scalar '/' :: name])
        ++ tags ((console width).written ps) := by
  obtain ⟨n, hn⟩ := tags_escape_append (.opening (.scalar '/' :: name
    ++ .scalar ']' :: (console width).written ps)) t
  refine ⟨n, ?_⟩
  rw [Console.written_cons, written_closing, ← tags_tag style.isTag_end]
  exact hn

theorem subperm_erase {form : Text} {actual : List Text}
    (h : (form :: forms).Subperm actual) :
    forms.Subperm (actual.erase form) := by
  have herase := h.erase form
  rwa [List.erase_cons_head] at herase

/-- The tags of a markup open and close styles when more of them are open than
should be. -/
theorem nested_tags (h : Nests names ps left) (hforms : Forms names forms)
    {actual : List Text} (hopen : forms.Subperm actual) :
    Nested actual (tags ((console width).written ps)) := by
  induction h generalizing forms actual with
  | done => exact .done
  | text plain _ ih =>
      rw [tags_text width plain]
      exact ih hforms hopen
  | opening isName _ ih =>
      obtain ⟨form, style⟩ := exists_isStyle isName
      rw [written_opening, tags_opening style.isTag]
      exact .opening style
        (ih (.cons style hforms) ((List.subperm_cons form).2 hopen))
  | closing isName _ ih =>
      cases hforms with
      | @cons _ form _ forms style hforms =>
          rw [written_closing, tags_opening style.isTag_end]
          exact .closing style (hopen.subset (List.mem_cons_self ..))
            (ih hforms (subperm_erase hopen))
  | @escaped t _ _ _ _ isName _ ih =>
      cases hforms with
      | @cons _ form _ forms style hforms =>
          obtain ⟨n, hn⟩ := tags_escaped width style t
          rw [hn]
          split
          · have hmore : forms.Subperm (form :: forms) :=
              (List.sublist_cons_self form forms).subperm
            exact ih hforms (hmore.trans hopen)
          · exact .closing style (hopen.subset (List.mem_cons_self ..))
              (ih hforms (subperm_erase hopen))
  | @escapedLast t _ =>
      have hnone : tags ((console width).written [.escaped t]) = [] := by
        rw [Console.written_cons, Console.written_nil, List.append_nil]
        exact tags_escape t
      rw [hnone]
      exact .done

/-- Where a style is closed that is not open, the tags go astray. -/
theorem stray_tags (h : Nests names ps left) (hleft : left = [])
    (howned : ∀ p ∈ ps, p.isEscaped = false) (hforms : Forms names forms)
    {name form : Text} (style : IsStyle name form) (rest : Text) :
    Stray forms (tags ((console width).written (ps ++ [.closing name])
      ++ rest)) := by
  induction h generalizing forms with
  | done =>
      subst hleft
      cases hforms
      rw [List.nil_append, written_closing_append,
        tags_opening style.isTag_end]
      exact .here style
  | text plain _ ih =>
      rw [List.cons_append, Console.written_cons, List.append_assoc,
        Part.written, tags_append plain]
      exact ih hleft (List.forall_mem_cons.1 howned).2 hforms
  | opening isName _ ih =>
      obtain ⟨form, style⟩ := exists_isStyle isName
      rw [List.cons_append, written_opening_append, tags_opening style.isTag]
      exact .opening style
        (ih hleft (List.forall_mem_cons.1 howned).2 (.cons style hforms))
  | closing isName _ ih =>
      cases hforms with
      | cons style hforms =>
          rw [List.cons_append, written_closing_append,
            tags_opening style.isTag_end]
          exact .closing style
            (ih hleft (List.forall_mem_cons.1 howned).2 hforms)
  | escaped => cases howned _ (List.mem_cons_self ..)
  | escapedLast => cases howned _ (List.mem_cons_self ..)

/-- A tag parts what is shown: plain text before it, and what comes after
it. -/
theorem shown_pieces_tag {inside reversed after : Text} (htag : IsTag inside)
    (hplain : isPlain reversed.reverse = true)
    (hnames : namesNothing (reversed.reverse ++ after) = true)
    (hcontrols : ∀ c ∈ reversed.reverse ++ after, isControl c = false)
    {rest : Text}
    (hrest : namesNothing after = true → (∀ c ∈ after, isControl c = false) →
      (piecesBehind [] rest).flatMap Piece.shown = after) :
    (piecesBehind reversed (.scalar '[' :: (inside
        ++ .scalar ']' :: rest))).flatMap Piece.shown
      = reversed.reverse ++ after := by
  obtain ⟨hbefore, hafter⟩ := Console.namesNothing_of_append hnames
  obtain ⟨hcontrols, hcontrols'⟩ := List.forall_mem_append.1 hcontrols
  rw [piecesBehind_tag htag,
    flatMap_plainBefore (shownPlain_eq hplain hbefore hcontrols)]
  exact congrArg (_ ++ ·) (hrest hafter hcontrols')

/-- The pieces of a markup without escaped texts show the text of its
parts. -/
theorem shown_pieces (h : Nests names ps left)
    (howned : ∀ p ∈ ps, p.isEscaped = false) {reversed : Text}
    (hplain : isPlain reversed.reverse = true)
    (hnames : namesNothing (reversed.reverse ++ shown ps) = true)
    (hcontrols : ∀ c ∈ reversed.reverse ++ shown ps, isControl c = false) :
    (piecesBehind reversed ((console width).written ps)).flatMap Piece.shown
      = reversed.reverse ++ shown ps := by
  induction h generalizing reversed with
  | done =>
      rw [Console.shown_nil, List.append_nil] at hnames hcontrols
      exact flatMap_plainBefore (shownPlain_eq hplain hnames hcontrols) []
  | @text t _ _ ps plain _ ih =>
      have hreversed : (t.reverse ++ reversed).reverse ++ shown ps
          = reversed.reverse ++ shown (.text t :: ps) := by
        rw [List.reverse_append, List.reverse_reverse, List.append_assoc]
        rfl
      rw [← hreversed] at hnames hcontrols ⊢
      rw [Console.written_cons, Part.written, piecesBehind_append plain]
      refine ih (List.forall_mem_cons.1 howned).2 ?_ hnames hcontrols
      rw [List.reverse_append, List.reverse_reverse]
      exact Console.isPlain_append hplain plain
  | opening isName _ ih =>
      obtain ⟨form, style⟩ := exists_isStyle isName
      have hrest := @ih (List.forall_mem_cons.1 howned).2 [] rfl
      rw [written_opening]
      exact shown_pieces_tag style.isTag hplain hnames hcontrols hrest
  | closing isName _ ih =>
      obtain ⟨form, style⟩ := exists_isStyle isName
      have hrest := @ih (List.forall_mem_cons.1 howned).2 [] rfl
      rw [written_closing]
      exact shown_pieces_tag style.isTag_end hplain hnames hcontrols hrest
  | escaped => cases howned _ (List.mem_cons_self ..)
  | escapedLast => cases howned _ (List.mem_cons_self ..)

end Parts

theorem markup_of_ok (width : Nat) {t text : Text}
    (h : render t = .ok text) : (console width).markup t = .ok text :=
  congrArg (Except.mapError faultOf) h

/-- The console of the program is lawful, whatever its width. -/
theorem isLawful_console (width : Nat) : (console width).IsLawful where
  shows h howned hnames hcontrols := by
    obtain ⟨text, htext⟩ :=
      exists_render (nested_tags width h .nil (.refl []))
    have hpieces := @shown_pieces width _ _ _ h howned [] rfl hnames hcontrols
    rw [markup_of_ok width htext, text_render htext]
    exact congrArg Except.ok hpieces
  strays rest h howned isName := by
    obtain ⟨form, style⟩ := exists_isStyle isName
    obtain ⟨inside, herror⟩ := exists_render_error
      (stray_tags width h rfl howned .nil style rest)
    exact ⟨(MarkupError.nothingToClose inside).message,
      congrArg (Except.mapError faultOf) herror⟩
  accepts h := by
    obtain ⟨text, htext⟩ :=
      exists_render (nested_tags width h .nil (.refl []))
    exact ⟨text, markup_of_ok width htext⟩
  keeps := Layout.printed_eq
  fits := Layout.length_of_printed_le
  adds t _ := Layout.count_printed_le width t

end Display

end Marginalia
