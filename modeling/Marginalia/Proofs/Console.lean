/-
What the commands rely on in a console. A console is not of this library, and
so what is proved about the commands is proved of every console that keeps the
laws stated here (`Console.IsLawful`): how it reads a markup, and what it makes
of a text that it prints.

The laws speak of markups by their parts. Plain text has nothing in it that a
tag or an escape could begin with, the name of a style is a row of small
letters and a few marks, and the tags of styles close in the opposite order of
their opening (`Nests`). Such a markup shows its text and nothing else. Which
names mean a pictograph is left open: a text with two colons in one word is not
spoken of.
-/
import Mathlib.Data.List.Basic
import Marginalia.Console
import Marginalia.Text.Blank

namespace Marginalia.Console

-- =============================================================== texts

/-- May the code point stand before another one, or at the end, without a tag
or an escape that begins with it? -/
def standsAlone (c : CodePoint) (next : Option CodePoint) : Bool :=
  (c != .scalar '[' || next.any fun d => !opensTag d)
    && (c != .scalar '\\' || next.any (· != .scalar '['))

/-- Has markup no meaning for the text, whatever comes after it? -/
def isPlain : Text → Bool
  | [] => true
  | c :: t => standsAlone c t.head? && isPlain t

/-- Does no word of the text hold two colons, between which the name of a
pictograph could stand? -/
def namesNothing : Text → Bool
  | [] => true
  | c :: t =>
    (c != .scalar ':' || !(t.takeWhile (!·.isBlank)).contains (.scalar ':'))
      && namesNothing t

/-- The characters of ASCII, from the space on. -/
def isAscii (c : CodePoint) : Bool := 0x20 ≤ c.toNat && c.toNat < 0x7F

/-- The cells that a text may take: one for a character of ASCII and two for
any other code point. -/
def room (t : Text) : Nat := t.length + t.countP fun c => !isAscii c

-- ============================================================== markups

/-- May the name of a style hold this? -/
def isNamePoint : CodePoint → Bool
  | .scalar c => ('a' ≤ c && c ≤ 'z') || ('0' ≤ c && c ≤ '9')
    || [' ', ',', '-', '.', '_'].contains c
  | .surrogate _ => false

/-- A name that a style may be given by. -/
structure IsName (name : Text) : Prop where
  first : ∃ c ∈ name.head?, opensTag c = true
  points : ∀ c ∈ name, isNamePoint c = true
  last : name.getLast? ≠ some (.scalar ' ')

instance : DecidablePred IsName := fun _ =>
  decidable_of_iff (_ ∧ _ ∧ _)
    ⟨fun ⟨h, h', h''⟩ => ⟨h, h', h''⟩, fun ⟨h, h', h''⟩ => ⟨h, h', h''⟩⟩

/-- A part of a markup: text as it stands, a tag that opens or closes a style,
or a text that is escaped. -/
inductive Part where
  | text (t : Text)
  | opening (name : Text)
  | closing (name : Text)
  | escaped (t : Text)
  deriving DecidableEq, Repr

namespace Part

/-- The part as it stands in the markup. -/
def written (c : Console) : Part → Text
  | .text t => t
  | .opening name => .scalar '[' :: (name ++ [.scalar ']'])
  | .closing name => .scalar '[' :: .scalar '/' :: (name ++ [.scalar ']'])
  | .escaped t => c.escape t

/-- What is shown of the part. -/
def shown : Part → Text
  | .text t => t
  | .escaped t => t
  | .opening _ | .closing _ => []

/-- Is the part a tag? -/
def isTag : Part → Bool
  | .opening _ | .closing _ => true
  | .text _ | .escaped _ => false

/-- Is the part an escaped text? -/
def isEscaped : Part → Bool
  | .escaped _ => true
  | .text _ | .opening _ | .closing _ => false

end Part

/-- The markup of some parts. -/
def written (c : Console) (ps : List Part) : Text := ps.flatMap (·.written c)

/-- The text of some parts. -/
def shown (ps : List Part) : Text := ps.flatMap (·.shown)

/-- The parts of a markup from where the styles `names` are open, the last one
first, up to its end, where `left` are. A tag closes the style that was opened
last. An escaped text stands at the end of the markup or of a style: it may end
in backslashes, and behind those a tag that opens might not be one. -/
inductive Nests : List Text → List Part → List Text → Prop
  | done {left : List Text} : Nests left [] left
  | text {t : Text} {names left : List Text} {ps : List Part}
      (plain : isPlain t = true) (more : Nests names ps left) :
      Nests names (.text t :: ps) left
  | opening {name : Text} {names left : List Text} {ps : List Part}
      (isName : IsName name) (more : Nests (name :: names) ps left) :
      Nests names (.opening name :: ps) left
  | closing {name : Text} {names left : List Text} {ps : List Part}
      (isName : IsName name) (more : Nests names ps left) :
      Nests (name :: names) (.closing name :: ps) left
  | escaped {t name : Text} {names left : List Text} {ps : List Part}
      (isName : IsName name) (more : Nests names ps left) :
      Nests (name :: names) (.escaped t :: .closing name :: ps) left
  | escapedLast {t : Text} {left : List Text} : Nests left [.escaped t] left

-- ================================================================= laws

/-- The laws of a console. A markup whose styles nest shows its text, if no
name of a pictograph can be in it and no control (`shows`); a tag that closes
a style where none is open is refused (`strays`); and a markup with escaped
texts is never refused for them (`accepts`). A text without controls and tabs
that has room on a line is printed as it stands (`keeps`), no line of ASCII
goes over the width (`fits`), and printing brings in nothing but spaces and
line ends (`adds`). -/
structure IsLawful (c : Console) : Prop where
  shows {ps : List Part} {left : List Text} : Nests [] ps left →
    (∀ p ∈ ps, p.isEscaped = false) → namesNothing (shown ps) = true →
    (∀ x ∈ shown ps, isControl x = false) →
    c.markup (c.written ps) = .ok (shown ps)
  strays {ps : List Part} {name : Text} (rest : Text) : Nests [] ps [] →
    (∀ p ∈ ps, p.isEscaped = false) → IsName name →
    ∃ reason, c.markup (c.written (ps ++ [.closing name]) ++ rest)
      = .error (.markup reason)
  accepts {ps : List Part} {left : List Text} : Nests [] ps left →
    ∃ t, c.markup (c.written ps) = .ok t
  keeps {t : Text} :
    (∀ x ∈ t, isControl x = false ∧ x ≠ .scalar '\t') → room t ≤ c.width →
    c.printed t = t ++ [.scalar '\n']
  fits {t : Text} : (∀ x ∈ t, isAscii x = true) →
    ∀ line ∈ Text.splitOn (.scalar '\n') (c.printed t),
      line.length ≤ c.width
  adds (t : Text) {x : CodePoint} : x ≠ .scalar ' ' → x ≠ .scalar '\n' →
    (c.printed t).count x ≤ t.count x

-- =============================================================== parts

variable {c : Console} {ps qs : List Part} {names left : List Text} {t u : Text}

@[simp] theorem written_nil : c.written [] = [] := rfl

@[simp] theorem written_cons (p : Part) :
    c.written (p :: ps) = p.written c ++ c.written ps := rfl

@[simp] theorem shown_nil : shown [] = [] := rfl

@[simp] theorem shown_cons (p : Part) :
    shown (p :: ps) = p.shown ++ shown ps := rfl

theorem written_append :
    c.written (ps ++ qs) = c.written ps ++ c.written qs :=
  List.flatMap_append

theorem isPlain_append (ht : isPlain t = true) (hu : isPlain u = true) :
    isPlain (t ++ u) = true := by
  induction t with
  | nil => exact hu
  | cons x t ih =>
      rw [isPlain, Bool.and_eq_true] at ht
      obtain ⟨hx, ht⟩ := ht
      have hhead : standsAlone x (t ++ u).head? = true := by
        cases t with
        | cons y t => exact hx
        | nil =>
            unfold standsAlone at hx ⊢
            simp_all
      rw [List.cons_append, isPlain, hhead, ih ht]
      rfl

/-- No more brackets are shown than the markup has. -/
theorem count_shown_le (howned : ∀ p ∈ ps, p.isEscaped = false) :
    (shown ps).count (.scalar '[') ≤ (c.written ps).count (.scalar '[') := by
  induction ps with
  | nil => exact Nat.le_refl _
  | cons p ps ih =>
      obtain ⟨hp, hps⟩ := List.forall_mem_cons.1 howned
      have hrest := ih hps
      rw [shown_cons, written_cons, List.count_append, List.count_append]
      cases p with
      | escaped t => cases hp
      | text t => exact Nat.add_le_add_left hrest _
      | opening name =>
          simp only [Part.shown, List.count_nil]
          omega
      | closing name =>
          simp only [Part.shown, List.count_nil]
          omega

/-- A tag takes a bracket with it that is not shown. -/
theorem count_shown_lt (howned : ∀ p ∈ ps, p.isEscaped = false)
    (htag : ∃ p ∈ ps, p.isTag = true) :
    (shown ps).count (.scalar '[') < (c.written ps).count (.scalar '[') := by
  obtain ⟨p, hp, htag⟩ := htag
  obtain ⟨before, after, rfl⟩ := List.append_of_mem hp
  obtain ⟨hbefore, hrest⟩ := List.forall_mem_append.1 howned
  have hle := count_shown_le (c := c) hbefore
  have hle' := count_shown_le (c := c) (List.forall_mem_cons.1 hrest).2
  have hbracket : p.shown.count (.scalar '[')
      < (p.written c).count (.scalar '[') := by
    cases p with
    | text t => cases htag
    | escaped t => cases htag
    | opening name => simp [Part.shown, Part.written]
    | closing name => simp [Part.shown, Part.written]
  unfold shown written at hle hle' ⊢
  simp only [List.flatMap_append, List.flatMap_cons, List.count_append]
  omega

/-- Text in front of a space gives no colon of the text behind it a
partner. -/
theorem namesNothing_space (ht : namesNothing t = true)
    (hu : namesNothing u = true) :
    namesNothing (t ++ .scalar ' ' :: u) = true := by
  induction t with
  | nil => rwa [List.nil_append, namesNothing]
  | cons x t ih =>
      rw [namesNothing, Bool.and_eq_true] at ht
      obtain ⟨hx, ht⟩ := ht
      have hword : (t ++ CodePoint.scalar ' ' :: u).takeWhile (!·.isBlank)
          = t.takeWhile (!·.isBlank) := by
        clear hx ht ih
        induction t with
        | nil => rfl
        | cons y t ih =>
            rw [List.cons_append, List.takeWhile_cons, List.takeWhile_cons, ih]
      rw [List.cons_append, namesNothing, hword, hx, ih ht]
      rfl

theorem room_append (t u : Text) : room (t ++ u) = room t + room u := by
  unfold room
  rw [List.length_append, List.countP_append]
  omega

/-- A text of ASCII needs a cell for each character. -/
theorem room_eq_length (h : ∀ x ∈ t, isAscii x = true) :
    room t = t.length := by
  have hnone : (t.countP fun x => !isAscii x) = 0 :=
    List.countP_eq_zero.2 fun x hx => by rw [h x hx]; decide
  rw [room, hnone, Nat.add_zero]

theorem isControl_of_isAscii {x : CodePoint} (h : isAscii x = true) :
    isControl x = false ∧ x ≠ .scalar '\t' ∧ x ≠ .scalar '\n' := by
  unfold isAscii at h
  simp only [Bool.and_eq_true, decide_eq_true_eq] at h
  refine ⟨?_, ?_, ?_⟩
  · unfold isControl
    rw [← Bool.not_eq_true, List.contains_iff_mem]
    simp only [List.mem_cons, List.not_mem_nil, or_false]
    omega
  · rintro rfl
    exact absurd h.1 (by decide)
  · rintro rfl
    exact absurd h.1 (by decide)

end Marginalia.Console
