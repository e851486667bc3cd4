/-
The grammar of JSON texts, said without a reader. White space stands between
the tokens; a token is a string, a number or one of six words, of which
`NaN`, `Infinity` and `-Infinity` are words of the grammar though no value
is read from them. An array and an object are alike: entries with commas
between them, enclosed in a pair of brackets of their own.

A phrase comes with its depth, the number of arrays and objects that its
deepest point lies inside. The grammar agrees with the count of brackets:
a phrase is nested text of its depth (`Phrase.nested`), and so the matcher
of braces and the guard of depth see what the grammar says.
-/
import Marginalia.Json.Reader
import Marginalia.Proofs.Json.Written
import Marginalia.Proofs.Text.Nesting

namespace Marginalia.Json.Grammar

-- ============================================================== tokens

/-- White space. -/
def Spaces (t : Text) : Prop := ∀ c ∈ t, isSpace c = true

theorem Spaces.nil : Spaces [] := List.forall_mem_nil _

/-- What may stand between the quotes of a string: anything but quotes,
backslashes and controls, a backslash with a letter, or a backslash with `u`
and four hexadecimal digits. -/
inductive StringBody : Text → Prop
  | nil : StringBody []
  | plain {c : CodePoint} {t : Text} (quote : c ≠ .scalar '"')
      (slash : c ≠ .scalar '\\') (control : 0x20 ≤ c.toNat)
      (rest : StringBody t) : StringBody (c :: t)
  | short {e : CodePoint} {t : Text}
      (letter : e ∈ Text.ofString "\"\\/bfnrt")
      (rest : StringBody t) : StringBody (.scalar '\\' :: e :: t)
  | numeric {h₁ h₂ h₃ h₄ : CodePoint} {t : Text}
      (digits : ∀ h ∈ [h₁, h₂, h₃, h₄], h.hexDigit?.isSome = true)
      (rest : StringBody t) :
      StringBody (.scalar '\\' :: .scalar 'u' :: h₁ :: h₂ :: h₃ :: h₄ :: t)

/-- One digit or more. -/
def Digits (t : Text) : Prop := t ≠ [] ∧ ∀ c ∈ t, c.isDigit = true

/-- The digits in front of the point: a zero alone, or digits that do not
start with one. -/
inductive Whole : Text → Prop
  | zero : Whole [.scalar '0']
  | digits {c : CodePoint} {t : Text} (first : c ≠ .scalar '0')
      (digits : Digits (c :: t)) : Whole (c :: t)

/-- A point with digits, or nothing. -/
inductive Fraction : Text → Prop
  | none : Fraction []
  | some {t : Text} (digits : Digits t) : Fraction (.scalar '.' :: t)

/-- A mark with a sign, if there is one, and digits; or nothing. -/
inductive Exponent : Text → Prop
  | none : Exponent []
  | some {mark : CodePoint} {sign t : Text}
      (mark_eq : mark = .scalar 'e' ∨ mark = .scalar 'E')
      (sign_eq : sign = [] ∨ sign = [.scalar '+'] ∨ sign = [.scalar '-'])
      (digits : Digits t) : Exponent (mark :: (sign ++ t))

/-- A number: a minus sign, if there is one, and the three parts. -/
inductive Number : Text → Prop
  | mk {sign t u v : Text}
      (sign_eq : sign = [] ∨ sign = [.scalar '-']) (whole : Whole t)
      (fraction : Fraction u) (exponent : Exponent v) :
      Number (sign ++ (t ++ (u ++ v)))

/-- A token that is a value by itself. -/
inductive Token : Text → Prop
  | word {t : Text}
      (mem : t ∈ (["null", "true", "false", "NaN", "Infinity", "-Infinity"]
        : List Text)) : Token t
  | number {t : Text} (number : Number t) : Token t
  | string {t : Text} (body : StringBody t) :
      Token (.scalar '"' :: (t ++ [.scalar '"']))

-- ============================================================= phrases

/-- The two containers. -/
inductive Container where
  | array
  | object

/-- What a container starts with. -/
def Container.opener : Container → CodePoint
  | .array => .scalar '['
  | .object => .scalar '\x7b'

/-- What a container ends with. -/
def Container.closer : Container → CodePoint
  | .array => .scalar ']'
  | .object => .scalar '\x7d'

/-- What a phrase is: a value, an entry of a container, or all its entries
with the commas between them. -/
inductive Role where
  | value
  | entry (k : Container)
  | entries (k : Container)

/-- The text is a phrase of a role, and its deepest point lies inside that
many arrays and objects. White space behind a value inside a container goes
with its entry. -/
inductive Phrase : Role → Nat → Text → Prop
  | token {t : Text} (token : Token t) : Phrase .value 0 t
  | empty (k : Container) {s : Text} (space : Spaces s) :
      Phrase .value 1 (k.opener :: (s ++ [k.closer]))
  | full {k : Container} {d : Nat} {s t : Text} (space : Spaces s)
      (entries : Phrase (.entries k) d t) :
      Phrase .value (d + 1) (k.opener :: (s ++ t ++ [k.closer]))
  | item {d : Nat} {t s : Text} (value : Phrase .value d t)
      (space : Spaces s) : Phrase (.entry .array) d (t ++ s)
  | member {d : Nat} {name s s' t s'' : Text} (body : StringBody name)
      (before : Spaces s) (after : Spaces s') (value : Phrase .value d t)
      (space : Spaces s'') :
      Phrase (.entry .object) d
        ((.scalar '"' :: (name ++ [.scalar '"']) ++ s ++ [.scalar ':'] ++ s')
          ++ t ++ s'')
  | last {k : Container} {d : Nat} {t : Text}
      (entry : Phrase (.entry k) d t) : Phrase (.entries k) d t
  | more {k : Container} {d e : Nat} {t s u : Text}
      (entry : Phrase (.entry k) d t) (space : Spaces s)
      (rest : Phrase (.entries k) e u) :
      Phrase (.entries k) (max d e) (t ++ (.scalar ',' :: s ++ u))

/-- The text of a value with white space around it. -/
inductive Document : Nat → Text → Prop
  | mk {d : Nat} {s t s' : Text} (before : Spaces s)
      (value : Phrase .value d t) (after : Spaces s') :
      Document d (s ++ t ++ s')

-- ================================================== brackets of tokens

open Text (Flat Inner Nested)

theorem isBracket_of_isSpace {c : CodePoint} (h : isSpace c = true) :
    c ≠ .scalar '"' ∧ Text.isBracket c = false := by
  unfold isSpace at h
  simp only [Bool.or_eq_true, beq_iff_eq] at h
  rcases h with ((rfl | rfl) | rfl) | rfl <;> exact ⟨by decide, by decide⟩

theorem Spaces.flat {s : Text} (h : Spaces s) : Flat s :=
  Flat.of_forall fun c hc => isBracket_of_isSpace (h c hc)

theorem flat_separator {c : CodePoint}
    (h : c = .scalar ',' ∨ c = .scalar ':') : Flat [c] :=
  Flat.of_forall fun x hx => by
    rw [List.mem_singleton.1 hx]
    rcases h with rfl | rfl <;> exact ⟨by decide, by decide⟩

theorem ne_of_isSome_hexDigit? {c : CodePoint} (h : c.hexDigit?.isSome = true) :
    c ≠ .scalar '"' ∧ c ≠ .scalar '\\' := by
  constructor <;> · rintro rfl; exact absurd h (by decide)

/-- A walk that is inside a string stays there. -/
theorem StringBody.inner {t : Text} (h : StringBody t) : Inner t := by
  induction h with
  | nil => exact .nil
  | plain quote slash _ _ ih => exact (Inner.plain quote slash).append ih
  | short _ _ ih => exact (Inner.escape _).append ih
  | numeric digits _ ih =>
      have hdigits := Inner.of_forall fun c hc => ne_of_isSome_hexDigit?
        (digits c hc)
      exact (Inner.escape _).append (hdigits.append ih)

/-- What tokens other than strings are written with. -/
def isTokenPoint (c : CodePoint) : Bool :=
  c.isDigit || c.isLetter || c == .scalar '-' || c == .scalar '+'
    || c == .scalar '.'

theorem isBracket_of_isTokenPoint {c : CodePoint} (h : isTokenPoint c = true) :
    c ≠ .scalar '"' ∧ Text.isBracket c = false := by
  refine ⟨fun he => ?_, Bool.eq_false_iff.2 fun hb => ?_⟩
  · rw [he] at h
    exact absurd h (by decide)
  · unfold Text.isBracket at hb
    simp only [Bool.or_eq_true, beq_iff_eq] at hb
    rcases hb with ((rfl | rfl) | rfl) | rfl <;> exact absurd h (by decide)

section Numbers

variable {t : Text}

theorem Digits.points (h : Digits t) : ∀ c ∈ t, isTokenPoint c = true := by
  intro c hc
  unfold isTokenPoint
  rw [h.2 c hc]
  rfl

theorem Whole.points (h : Whole t) : ∀ c ∈ t, isTokenPoint c = true := by
  cases h with
  | zero => decide
  | digits _ digits => exact digits.points

theorem Fraction.points (h : Fraction t) :
    ∀ c ∈ t, isTokenPoint c = true := by
  cases h with
  | none => exact List.forall_mem_nil _
  | some digits => exact List.forall_mem_cons.2 ⟨by decide, digits.points⟩

theorem Exponent.points (h : Exponent t) :
    ∀ c ∈ t, isTokenPoint c = true := by
  cases h with
  | none => exact List.forall_mem_nil _
  | some mark_eq sign_eq digits =>
      refine List.forall_mem_cons.2 ⟨?_, List.forall_mem_append.2
        ⟨?_, digits.points⟩⟩
      · rcases mark_eq with rfl | rfl <;> decide
      · rcases sign_eq with rfl | rfl | rfl <;> decide

theorem Number.points (h : Number t) : ∀ c ∈ t, isTokenPoint c = true := by
  cases h with
  | mk sign_eq whole fraction exponent =>
      refine List.forall_mem_append.2 ⟨?_, List.forall_mem_append.2
        ⟨whole.points, List.forall_mem_append.2
          ⟨fraction.points, exponent.points⟩⟩⟩
      rcases sign_eq with rfl | rfl <;> decide

end Numbers

/-- A token is a string, or there is neither a quote nor a bracket in it. -/
theorem Token.cases_points {t : Text} (h : Token t) :
    (∃ body, StringBody body ∧ t = .scalar '"' :: (body ++ [.scalar '"']))
      ∨ ∀ c ∈ t, isTokenPoint c = true := by
  cases h with
  | string body => exact .inl ⟨_, body, rfl⟩
  | number number => exact .inr number.points
  | word mem =>
      simp only [List.mem_cons, List.not_mem_nil, or_false] at mem
      rcases mem with rfl | rfl | rfl | rfl | rfl | rfl <;>
        exact .inr (by decide)

theorem Token.flat {t : Text} (h : Token t) : Flat t := by
  rcases h.cases_points with ⟨body, hbody, rfl⟩ | hpoints
  · exact Flat.quoted hbody.inner
  · exact Flat.of_forall fun c hc => isBracket_of_isTokenPoint (hpoints c hc)

-- ======================================================= whole phrases

theorem Container.nested {k : Container} {n : Nat} {t : Text}
    (h : Nested n t) : Nested (n + 1) (k.opener :: (t ++ [k.closer])) := by
  cases k with
  | array => exact .brackets h
  | object => exact .braces h

/-- A phrase is nested text of its depth. -/
theorem Phrase.nested {r : Role} {d : Nat} {t : Text} (h : Phrase r d t) :
    Nested d t := by
  induction h with
  | token token => exact .flat token.flat
  | empty k space => exact Container.nested (.flat space.flat)
  | full space _ ih => exact Container.nested (ih.flat_append space.flat)
  | item _ space ih => exact ih.append_flat space.flat
  | member body before after _ space ih =>
      have hhead := ((Flat.quoted body.inner).append before.flat).append
        (flat_separator (.inr rfl))
      exact (ih.flat_append (hhead.append after.flat)).append_flat space.flat
  | last _ ih => exact ih
  | more _ space _ iht ihu =>
      exact iht.append (ihu.flat_append
        ((flat_separator (.inl rfl)).append space.flat))

/-- White space around a value does not change its depth. -/
theorem Document.nested {d : Nat} {t : Text} (h : Document d t) :
    Nested d t := by
  cases h with
  | mk before value after =>
      exact (value.nested.flat_append before.flat).append_flat after.flat

/-- A value that starts with a brace is an object: what stands between its
braces is balanced. -/
theorem Phrase.braces {d : Nat} {t : Text}
    (h : Phrase .value d (.scalar '\x7b' :: t)) :
    ∃ n inside, Text.Balanced n inside ∧ t = inside ++ [.scalar '\x7d'] := by
  generalize hu : CodePoint.scalar '\x7b' :: t = u at h
  cases h with
  | token token =>
      subst hu
      rcases token.cases_points with ⟨body, -, heq⟩ | hpoints
      · injection heq with heq
        cases heq
      · exact absurd (hpoints _ (List.mem_cons_self ..)) (by decide)
  | empty k space =>
      cases k with
      | array => cases hu
      | object =>
          injection hu with _ hu
          exact ⟨0, _, .flat space.flat, hu⟩
  | @full k d s t space entries =>
      cases k with
      | array => cases hu
      | object =>
          injection hu with _ hu
          exact ⟨d, s ++ t,
            (entries.nested.flat_append space.flat).balanced, hu⟩

theorem Number.ne_nil {t : Text} (h : Number t) : t ≠ [] := by
  cases h with
  | mk _ whole _ _ =>
      intro hnil
      have hwhole := (List.append_eq_nil_iff.1
        (List.append_eq_nil_iff.1 hnil).2).1
      cases whole <;> cases hwhole

/-- A value is written with something. -/
theorem Phrase.ne_nil {d : Nat} {t : Text} (h : Phrase .value d t) :
    t ≠ [] := by
  generalize hr : Role.value = r at h
  cases h with
  | token token =>
      cases token with
      | word mem =>
          rintro rfl
          exact absurd mem (by decide)
      | number number => exact number.ne_nil
      | string body => exact List.cons_ne_nil _ _
  | empty | full => exact List.cons_ne_nil _ _
  | item | member | last | more => cases hr

/-- A text of a value that starts with a brace is the text of an object with
white space behind it. -/
theorem Document.braces {d : Nat} {t : Text}
    (h : Document d (.scalar '\x7b' :: t)) :
    ∃ n inside s, Text.Balanced n inside ∧ Spaces s
      ∧ t = inside ++ .scalar '\x7d' :: s := by
  generalize hu : CodePoint.scalar '\x7b' :: t = u at h
  cases h with
  | @mk s v s' before value after =>
      -- there is no white space in front of the brace
      cases s with
      | cons c s =>
          injection hu with hc _
          have hspace := before c (List.mem_cons_self ..)
          rw [← hc] at hspace
          exact absurd hspace (by decide)
      | nil =>
          cases v with
          | nil => exact absurd rfl value.ne_nil
          | cons c v =>
              injection hu with hc hv
              subst hc
              obtain ⟨n, inside, hbalanced, rfl⟩ := value.braces
              refine ⟨n, inside, s', hbalanced, after, ?_⟩
              rw [hv]
              exact (List.append_assoc ..).trans rfl

end Marginalia.Json.Grammar
