/-
The texts of scalars. A scalar is written as a word, as a string, as a whole
number of at most 4300 digits, or as a number with a fraction or an exponent
whose nearest double is finite; `Denotes` says which scalar a token stands for,
and how a number with places behind its point is rounded is said by
`Binary64.Rounds` and not by an algorithm. White space may stand on both sides.
The reader returns a scalar for just these texts, and just that scalar
(`read_eq_scalar_iff`).

A numeral is read as far as it goes, so a token is read as it should be only
where nothing behind it carries it on. Behind a scalar there is white space or
the end, and neither does.
-/
import Marginalia.Proofs.Decimal.Nearest
import Marginalia.Proofs.Json.Parsed

namespace Marginalia.Json

namespace Grammar

-- ============================================================== meaning

/-- The sign in front of a number, and whether the number is negative. -/
inductive Sign : Bool → Text → Prop
  | none : Sign false []
  | minus : Sign true [.scalar '-']

/-- A whole number with its sign. -/
def signed (negative : Bool) (n : Nat) : Int := if negative then -n else n

/-- The digits of a fraction. -/
def places (fraction : Text) : Text := fraction.drop 1

/-- The power of ten that an exponent stands for. Without one it is zero. -/
def power (exponent : Text) : Int :=
  match exponent.drop 1 with
  | .scalar '-' :: digits => signed true (Text.digitsValue digits)
  | .scalar '+' :: digits => signed false (Text.digitsValue digits)
  | digits => signed false (Text.digitsValue digits)

/-- The number, its sign apart, that is written with three parts. -/
def amount (whole fraction exponent : Text) : ℚ :=
  Binary64.decimal (Text.digitsValue (whole ++ places fraction))
    (power exponent - (places fraction).length)

/-- The token stands for a scalar. -/
inductive Denotes : Text → Scalar → Prop
  | nullWord : Denotes "null" .null
  | trueWord : Denotes "true" (.bool true)
  | falseWord : Denotes "false" (.bool false)
  | string {body s : Text} (stands : Stands body s) :
      Denotes (.scalar '"' :: (body ++ [.scalar '"'])) (.str s)
  | int {negative : Bool} {sign t : Text} (sign_spec : Sign negative sign)
      (whole : Whole t) (short : t.length ≤ 4300) :
      Denotes (sign ++ t) (.int (signed negative (Text.digitsValue t)))
  | float {negative : Bool} {sign t u v : Text} {x : Binary64}
      (sign_spec : Sign negative sign) (whole : Whole t)
      (fraction : Fraction u) (exponent : Exponent v) (real : u ++ v ≠ [])
      (rounds : Binary64.Rounds (amount t u v) negative x)
      (finite : x.isFinite = true) :
      Denotes (sign ++ (t ++ (u ++ v))) (.float x)

/-- The text is that of a scalar, with white space on both sides. -/
def ScalarText (t : Text) (s : Scalar) : Prop :=
  ∃ before u after, Spaces before ∧ Denotes u s ∧ Spaces after
    ∧ t = before ++ u ++ after

-- ================================================================ shape

theorem Sign.eq {negative : Bool} {sign : Text} (h : Sign negative sign) :
    sign = [] ∨ sign = [.scalar '-'] := by
  cases h with
  | none => exact .inl rfl
  | minus => exact .inr rfl

theorem exists_sign {sign : Text} (h : sign = [] ∨ sign = [.scalar '-']) :
    ∃ negative, Sign negative sign := by
  rcases h with rfl | rfl
  · exact ⟨_, .none⟩
  · exact ⟨_, .minus⟩

theorem Whole.exists_cons {t : Text} (h : Whole t) :
    ∃ c w, t = c :: w ∧ c.isDigit = true := by
  cases h with
  | zero => exact ⟨_, _, rfl, rfl⟩
  | digits _ digits => exact ⟨_, _, rfl, digits.2 _ (List.mem_cons_self ..)⟩

/-- A token that stands for a scalar is a token of the grammar. -/
theorem Denotes.token {t : Text} {s : Scalar} (h : Denotes t s) : Token t := by
  cases h with
  | nullWord | trueWord | falseWord => exact .word (by decide)
  | string stands => exact .string stands.stringBody
  | @int negative sign t sign_spec whole _ =>
      have hnumber := Number.mk sign_spec.eq whole .none .none
      rw [List.append_nil, List.append_nil] at hnumber
      exact .number hnumber
  | float sign_spec whole fraction exponent =>
      exact .number (.mk sign_spec.eq whole fraction exponent)

theorem isSpace_of_isTokenPoint {c : CodePoint} (h : isTokenPoint c = true) :
    isSpace c = false := by
  rw [Bool.eq_false_iff]
  intro hspace
  unfold isSpace at hspace
  simp only [Bool.or_eq_true, beq_iff_eq] at hspace
  rcases hspace with ((rfl | rfl) | rfl) | rfl <;> exact absurd h (by decide)

/-- A token starts neither with white space nor with a byte order mark. -/
theorem Token.exists_cons {t : Text} (h : Token t) :
    ∃ c w, t = c :: w ∧ isSpace c = false ∧ c ≠ .scalar '\uFEFF' := by
  rcases h.cases_points with ⟨body, -, rfl⟩ | hpoints
  · exact ⟨_, _, rfl, by decide, by decide⟩
  · obtain ⟨c, w, rfl⟩ := List.exists_cons_of_ne_nil (Phrase.token h).ne_nil
    have hc := hpoints c (List.mem_cons_self ..)
    refine ⟨c, w, rfl, isSpace_of_isTokenPoint hc, ?_⟩
    rintro rfl
    exact absurd hc (by decide)

/-- White space carries no numeral on. -/
theorem Spaces.endsNumeral {t : Text} (h : Spaces t) : EndsNumeral t := by
  intro c hc
  have hspace := h c (List.mem_of_mem_head? hc)
  unfold isSpace at hspace
  simp only [Bool.or_eq_true, beq_iff_eq] at hspace
  rcases hspace with ((rfl | rfl) | rfl) | rfl <;> decide

end Grammar

open Grammar

-- ============================================================== numerals

section Parts

variable {negative : Bool} {sign t u v rest : Text}

/-- The numeral that is written with a sign and three parts. -/
def Numeral.ofParts (negative : Bool) (whole fraction exponent : Text) :
    Numeral where
  negative := negative
  whole := whole
  fraction := if fraction = [] then none else some (places fraction)
  exponent := if exponent = [] then none else some (power exponent)

theorem readMinus_sign (h : Sign negative sign) (ht : Whole t) (rest : Text) :
    readMinus (sign ++ (t ++ rest)) = (negative, t ++ rest) := by
  cases h with
  | none =>
      obtain ⟨c, w, rfl, hc⟩ := ht.exists_cons
      exact readMinus_of_digit hc _
  | minus => rfl

theorem readWhole?_whole (h : Whole t)
    (hrest : ∀ c ∈ rest.head?, c.isDigit = false) :
    readWhole? (t ++ rest) = some (t, rest) := by
  cases h with
  | zero => rfl
  | digits first digits => exact readWhole?_digits first digits.2 hrest

/-- A fraction is read up to where its digits end. -/
theorem readFraction_fraction (h : Fraction u)
    (hrest : ∀ c ∈ rest.head?, c.isDigit = false ∧ c ≠ .scalar '.') :
    readFraction (u ++ rest)
      = (if u = [] then none else some (places u), rest) := by
  cases h with
  | none => exact readFraction_of_ne fun hpoint => (hrest _ hpoint).2 rfl
  | @some digits hdigits =>
      obtain ⟨c, w, rfl⟩ := List.exists_cons_of_ne_nil hdigits.1
      have hspan := spanDigits_append hdigits.2 fun c hc => (hrest c hc).1
      rw [List.cons_append, readFraction, hspan]
      rfl

/-- No sign is read where there is none. -/
theorem readSign_of_ne {t : Text} (hminus : t.head? ≠ some (.scalar '-'))
    (hplus : t.head? ≠ some (.scalar '+')) : readSign t = (false, t) := by
  unfold readSign
  split
  · exact absurd rfl hminus
  · exact absurd rfl hplus
  · rfl

theorem readSign_of_digit {c : CodePoint} (hc : c.isDigit = true)
    (rest : Text) : readSign (c :: rest) = (false, c :: rest) := by
  refine readSign_of_ne (fun h => ?_) fun h => ?_
  · rw [Option.some.inj h] at hc
    cases hc
  · rw [Option.some.inj h] at hc
    cases hc

/-- The power of ten of an exponent is what its sign and its digits say. -/
theorem power_eq (mark : CodePoint) (body : Text) :
    power (mark :: body)
      = signed (readSign body).1 (Text.digitsValue (readSign body).2) := by
  by_cases hminus : body.head? = some (.scalar '-')
  · obtain ⟨digits, rfl⟩ := List.head?_eq_some_iff.1 hminus
    rfl
  · by_cases hplus : body.head? = some (.scalar '+')
    · obtain ⟨digits, rfl⟩ := List.head?_eq_some_iff.1 hplus
      rfl
    · rw [readSign_of_ne hminus hplus]
      unfold power
      rw [List.drop_one, List.tail_cons]
      split
      · exact absurd rfl hminus
      · exact absurd rfl hplus
      · rfl

/-- An exponent is read up to where its digits end. -/
theorem readExponent_exponent (h : Exponent v) (hrest : EndsNumeral rest) :
    readExponent (v ++ rest)
      = (if v = [] then none else some (power v), rest) := by
  cases h with
  | none => exact readExponent_of_endsNumeral hrest
  | @some mark sign digits mark_eq sign_eq hdigits =>
      obtain ⟨c, w, rfl⟩ := List.exists_cons_of_ne_nil hdigits.1
      have hspan := spanDigits_append hdigits.2 fun c hc => (hrest c hc).1
      have hc := hdigits.2 c (List.mem_cons_self ..)
      -- the sign is split off in front of the digits
      obtain ⟨minus, hsign⟩ : ∃ minus, ∀ tail,
          readSign (sign ++ (c :: tail)) = (minus, c :: tail) := by
        rcases sign_eq with rfl | rfl | rfl
        · exact ⟨_, readSign_of_digit hc⟩
        · exact ⟨_, fun _ => rfl⟩
        · exact ⟨_, fun _ => rfl⟩
      have hmark : (decide (mark = .scalar 'e')
          || decide (mark = .scalar 'E')) = true := by
        simpa using mark_eq
      rw [if_neg (List.cons_ne_nil _ _), power_eq, hsign, List.cons_append,
        List.append_assoc, List.cons_append]
      simp only [readExponent, if_pos hmark, hsign]
      rw [← List.cons_append, hspan]
      rfl

/-- Where an exponent or the end of a numeral stands, a fraction has ended. -/
theorem Grammar.Exponent.ends (h : Exponent v) (hrest : EndsNumeral rest) :
    ∀ c ∈ (v ++ rest).head?, c.isDigit = false ∧ c ≠ .scalar '.' := by
  cases h with
  | none => exact fun c hc => ⟨(hrest c hc).1, (hrest c hc).2.1⟩
  | some mark_eq _ _ =>
      intro c hc
      rw [List.cons_append, List.head?_cons, Option.mem_some_iff] at hc
      subst hc
      rcases mark_eq with rfl | rfl <;> decide

/-- Where a fraction or what follows it stands, the digits in front of the
point have ended. -/
theorem Grammar.Fraction.ends (h : Fraction u)
    (hrest : ∀ c ∈ rest.head?, c.isDigit = false) :
    ∀ c ∈ (u ++ rest).head?, c.isDigit = false := by
  cases h with
  | none => exact hrest
  | some _ =>
      intro c hc
      rw [List.cons_append, List.head?_cons, Option.mem_some_iff] at hc
      subst hc
      rfl

/-- A number is read as the numeral of its parts. -/
theorem readNumeral?_parts (hsign : Sign negative sign) (ht : Whole t)
    (hu : Fraction u) (hv : Exponent v) (hrest : EndsNumeral rest) :
    readNumeral? (sign ++ (t ++ (u ++ v)) ++ rest)
      = some (.ofParts negative t u v, rest) := by
  have hexponent := hv.ends hrest
  have hfraction := hu.ends fun c hc => (hexponent c hc).1
  simp only [List.append_assoc]
  unfold readNumeral?
  rw [readMinus_sign hsign ht]
  dsimp only
  rw [readWhole?_whole ht hfraction]
  dsimp only
  rw [readFraction_fraction hu hexponent, readExponent_exponent hv hrest]
  rfl

theorem Numeral.isWhole_ofParts :
    (ofParts negative t u v).isWhole = true ↔ u ++ v = [] := by
  unfold isWhole ofParts
  rw [List.append_eq_nil_iff]
  by_cases hu : u = [] <;> by_cases hv : v = [] <;> simp [hu, hv]

theorem Numeral.toInt_ofParts :
    (ofParts negative t u v).toInt = signed negative (Text.digitsValue t) := by
  cases negative <;> rfl

/-- The double of a numeral is the one that its number rounds to. -/
theorem Numeral.rounds_toBinary64 :
    Binary64.Rounds (amount t u v) negative
      (ofParts negative t u v).toBinary64 := by
  have hplaces : (ofParts negative t u v).fraction.getD [] = places u := by
    unfold ofParts
    by_cases hu : u = []
    · rw [if_pos hu, hu]
      rfl
    · rw [if_neg hu]
      rfl
  have hpower : (ofParts negative t u v).exponent.getD 0 = power v := by
    unfold ofParts
    by_cases hv : v = []
    · rw [if_pos hv, hv]
      rfl
    · rw [if_neg hv]
      rfl
  unfold toBinary64
  rw [hplaces, hpower]
  exact Binary64.rounds_ofDecimal ..

/-- The value of a numeral within the limits. -/
theorem Numeral.value_ofParts {s : Scalar} {whole left : Text} :
    (ofParts negative t u v).value whole left = .ok s
      ↔ (u ++ v = [] ∧ t.length ≤ 4300
          ∧ s = .int (signed negative (Text.digitsValue t)))
        ∨ (u ++ v ≠ [] ∧ ∃ x, Binary64.Rounds (amount t u v) negative x
          ∧ x.isFinite = true ∧ s = .float x) := by
  have hrounds : Binary64.Rounds (amount t u v) negative
      (ofParts negative t u v).toBinary64 := rounds_toBinary64
  unfold value
  by_cases hwhole : u ++ v = []
  · rw [if_pos (isWhole_ofParts.2 hwhole), toInt_ofParts]
    show (if 4300 < t.length then _ else _) = _ ↔ _
    by_cases hlong : 4300 < t.length
    · rw [if_pos hlong]
      refine ⟨nofun, fun h => ?_⟩
      rcases h with ⟨-, hshort, -⟩ | ⟨hreal, -⟩
      · exact absurd hlong (Nat.not_lt.2 hshort)
      · exact absurd hwhole hreal
    · rw [if_neg hlong]
      constructor
      · intro h
        cases h
        exact .inl ⟨hwhole, Nat.not_lt.1 hlong, rfl⟩
      · rintro (⟨-, -, rfl⟩ | ⟨hreal, -⟩)
        · rfl
        · exact absurd hwhole hreal
  · rw [if_neg (mt isWhole_ofParts.1 hwhole)]
    dsimp only
    constructor
    · intro h
      split at h
      · next hfinite =>
        cases h
        exact .inr ⟨hwhole, _, hrounds, hfinite, rfl⟩
      · cases h
    · rintro (⟨hnil, -⟩ | ⟨-, x, hx, hfinite, rfl⟩)
      · exact absurd hnil hwhole
      · rw [hrounds.unique hx, if_pos hfinite]

/-- No number is taken for a word. -/
theorem readWord_number (hsign : Sign negative sign) (ht : Whole t)
    (hu : Fraction u) (hv : Exponent v) (hrest : EndsNumeral rest) :
    readWord (sign ++ (t ++ (u ++ v)) ++ rest)
      = ((Numeral.ofParts negative t u v).value
          (sign ++ (t ++ (u ++ v)) ++ rest) rest).map (·, rest) := by
  have hfind : (words.find? fun w =>
      Text.startsWith (sign ++ (t ++ (u ++ v)) ++ rest) w.1) = none := by
    obtain ⟨c, w, rfl, hc⟩ := ht.exists_cons
    cases hsign with
    | none => exact (find?_words_of_digit hc _).1
    | minus => exact (find?_words_of_digit hc _).2
  unfold readWord
  rw [hfind, readNumeral?_parts hsign ht hu hv hrest]

end Parts

-- ================================================================ tokens

section Tokens

variable {t rest : Text} {s : Scalar}

/-- What is read as a word or a number stands for the scalar. -/
theorem denotes_of_readWord (h : readWord t = .ok (s, rest))
    (hrest : EndsNumeral rest) : ∃ u, t = u ++ rest ∧ Denotes u s := by
  have hread := h
  unfold readWord at h
  split at h
  · next word outcome hfind =>
    have hstarts := List.find?_some hfind
    have hprefix : word <+: t := List.isPrefixOf_iff_prefix.1 hstarts
    have hmem := List.mem_of_find?_eq_some hfind
    obtain ⟨s', hs, heq⟩ := ok_of_map h
    cases heq
    refine ⟨word, (List.prefix_iff_eq_append.1 hprefix).symm, ?_⟩
    simp only [words, List.mem_cons, List.not_mem_nil, or_false,
      Prod.mk.injEq] at hmem
    rcases hmem with ⟨rfl, rfl⟩ | ⟨rfl, rfl⟩ | ⟨rfl, rfl⟩ | ⟨-, rfl⟩
      | ⟨-, rfl⟩ | ⟨-, rfl⟩ <;> cases hs
    · exact .nullWord
    · exact .trueWord
    · exact .falseWord
  · split at h
    · cases h
    · next n left hn =>
      obtain ⟨value, -, heq⟩ := ok_of_map h
      cases heq
      obtain ⟨w, rfl, hnumber⟩ := number_readNumeral? hn
      refine ⟨w, rfl, ?_⟩
      cases hnumber with
      | mk sign_eq whole fraction exponent =>
          obtain ⟨negative, hsign⟩ := exists_sign sign_eq
          rw [readWord_number hsign whole fraction exponent hrest] at hread
          obtain ⟨s', hvalue, heq⟩ := ok_of_map hread
          cases heq
          rcases Numeral.value_ofParts.1 hvalue with
            ⟨hnil, hshort, rfl⟩ | ⟨hreal, x, hrounds, hfinite, rfl⟩
          · rw [hnil, List.append_nil]
            exact .int hsign whole hshort
          · exact .float hsign whole fraction exponent hreal hrounds hfinite

/-- A token that stands for a scalar other than a text is read as it. -/
theorem Grammar.Denotes.readWord (h : Denotes t s) (hs : ∀ x, s ≠ .str x)
    (hrest : EndsNumeral rest) :
    Json.readWord (t ++ rest) = .ok (s, rest) := by
  cases h with
  | nullWord | trueWord | falseWord => rfl
  | string => exact absurd rfl (hs _)
  | @int negative sign t sign_spec whole short =>
      have hread := readWord_number sign_spec whole .none .none hrest
      rw [List.append_nil, List.append_nil,
        Numeral.value_ofParts.2 (.inl ⟨rfl, short, rfl⟩)] at hread
      exact hread
  | float sign_spec whole fraction exponent real rounds finite =>
      rw [readWord_number sign_spec whole fraction exponent hrest,
        Numeral.value_ofParts.2 (.inr ⟨real, _, rounds, finite, rfl⟩)]
      rfl

/-- A token that stands for a scalar other than a text has neither a quote nor
a bracket in it. -/
theorem Grammar.Denotes.points (h : Denotes t s) (hs : ∀ x, s ≠ .str x) :
    ∀ c ∈ t, isTokenPoint c = true := by
  rcases h.token.cases_points with ⟨body, -, heq⟩ | hpoints
  · -- of the tokens for scalars only strings start with a quote
    have hread := h.readWord hs endsNumeral_nil
    rw [heq] at hread
    cases hread
  · exact hpoints

/-- A value is read as a scalar just when it is written as a token for it. -/
theorem readValue_eq_scalar_iff {fuel room : Nat} (hrest : EndsNumeral rest) :
    readValue (fuel + 1) room t = .ok (.scalar s, rest)
      ↔ ∃ u, t = u ++ rest ∧ Denotes u s := by
  constructor
  · intro h
    cases t with
    | nil => cases h
    | cons c t =>
        rw [readValue.eq_def] at h
        dsimp only at h
        split at h
        · next hquote =>
          obtain ⟨r, hr, heq⟩ := ok_of_map h
          cases heq
          obtain ⟨body, rfl, hstands⟩ := readString_eq_iff.1 hr
          refine ⟨_, ?_, .string hstands⟩
          rw [hquote, List.cons_append, List.append_assoc,
            List.singleton_append]
        · split at h
          · -- an array is no scalar
            split at h
            · cases h
            · split at h
              · cases h
              · obtain ⟨r, -, heq⟩ := ok_of_map h
                cases heq
          · split at h
            · -- nor is an object
              split at h
              · cases h
              · split at h
                · cases h
                · obtain ⟨r, -, heq⟩ := ok_of_map h
                  cases heq
            · obtain ⟨r, hr, heq⟩ := ok_of_map h
              cases heq
              exact denotes_of_readWord hr hrest
  · rintro ⟨u, rfl, h⟩
    by_cases hstr : ∃ x, s = .str x
    · obtain ⟨x, rfl⟩ := hstr
      cases h with
      | @string body _ stands =>
          rw [List.cons_append, List.append_assoc, List.singleton_append,
            readValue_string, readString_eq_iff.2 ⟨body, rfl, stands⟩]
          rfl
    · have hs : ∀ x, s ≠ .str x := fun x hx => hstr ⟨x, hx⟩
      have hread := h.readWord hs hrest
      obtain ⟨c, w, rfl, -⟩ := h.token.exists_cons
      obtain ⟨hquote, hbracket⟩ := isBracket_of_isTokenPoint
        (h.points hs c (List.mem_cons_self ..))
      rw [List.cons_append] at hread ⊢
      rw [readValue_word fuel room hquote, hread]
      · rfl
      · rintro rfl
        cases hbracket
      · rintro rfl
        cases hbracket

end Tokens

-- ========================================================== whole texts

/-- A text is read as a scalar just when it is the text of that scalar. -/
theorem read_eq_scalar_iff {t : Text} {s : Scalar} :
    read t = .ok (.scalar s) ↔ ScalarText t s := by
  constructor
  · intro h
    obtain ⟨-, -, rest, hvalue, hnil⟩ := read_eq_ok_iff.1 h
    obtain ⟨before, hbefore, ht⟩ := spaces_skipSpace t
    obtain ⟨after, hafter, hrest⟩ := spaces_skipSpace rest
    rw [hnil, List.append_nil] at hrest
    subst hrest
    obtain ⟨u, hu, hdenotes⟩ :=
      (readValue_eq_scalar_iff hafter.endsNumeral).1 hvalue
    refine ⟨before, u, _, hbefore, hdenotes, hafter, ?_⟩
    rw [List.append_assoc, ← hu, ← ht]
  · rintro ⟨before, u, after, hbefore, hdenotes, hafter, rfl⟩
    obtain ⟨c, w, hcons, hspace, hmark⟩ := hdenotes.token.exists_cons
    have hflat : Text.Flat (before ++ u ++ after) :=
      (hbefore.flat.append hdenotes.token.flat).append hafter.flat
    have hguard : (before ++ u ++ after).nestsDeeper maxDepth = false := by
      rw [Bool.eq_false_iff, Ne, (Text.Nested.flat hflat).nestsDeeper]
      exact Nat.not_lt_zero _
    have hskip : skipSpace (before ++ u ++ after) = u ++ after := by
      rw [List.append_assoc, hcons]
      exact Text.dropWhile_run hbefore (by simpa using hspace)
    refine read_eq_ok_iff.2 ⟨hguard, fun hhead => ?_, after, ?_, ?_⟩
    · -- neither white space nor a token starts with the mark
      cases before with
      | nil =>
          rw [hcons] at hhead
          exact hmark (Option.some.inj hhead)
      | cons d before =>
          have hd := hbefore d (List.mem_cons_self ..)
          rw [Option.some.inj hhead] at hd
          exact absurd hd (by decide)
    · rw [hskip]
      exact (readValue_eq_scalar_iff hafter.endsNumeral).2 ⟨u, rfl, hdenotes⟩
    · have hrun : skipSpace (after ++ []) = [] :=
        Text.dropWhile_run hafter (by simp)
      rwa [List.append_nil] at hrun

end Marginalia.Json
