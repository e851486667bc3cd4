/-
What the inside of a string stands for. A code point stands for itself, a
backslash with one of eight letters for what the letter is short for, and a
backslash with `u` and four hexadecimal digits for the code point of that
number. Only the numbers of surrogates take more than one escape into account:
the first half of a pair and a second half right behind it, both escaped, are
one code point, and any other half stands for itself.

`Stands` says this without a reader. The reader works in two steps, first the
pieces and then their joining, and the proof does the same: a text is spelt
with pieces (`readPieces_eq_iff`), and what the pieces join to is what the text
stands for (`stands_iff`).
-/
import Marginalia.Proofs.Json.Decoded
import Marginalia.Proofs.Json.Grammar

namespace Marginalia.Json

/-- Four digits that name a unit are hexadecimal. -/
theorem isSome_of_hexUnit? {a b c d : CodePoint} {n : Nat}
    (h : hexUnit? a b c d = some n) :
    ∀ x ∈ [a, b, c, d], x.hexDigit?.isSome = true := by
  unfold hexUnit? at h
  split at h
  · next ha hb hc hd =>
    intro x hx
    simp only [List.mem_cons, List.not_mem_nil, or_false] at hx
    rcases hx with rfl | rfl | rfl | rfl
    · rw [ha]; rfl
    · rw [hb]; rfl
    · rw [hc]; rfl
    · rw [hd]; rfl
  · cases h

namespace Grammar

-- ============================================================== meaning

/-- The letters that may stand behind a backslash, with what they are short
for. -/
def letters : List (CodePoint × CodePoint) :=
  [ (.scalar '"', .scalar '"'), (.scalar '\\', .scalar '\\'),
    (.scalar '/', .scalar '/'), (.scalar 'b', .scalar '\x08'),
    (.scalar 'f', .scalar '\x0C'), (.scalar 'n', .scalar '\n'),
    (.scalar 'r', .scalar '\r'), (.scalar 't', .scalar '\t') ]

/-- A numeric escape: a backslash, `u` and the four hexadecimal digits of a
number. -/
inductive UnitEscape : Nat → Text → Prop
  | mk {h₁ h₂ h₃ h₄ : CodePoint} {a b c d : Nat}
      (first : h₁.hexDigit? = some a) (second : h₂.hexDigit? = some b)
      (third : h₃.hexDigit? = some c) (fourth : h₄.hexDigit? = some d) :
      UnitEscape (a * 0x1000 + b * 0x100 + c * 0x10 + d)
        [.scalar '\\', .scalar 'u', h₁, h₂, h₃, h₄]

/-- The numbers of the first halves of surrogate pairs. -/
def HighHalf (n : Nat) : Prop := 0xD800 ≤ n ∧ n < 0xDC00

/-- The numbers of the second halves of surrogate pairs. -/
def LowHalf (n : Nat) : Prop := 0xDC00 ≤ n ∧ n < 0xE000

/-- The inside of a string stands for a text. -/
inductive Stands : Text → Text → Prop
  | nil : Stands [] []
  | plain {c : CodePoint} {t s : Text} (quote : c ≠ .scalar '"')
      (slash : c ≠ .scalar '\\') (control : 0x20 ≤ c.toNat)
      (rest : Stands t s) : Stands (c :: t) (c :: s)
  | short {e c : CodePoint} {t s : Text} (letter : (e, c) ∈ letters)
      (rest : Stands t s) : Stands (.scalar '\\' :: e :: t) (c :: s)
  | pair {high low : Nat} {u v t s : Text} (first : UnitEscape high u)
      (isHigh : HighHalf high) (second : UnitEscape low v)
      (isLow : LowHalf low) (rest : Stands t s) :
      Stands (u ++ (v ++ t))
        (.ofNat (0x10000 + (high - 0xD800) * 0x400 + (low - 0xDC00)) :: s)
  | unit {n : Nat} {u t s : Text} (escape : UnitEscape n u)
      (apart : HighHalf n → ∀ low v t', UnitEscape low v → LowHalf low →
        t ≠ v ++ t')
      (rest : Stands t s) : Stands (u ++ t) (.ofNat n :: s)

/-- The inside of a string is spelt with pieces, each escape a piece of its
own. -/
inductive Spelt : Text → List Piece → Prop
  | nil : Spelt [] []
  | plain {c : CodePoint} {t : Text} {pieces : List Piece}
      (quote : c ≠ .scalar '"') (slash : c ≠ .scalar '\\')
      (control : 0x20 ≤ c.toNat) (rest : Spelt t pieces) :
      Spelt (c :: t) (.plain c :: pieces)
  | short {e c : CodePoint} {t : Text} {pieces : List Piece}
      (letter : (e, c) ∈ letters) (rest : Spelt t pieces) :
      Spelt (.scalar '\\' :: e :: t) (.plain c :: pieces)
  | unit {n : Nat} {u t : Text} {pieces : List Piece}
      (escape : UnitEscape n u) (rest : Spelt t pieces) :
      Spelt (u ++ t) (.unit n :: pieces)

-- ============================================================== escapes

theorem shortEscape?_eq_some_iff {e c : CodePoint} :
    shortEscape? e = some c ↔ (e, c) ∈ letters := by
  constructor
  · intro h
    unfold shortEscape? at h
    split at h
    · next hmark =>
      cases h
      simp only [Bool.or_eq_true, decide_eq_true_iff] at hmark
      rcases hmark with (rfl | rfl) | rfl <;> decide
    · repeat' split at h
      all_goals cases h
      all_goals
        next he => rw [he]; decide
  · intro h
    simp only [letters, List.mem_cons, Prod.mk.injEq, List.not_mem_nil,
      or_false] at h
    rcases h with h | h | h | h | h | h | h | h <;> rw [h.1, h.2] <;> rfl

/-- The letter of a short escape is not the one of a numeric escape. -/
theorem ne_of_mem_letters {e c : CodePoint} (h : (e, c) ∈ letters) :
    e ≠ .scalar 'u' := by
  rintro rfl
  exact absurd (shortEscape?_eq_some_iff.2 h) (by
    rw [show shortEscape? (.scalar 'u') = none from rfl]
    exact nofun)

theorem unitEscape_iff {n : Nat} {u : Text} :
    UnitEscape n u ↔ ∃ h₁ h₂ h₃ h₄,
      u = [.scalar '\\', .scalar 'u', h₁, h₂, h₃, h₄]
        ∧ hexUnit? h₁ h₂ h₃ h₄ = some n := by
  constructor
  · intro h
    cases h with
    | @mk h₁ h₂ h₃ h₄ a b c d first second third fourth =>
        refine ⟨h₁, h₂, h₃, h₄, rfl, ?_⟩
        rw [hexUnit?, first, second, third, fourth]
        dsimp only
        congr 1
        omega
  · rintro ⟨h₁, h₂, h₃, h₄, rfl, h⟩
    unfold hexUnit? at h
    split at h
    · next a b c d first second third fourth =>
      cases h
      have hnumber : ((a * 16 + b) * 16 + c) * 16 + d
          = a * 0x1000 + b * 0x100 + c * 0x10 + d := by omega
      rw [hnumber]
      exact .mk first second third fourth
    · cases h

/-- A text starts with one numeric escape at most. -/
theorem UnitEscape.unique {m n : Nat} {u v t t' : Text}
    (h : UnitEscape m u) (h' : UnitEscape n v) (heq : u ++ t = v ++ t') :
    m = n ∧ t = t' := by
  obtain ⟨a, b, c, d, rfl, hm⟩ := unitEscape_iff.1 h
  obtain ⟨a', b', c', d', rfl, hn⟩ := unitEscape_iff.1 h'
  simp only [List.cons_append, List.nil_append, List.cons.injEq, true_and]
    at heq
  obtain ⟨rfl, rfl, rfl, rfl, rfl⟩ := heq
  exact ⟨Option.some.inj (hm.symm.trans hn), rfl⟩

/-- A text that starts with a numeric escape is spelt with its unit first. -/
theorem Spelt.unit_of_append {n : Nat} {u t : Text} {pieces : List Piece}
    (hu : UnitEscape n u) (h : Spelt (u ++ t) pieces) :
    ∃ more, pieces = .unit n :: more ∧ Spelt t more := by
  generalize heq : u ++ t = w at h
  obtain ⟨h₁, h₂, h₃, h₄, hshape, -⟩ := unitEscape_iff.1 hu
  cases h with
  | nil =>
      rw [hshape] at heq
      cases heq
  | plain _ slash _ _ =>
      rw [hshape] at heq
      injection heq with hc
      exact absurd hc.symm slash
  | short letter _ =>
      rw [hshape] at heq
      injection heq with _ heq
      injection heq with he
      exact absurd he.symm (ne_of_mem_letters letter)
  | unit escape rest =>
      obtain ⟨rfl, rfl⟩ := hu.unique escape heq
      exact ⟨_, rfl, rest⟩

/-- What is spelt with a unit first starts with its escape. -/
theorem Spelt.cons_unit {n : Nat} {w : Text} {pieces : List Piece}
    (h : Spelt w (.unit n :: pieces)) :
    ∃ u t, w = u ++ t ∧ UnitEscape n u ∧ Spelt t pieces := by
  cases h with
  | unit escape rest => exact ⟨_, _, rfl, escape, rest⟩

end Grammar

open Grammar

-- =============================================================== pieces

/-- A numeric escape is one piece, its unit. -/
theorem readPieces_unit {n : Nat} {u : Text} (hu : UnitEscape n u)
    (opening : Text) {rest : Text} (hrest : rest ≠ []) :
    readPieces opening (u ++ rest)
      = (readPieces opening rest).map fun r => (.unit n :: r.1, r.2) := by
  obtain ⟨h₁, h₂, h₃, h₄, rfl, hn⟩ := unitEscape_iff.1 hu
  obtain ⟨next, more, rfl⟩ := List.exists_cons_of_ne_nil hrest
  show readPieces opening (.scalar '\\' :: .scalar 'u' :: h₁ :: h₂ :: h₃ :: h₄
    :: next :: more) = _
  rw [readPieces.eq_def]
  dsimp only
  rw [if_neg (by decide), if_pos rfl, if_pos rfl, hn]

/-- What is read up to the closing quote is spelt with the pieces. -/
theorem spelt_readPieces {opening t rest : Text} {pieces : List Piece}
    (h : readPieces opening t = .ok (pieces, rest)) :
    ∃ body, t = body ++ .scalar '"' :: rest ∧ Spelt body pieces := by
  fun_induction readPieces opening t generalizing pieces with
  | case2 t =>
      -- the closing quote
      cases h
      exact ⟨[], rfl, .nil⟩
  | case4 h₁ h₂ h₃ h₄ next more n hunit _ ih =>
      -- a numeric escape
      obtain ⟨r, hr, heq⟩ := ok_of_map h
      cases heq
      obtain ⟨body, ht, hbody⟩ := ih hr
      have hescape := unitEscape_iff.2 ⟨h₁, h₂, h₃, h₄, rfl, hunit⟩
      exact ⟨_, by rw [ht]; rfl, .unit hescape hbody⟩
  | case7 e more _ x hx _ ih =>
      -- a short escape
      obtain ⟨r, hr, heq⟩ := ok_of_map h
      cases heq
      obtain ⟨body, ht, hbody⟩ := ih hr
      exact ⟨_, by rw [ht]; rfl,
        .short (shortEscape?_eq_some_iff.1 hx) hbody⟩
  | case10 c more hquote hslash hcontrol ih =>
      -- a code point as it stands
      obtain ⟨r, hr, heq⟩ := ok_of_map h
      cases heq
      obtain ⟨body, ht, hbody⟩ := ih hr
      exact ⟨_, by rw [ht]; rfl,
        .plain hquote hslash (Nat.not_lt.1 hcontrol) hbody⟩
  | case1 | case3 | case5 | case6 | case8 | case9 => cases h

theorem Grammar.Spelt.readPieces {body : Text} {pieces : List Piece}
    (h : Spelt body pieces) (opening rest : Text) :
    Json.readPieces opening (body ++ .scalar '"' :: rest)
      = .ok (pieces, rest) := by
  induction h with
  | nil => exact readPieces_quote opening rest
  | plain quote slash control _ ih =>
      rw [List.cons_append, readPieces_plain quote slash control, ih]
      rfl
  | short letter _ ih =>
      rw [List.cons_append, List.cons_append,
        readPieces_short (ne_of_mem_letters letter)
          (shortEscape?_eq_some_iff.2 letter), ih]
      rfl
  | @unit n u t pieces escape _ ih =>
      have hne : t ++ .scalar '"' :: rest ≠ [] := by simp
      rw [List.append_assoc, readPieces_unit escape opening hne, ih]
      rfl

/-- The pieces of a string are those that its inside is spelt with. -/
theorem readPieces_eq_iff {opening t rest : Text} {pieces : List Piece} :
    readPieces opening t = .ok (pieces, rest)
      ↔ ∃ body, t = body ++ .scalar '"' :: rest ∧ Spelt body pieces := by
  refine ⟨spelt_readPieces, ?_⟩
  rintro ⟨body, rfl, hbody⟩
  exact hbody.readPieces opening rest

-- ============================================================== joining

/-- A first half of a pair that no second half follows stands for itself, as
every other unit does. -/
theorem joinPieces_apart {n : Nat} {rest : List Piece}
    (h : isHighUnit n = true → ∀ low more, rest = .unit low :: more →
      ¬ isLowUnit low = true) :
    joinPieces (.unit n :: rest) = .ofNat n :: joinPieces rest := by
  by_cases hn : isHighUnit n = true
  · rw [joinPieces.eq_def]
    dsimp only
    rw [if_pos hn]
    split
    · rw [if_neg (h hn _ _ rfl)]
    · rfl
  · exact joinPieces_single hn rest

/-- What is spelt with pieces stands for what they join to. -/
theorem stands_of_spelt {body : Text} {pieces : List Piece}
    (h : Spelt body pieces) : Stands body (joinPieces pieces) := by
  fun_induction joinPieces pieces generalizing body with
  | case1 =>
      cases h
      exact .nil
  | case2 c rest ih =>
      cases h with
      | plain quote slash control rest =>
          exact .plain quote slash control (ih rest)
      | short letter rest => exact .short letter (ih rest)
  | case3 high hhigh low more hlow ih =>
      -- the two halves of a pair
      obtain ⟨u, t, rfl, hu, ht⟩ := h.cons_unit
      obtain ⟨v, t, rfl, hv, ht⟩ := ht.cons_unit
      exact .pair hu (isHighUnit_eq_true.1 hhigh) hv (isLowUnit_eq_true.1 hlow)
        (ih ht)
  | case4 n hn m more hm ih =>
      -- a first half with another unit behind it
      obtain ⟨u, t, rfl, hu, ht⟩ := h.cons_unit
      refine .unit hu (fun _ low v t' hv hlow heq => ?_) (ih ht)
      rw [heq] at ht
      obtain ⟨more', hpieces, -⟩ := ht.unit_of_append hv
      cases hpieces
      exact hm (isLowUnit_eq_true.2 hlow)
  | case5 n hn rest hne ih =>
      -- a first half with no unit behind it
      obtain ⟨u, t, rfl, hu, ht⟩ := h.cons_unit
      refine .unit hu (fun _ low v t' hv _ heq => ?_) (ih ht)
      rw [heq] at ht
      obtain ⟨more, hpieces, -⟩ := ht.unit_of_append hv
      exact hne _ _ hpieces
  | case6 n rest hn ih =>
      obtain ⟨u, t, rfl, hu, ht⟩ := h.cons_unit
      exact .unit hu (fun hhigh => absurd (isHighUnit_eq_true.2 hhigh) hn)
        (ih ht)

/-- What the inside of a string stands for is what the pieces join to that it
is spelt with. -/
theorem stands_iff {body s : Text} :
    Stands body s ↔ ∃ pieces, Spelt body pieces ∧ joinPieces pieces = s := by
  constructor
  · intro h
    induction h with
    | nil => exact ⟨[], .nil, rfl⟩
    | plain quote slash control _ ih =>
        obtain ⟨pieces, hspelt, hjoin⟩ := ih
        exact ⟨_, .plain quote slash control hspelt, by rw [← hjoin]; rfl⟩
    | short letter _ ih =>
        obtain ⟨pieces, hspelt, hjoin⟩ := ih
        exact ⟨_, .short letter hspelt, by rw [← hjoin]; rfl⟩
    | pair first isHigh second isLow _ ih =>
        obtain ⟨pieces, hspelt, hjoin⟩ := ih
        refine ⟨_, .unit first (.unit second hspelt), ?_⟩
        rw [joinPieces_pair (isHighUnit_eq_true.2 isHigh)
          (isLowUnit_eq_true.2 isLow), hjoin]
        rfl
    | @unit n u t s escape apart _ ih =>
        obtain ⟨pieces, hspelt, hjoin⟩ := ih
        refine ⟨_, .unit escape hspelt, ?_⟩
        rw [joinPieces_apart, hjoin]
        rintro hhigh low more rfl hlow
        obtain ⟨v, t', heq, hv, -⟩ := hspelt.cons_unit
        exact apart (isHighUnit_eq_true.1 hhigh) low v t' hv
          (isLowUnit_eq_true.1 hlow) heq
  · rintro ⟨pieces, hspelt, rfl⟩
    exact stands_of_spelt hspelt

/-- A string is read up to its closing quote, and the text is what its inside
stands for. -/
theorem readString_eq_iff {quote : CodePoint} {t s rest : Text} :
    readString (quote :: t) = .ok (s, rest)
      ↔ ∃ body, t = body ++ .scalar '"' :: rest ∧ Stands body s := by
  rw [readString]
  constructor
  · intro h
    obtain ⟨r, hr, heq⟩ := ok_of_map h
    cases heq
    obtain ⟨body, ht, hspelt⟩ := readPieces_eq_iff.1 hr
    exact ⟨body, ht, stands_of_spelt hspelt⟩
  · rintro ⟨body, ht, hstands⟩
    obtain ⟨pieces, hspelt, rfl⟩ := stands_iff.1 hstands
    rw [readPieces_eq_iff.2 ⟨body, ht, hspelt⟩]
    rfl

-- ================================================================ shape

namespace Grammar

/-- What is spelt with pieces may stand between quotes. -/
theorem Spelt.stringBody {body : Text} {pieces : List Piece}
    (h : Spelt body pieces) : StringBody body := by
  induction h with
  | nil => exact .nil
  | plain quote slash control _ ih => exact .plain quote slash control ih
  | @short e c t pieces letter _ ih =>
      have hletters : letters.map (·.1) = Text.ofString "\"\\/bfnrt" := rfl
      exact .short (hletters ▸ List.mem_map_of_mem letter) ih
  | unit escape _ ih =>
      obtain ⟨h₁, h₂, h₃, h₄, rfl, hunit⟩ := unitEscape_iff.1 escape
      exact .numeric (isSome_of_hexUnit? hunit) ih

theorem Stands.stringBody {body s : Text} (h : Stands body s) :
    StringBody body := by
  obtain ⟨pieces, hspelt, -⟩ := stands_iff.1 h
  exact hspelt.stringBody

end Grammar

end Marginalia.Json
