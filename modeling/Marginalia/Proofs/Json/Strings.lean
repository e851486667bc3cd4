/-
Strings, written and read. Every code point is written as a text that spells
it: the reader takes that text as pieces of its own, and the pieces join to
the code point. Only the first half of a surrogate pair asks what follows
it, for as an escape it joins with an escaped second half; so a text is read
back unless the halves of a pair stand apart in it, one behind the other
(`Text.isJoined`).

What is written stands inside its quotes: no code point of it is a bare
quote, and none is a control.
-/
import Marginalia.Json.Reader
import Marginalia.Json.Writer
import Marginalia.Proofs.Text.CodePoint
import Marginalia.Proofs.Text.Lines
import Marginalia.Proofs.Text.Quoting

namespace Marginalia

-- ========================================================== surrogates

/-- No first half of a surrogate pair stands right before a second one. -/
def Text.isJoined : Text → Bool
  | [] => true
  | c :: t =>
    !(Json.isHighUnit c.toNat && t.head?.any fun d => Json.isLowUnit d.toNat)
      && Text.isJoined t

namespace Json

/-- What stands at the head of a text would join with the first half of a
surrogate pair. -/
def StartsLow (t : Text) : Prop :=
  ∃ d ∈ t.head?, isLowUnit d.toNat = true

theorem isJoined_cons {c : CodePoint} {t : Text} :
    Text.isJoined (c :: t) = true
      ↔ (isHighUnit c.toNat = true → ¬ StartsLow t)
        ∧ Text.isJoined t = true := by
  rw [Text.isJoined, Bool.and_eq_true]
  refine and_congr_left fun _ => ?_
  unfold StartsLow
  cases t with
  | nil => simp
  | cons d t => cases isHighUnit c.toNat <;> simp

/-- The units of the two halves are told apart by their numbers. -/
theorem isHighUnit_eq_true {n : Nat} :
    isHighUnit n = true ↔ 0xD800 ≤ n ∧ n < 0xDC00 := by
  unfold isHighUnit
  rw [Bool.and_eq_true, decide_eq_true_iff, decide_eq_true_iff]

theorem isLowUnit_eq_true {n : Nat} :
    isLowUnit n = true ↔ 0xDC00 ≤ n ∧ n < 0xE000 := by
  unfold isLowUnit
  rw [Bool.and_eq_true, decide_eq_true_iff, decide_eq_true_iff]

/-- The code point of a unit is a half of a pair when the unit is. -/
theorem isLowUnit_ofNat {n : Nat} :
    isLowUnit (CodePoint.ofNat n).toNat = true ↔ isLowUnit n = true := by
  rw [isLowUnit_eq_true, isLowUnit_eq_true]
  rcases CodePoint.toNat_ofNat (n := n) with h | ⟨h, h'⟩
  · rw [h]
  · omega

theorem isHighUnit_ofNat {n : Nat} :
    isHighUnit (CodePoint.ofNat n).toNat = true ↔ isHighUnit n = true := by
  rw [isHighUnit_eq_true, isHighUnit_eq_true]
  rcases CodePoint.toNat_ofNat (n := n) with h | ⟨h, h'⟩
  · rw [h]
  · omega

/-- A scalar value is no half of a pair. -/
theorem not_unit_of_not_isSurrogate {c : CodePoint}
    (h : c.isSurrogate = false) :
    ¬ isHighUnit c.toNat = true ∧ ¬ isLowUnit c.toNat = true := by
  rw [isHighUnit_eq_true, isLowUnit_eq_true]
  cases c with
  | scalar c =>
      have hc := CodePoint.toNat_scalar c
      omega
  | surrogate half => cases h

/-- A text without surrogates has no halves of pairs in it. -/
theorem isJoined_of_isEncodable {t : Text} (h : t.isEncodable = true) :
    t.isJoined = true := by
  induction t with
  | nil => rfl
  | cons c t ih =>
      unfold Text.isEncodable at h
      rw [List.all_cons, Bool.and_eq_true, Bool.not_eq_true'] at h
      rw [isJoined_cons]
      exact ⟨fun hc => absurd hc (not_unit_of_not_isSurrogate h.1).1, ih h.2⟩

variable {f : Format}

-- ============================================================= shape

theorem inner_unitEscape (n : Nat) : Text.Inner (unitEscape n) := by
  have hdigits : Text.Inner (Text.ofHex 4 n) := by
    apply Text.Inner.of_forall
    apply Text.forall_mem_ofHex
    intro d hd
    exact ⟨(CodePoint.ofHexDigit_ne hd).1, (CodePoint.ofHexDigit_ne hd).2.1⟩
  exact (Text.Inner.escape (.scalar 'u')).append hdigits

theorem inner_escapes (n : Nat) : Text.Inner (escapes n) := by
  unfold escapes
  split
  · exact inner_unitEscape n
  · exact (inner_unitEscape _).append (inner_unitEscape _)

/-- What is written for a code point stays inside the string. -/
theorem inner_writePoint (c : CodePoint) : Text.Inner (writePoint f c) := by
  unfold writePoint
  repeat' split
  · exact .escape _
  · exact .escape _
  · exact .escape _
  · exact .escape _
  · exact .escape _
  · exact .escape _
  · exact .escape _
  · exact inner_escapes _
  · exact .plain ‹_› ‹_›

/-- A written string is an inside between two quotes. -/
theorem writeString_eq (s : Text) :
    writeString f s
      = .scalar '"' :: (s.flatMap (writePoint f) ++ [.scalar '"']) := rfl

theorem inner_flatMap_writePoint (s : Text) :
    Text.Inner (s.flatMap (writePoint f)) :=
  .flatMap fun c _ => inner_writePoint c

/-- A written string is closed, and it shows no bracket. -/
theorem flat_writeString (s : Text) : Text.Flat (writeString f s) :=
  .quoted (inner_flatMap_writePoint s)

theorem printed_unitEscape (n : Nat) : (unitEscape n).Printed := by
  refine Text.Printed.append (by decide) ?_
  apply Text.forall_mem_ofHex
  intro d hd
  exact (CodePoint.ofHexDigit_ne hd).2.2

theorem printed_escapes (n : Nat) : (escapes n).Printed := by
  unfold escapes
  split
  · exact printed_unitEscape n
  · exact (printed_unitEscape _).append (printed_unitEscape _)

/-- No control is written. -/
theorem printed_writePoint (c : CodePoint) : (writePoint f c).Printed := by
  unfold writePoint
  repeat' split
  · decide
  · decide
  · decide
  · decide
  · decide
  · decide
  · decide
  · exact printed_escapes _
  · next hplain =>
    intro x hx
    rw [List.mem_singleton.1 hx]
    rw [Bool.or_eq_true, decide_eq_true_iff] at hplain
    exact Nat.le_of_not_lt fun h => hplain (.inl h)

theorem printed_writeString (s : Text) : (writeString f s).Printed := by
  have hbody : Text.Printed (s.flatMap (writePoint f)) := by
    intro c hc
    obtain ⟨x, -, hx⟩ := List.mem_flatMap.1 hc
    exact printed_writePoint x c hx
  unfold writeString
  exact ((show Text.Printed [.scalar '"'] by decide).append hbody).append
    (by decide)

-- ============================================================= pieces

/-- The closing quote ends the pieces. -/
theorem readPieces_quote (opening rest : Text) :
    readPieces opening (.scalar '"' :: rest) = .ok ([], rest) := by
  rw [readPieces.eq_def]
  rfl

/-- A code point that needs no escape is a piece. -/
theorem readPieces_plain {c : CodePoint} (hquote : c ≠ .scalar '"')
    (hslash : c ≠ .scalar '\\') (hcontrol : 0x20 ≤ c.toNat)
    (opening rest : Text) :
    readPieces opening (c :: rest)
      = (readPieces opening rest).map fun r => (.plain c :: r.1, r.2) := by
  rw [readPieces.eq_def]
  dsimp only
  rw [if_neg hquote, if_neg hslash, if_neg (Nat.not_lt.2 hcontrol)]

/-- A backslash and a letter are one piece. -/
theorem readPieces_short {e c : CodePoint} (hu : e ≠ .scalar 'u')
    (h : shortEscape? e = some c) (opening rest : Text) :
    readPieces opening (.scalar '\\' :: e :: rest)
      = (readPieces opening rest).map fun r => (.plain c :: r.1, r.2) := by
  rw [readPieces.eq_def]
  dsimp only
  rw [if_neg (by decide), if_pos rfl, if_neg hu, h]

/-- A numeric escape is one piece, its unit. -/
theorem readPieces_unitEscape {n : Nat} (hn : n < 0x10000) (opening : Text)
    {rest : Text} (hrest : rest ≠ []) :
    readPieces opening (unitEscape n ++ rest)
      = (readPieces opening rest).map fun r => (.unit n :: r.1, r.2) := by
  cases rest with
  | nil => exact absurd rfl hrest
  | cons next more =>
      have hdigits : hexUnit? (.ofHexDigit (n / 16 / 16 / 16 % 16))
          (.ofHexDigit (n / 16 / 16 % 16)) (.ofHexDigit (n / 16 % 16))
          (.ofHexDigit (n % 16)) = some n := by
        have hlt : ∀ k, k % 16 < 16 := fun k => Nat.mod_lt k (by decide)
        unfold hexUnit?
        rw [CodePoint.hexDigit?_ofHexDigit (hlt _),
          CodePoint.hexDigit?_ofHexDigit (hlt _),
          CodePoint.hexDigit?_ofHexDigit (hlt _),
          CodePoint.hexDigit?_ofHexDigit (hlt _)]
        dsimp only
        congr 1
        omega
      show readPieces opening (.scalar '\\' :: .scalar 'u'
        :: .ofHexDigit (n / 16 / 16 / 16 % 16)
        :: .ofHexDigit (n / 16 / 16 % 16) :: .ofHexDigit (n / 16 % 16)
        :: .ofHexDigit (n % 16) :: next :: more) = _
      rw [readPieces.eq_def]
      dsimp only
      rw [if_neg (by decide), if_pos rfl, if_pos rfl, hdigits]

/-- The units of a pair stand for one code point. -/
theorem joinPieces_pair {high low : Nat} (hhigh : isHighUnit high = true)
    (hlow : isLowUnit low = true) (more : List Piece) :
    joinPieces (.unit high :: .unit low :: more)
      = .ofNat (pairValue high low) :: joinPieces more := by
  rw [joinPieces.eq_def]
  dsimp only
  rw [if_pos hhigh, if_pos hlow]

/-- A unit that is not the first of a pair stands for itself. -/
theorem joinPieces_single {n : Nat} (hn : ¬ isHighUnit n = true)
    (more : List Piece) :
    joinPieces (.unit n :: more) = .ofNat n :: joinPieces more := by
  rw [joinPieces.eq_def]
  dsimp only
  rw [if_neg hn]

/-- A unit stands for itself when no second half of a pair comes out of what
follows it. -/
theorem joinPieces_unit {n : Nat} {more : List Piece}
    (h : isHighUnit n = true → ¬ StartsLow (joinPieces more)) :
    joinPieces (.unit n :: more) = .ofNat n :: joinPieces more := by
  by_cases hn : isHighUnit n = true
  · rw [joinPieces.eq_def]
    dsimp only
    rw [if_pos hn]
    split
    · next m more' =>
      split
      · next hm =>
        have hhigh : ¬ isHighUnit m = true := by
          rw [isHighUnit_eq_true]
          rw [isLowUnit_eq_true] at hm
          omega
        refine absurd ?_ (h hn)
        rw [joinPieces_single hhigh]
        exact ⟨_, rfl, isLowUnit_ofNat.2 hm⟩
      · rfl
    · rfl
  · exact joinPieces_single hn more

-- ============================================================ spelling

/-- The text stands for a code point inside a string: it is read as pieces
of its own, and they join to the code point, unless they join with what
comes next. -/
def Spells (t : Text) (c : CodePoint) : Prop :=
  ∃ pieces : List Piece,
    (∀ opening rest, rest ≠ [] →
      readPieces opening (t ++ rest)
        = (readPieces opening rest).map fun r => (pieces ++ r.1, r.2))
      ∧ ∀ more, (isHighUnit c.toNat = true → ¬ StartsLow (joinPieces more)) →
        joinPieces (pieces ++ more) = c :: joinPieces more

/-- A code point that needs no escape spells itself. -/
theorem spells_plain {c : CodePoint} (hquote : c ≠ .scalar '"')
    (hslash : c ≠ .scalar '\\') (hcontrol : 0x20 ≤ c.toNat) :
    Spells [c] c :=
  ⟨[.plain c], fun opening rest _ =>
    readPieces_plain hquote hslash hcontrol opening rest, fun _ _ => rfl⟩

/-- A backslash and a letter spell what the letter is short for. -/
theorem spells_short {e c : CodePoint} (hu : e ≠ .scalar 'u')
    (h : shortEscape? e = some c) : Spells [.scalar '\\', e] c :=
  ⟨[.plain c], fun opening rest _ => readPieces_short hu h opening rest,
    fun _ _ => rfl⟩

/-- The escapes of a code point spell it. -/
theorem spells_escapes (c : CodePoint) : Spells (escapes c.toNat) c := by
  have hrange : c.toNat < 0x110000 := by
    cases c with
    | scalar c =>
        have hc := CodePoint.toNat_scalar c
        omega
    | surrogate half =>
        have hhalf := half.isLt
        show 0xD800 + half.val < 0x110000
        omega
  have hback := CodePoint.ofNat_toNat c
  unfold Spells
  -- from here on a matter of numbers: one unit, or the two of a pair
  generalize c.toNat = n at hrange hback ⊢
  unfold escapes
  split
  · next hn =>
    refine ⟨[.unit n], fun opening rest hrest => ?_, fun more hmore => ?_⟩
    · exact readPieces_unitEscape hn opening hrest
    · rw [List.singleton_append, joinPieces_unit hmore, hback]
  · next hn =>
    generalize hhi : 0xD800 + (n - 0x10000) / 0x400 = high
    generalize hlo : 0xDC00 + (n - 0x10000) % 0x400 = low
    refine ⟨[.unit high, .unit low], fun opening rest hrest => ?_,
      fun more _ => ?_⟩
    · have hne : unitEscape low ++ rest ≠ [] :=
        fun h => hrest (List.append_eq_nil_iff.1 h).2
      rw [List.append_assoc, readPieces_unitEscape (by omega) opening hne,
        readPieces_unitEscape (by omega) opening hrest]
      cases readPieces opening rest <;> rfl
    · have hhigh : isHighUnit high = true :=
        isHighUnit_eq_true.2 (by omega)
      have hlow : isLowUnit low = true := isLowUnit_eq_true.2 (by omega)
      have hpair : pairValue high low = n := by
        unfold pairValue
        omega
      show joinPieces (.unit high :: .unit low :: more) = _
      rw [joinPieces_pair hhigh hlow, hpair, hback]

/-- What is written for a code point spells it. -/
theorem spells_writePoint (c : CodePoint) : Spells (writePoint f c) c := by
  have hnumber : ∀ n, c.toNat = n → CodePoint.ofNat n = c := by
    intro n hn
    rw [← hn]
    exact CodePoint.ofNat_toNat c
  unfold writePoint
  repeat' split
  · next h => rw [h]; exact spells_short (by decide) rfl
  · next h => rw [h]; exact spells_short (by decide) rfl
  · next h => rw [h]; exact spells_short (by decide) rfl
  · next h => rw [h]; exact spells_short (by decide) rfl
  · next h => rw [h]; exact spells_short (by decide) rfl
  · next h => rw [← hnumber _ h]; exact spells_short (by decide) rfl
  · next h => rw [← hnumber _ h]; exact spells_short (by decide) rfl
  · exact spells_escapes c
  · next hplain =>
    rw [Bool.or_eq_true, decide_eq_true_iff] at hplain
    exact spells_plain ‹_› ‹_› (Nat.le_of_not_lt fun h => hplain (.inl h))

/-- The inside of a written string is read up to its closing quote. -/
theorem readPieces_flatMap {s : Text} (hs : s.isJoined = true)
    (opening rest : Text) :
    ∃ pieces, readPieces opening
        (s.flatMap (writePoint f) ++ .scalar '"' :: rest) = .ok (pieces, rest)
      ∧ joinPieces pieces = s := by
  induction s with
  | nil => exact ⟨[], readPieces_quote opening rest, rfl⟩
  | cons c s ih =>
      obtain ⟨hnext, hs⟩ := isJoined_cons.1 hs
      obtain ⟨pieces, hread, hjoin⟩ := ih hs
      obtain ⟨first, hfirst, hspell⟩ := spells_writePoint (f := f) c
      refine ⟨first ++ pieces, ?_, ?_⟩
      · have hne : s.flatMap (writePoint f) ++ .scalar '"' :: rest ≠ [] :=
          fun h => List.cons_ne_nil _ _ (List.append_eq_nil_iff.1 h).2
        rw [List.flatMap_cons, List.append_assoc, hfirst opening _ hne, hread]
        rfl
      · rw [hspell pieces (hjoin ▸ hnext), hjoin]

/-- A text in which no halves of pairs stand apart is read back from the
string that is written for it. -/
theorem readString_writeString {s : Text} (hs : s.isJoined = true)
    (rest : Text) : readString (writeString f s ++ rest) = .ok (s, rest) := by
  rw [writeString_eq, List.cons_append, List.append_assoc,
    List.singleton_append, readString]
  obtain ⟨pieces, hread, hjoin⟩ := readPieces_flatMap (f := f) hs
    (.scalar '"' :: (s.flatMap (writePoint f) ++ .scalar '"' :: rest)) rest
  rw [hread]
  show Except.ok (joinPieces pieces, rest) = _
  rw [hjoin]

end Json

end Marginalia
