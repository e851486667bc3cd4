/-
What the decoder of UTF-8 accepts. Between characters it takes a whole
character of the table or reports the place where none starts
(`decodeFrom_cases`); inside one, the sequence in progress says in which
ranges the bytes that it owes must lie (`decodeFrom_sequence`). So decoding is
the inverse of encoding (`decodeFrom_eq_ok_iff`), and what is decoded are the
well-formed bytes (`wellFormed_iff`).
-/
import Marginalia.Proofs.Utf8.Characters

namespace Marginalia.Utf8

-- ================================================ sequences in progress

/-- The ranges of the bytes that a sequence in progress still owes. -/
def Sequence.ranges (q : Sequence) : List (Nat × Nat) :=
  (q.low, q.high) :: List.replicate (q.owed - 1) (0x80, 0xBF)

/-- The sequence in progress after one more byte of it. -/
def Sequence.next (q : Sequence) (byte : UInt8) : Sequence :=
  ⟨q.start, q.owed - 1, 0x80, 0xBF, q.bits * 64 + (byte.toNat - 0x80)⟩

/-- The number that a sequence in progress comes to with the bytes it
owes. -/
def Sequence.number : Sequence → Bytes → Nat
  | q, [] => q.bits
  | q, byte :: tail => number (q.next byte) tail

theorem Sequence.ranges_of_owed_one {q : Sequence} (h : q.owed = 1) :
    q.ranges = [(q.low, q.high)] := by
  unfold ranges
  rw [h]
  rfl

theorem Sequence.ranges_next {q : Sequence} (byte : UInt8) (h : 1 < q.owed) :
    q.ranges = (q.low, q.high) :: (q.next byte).ranges := by
  have howed : q.owed - 1 = q.owed - 1 - 1 + 1 := by omega
  unfold ranges next
  rw [howed, List.replicate_succ]
  rfl

/-- A sequence in progress takes the bytes it owes, or is reported at its
lead byte when they do not come. -/
theorem decodeFrom_sequence (offset : Nat) {q : Sequence} (hq : 1 ≤ q.owed)
    (d : Bytes) :
    (∃ tail rest, d = tail ++ rest ∧ List.Forall₂ InRange tail q.ranges
        ∧ decodeFrom offset (some q) d
          = (decodeFrom (offset + q.owed) none rest).map
              (.ofNat (q.number tail) :: ·))
      ∨ (∃ flaw, decodeFrom offset (some q) d = .error ⟨flaw, q.start⟩)
        ∧ ∀ tail rest, d = tail ++ rest →
            ¬ List.Forall₂ InRange tail q.ranges := by
  induction d generalizing offset q with
  | nil =>
      refine .inr ⟨⟨.truncated, by rw [decodeFrom]⟩, fun tail rest h hr => ?_⟩
      rw [(List.append_eq_nil_iff.1 h.symm).1] at hr
      cases hr
  | cons byte d ih =>
      by_cases hbyte : q.low ≤ byte.toNat ∧ byte.toNat ≤ q.high
      case neg =>
        refine .inr ⟨⟨.continuation, ?_⟩, fun tail rest h hr => ?_⟩
        · rw [decodeFrom]
          exact if_neg hbyte
        · cases hr with
          | cons hfirst _ =>
              injection h with h
              exact hbyte (h ▸ hfirst)
      case pos =>
        have hstep : decodeFrom offset (some q) (byte :: d)
            = if q.owed ≤ 1 then
                (decodeFrom (offset + 1) none d).map
                  (.ofNat (q.number [byte]) :: ·)
              else decodeFrom (offset + 1) (some (q.next byte)) d := by
          rw [decodeFrom]
          exact if_pos hbyte
        by_cases howed : q.owed = 1
        · -- this is the last byte that the sequence owes
          rw [if_pos (Nat.le_of_eq howed)] at hstep
          refine .inl ⟨[byte], d, rfl, ?_, by rw [hstep, howed]⟩
          rw [Sequence.ranges_of_owed_one howed]
          exact .cons hbyte .nil
        · have hmore : 1 < q.owed := by omega
          have hnext : 1 ≤ (q.next byte).owed := by
            show 1 ≤ q.owed - 1
            omega
          have hoffset : offset + 1 + (q.next byte).owed = offset + q.owed := by
            show offset + 1 + (q.owed - 1) = offset + q.owed
            omega
          rw [if_neg (Nat.not_le.2 hmore)] at hstep
          rw [hstep, Sequence.ranges_next byte hmore]
          rcases ih (offset + 1) hnext with
            ⟨tail, rest, rfl, hr, heq⟩ | ⟨herr, hr⟩
          · rw [hoffset] at heq
            exact .inl ⟨byte :: tail, rest, rfl, .cons hbyte hr, heq⟩
          · refine .inr ⟨herr, fun tail rest h hranges => ?_⟩
            cases hranges with
            | cons _ hranges =>
                injection h with _ h
                exact hr _ rest h hranges

-- =========================================================== lead bytes

/-- What a lead byte says: how many bytes its sequence owes, the bits it
brings, and where the first of the owed bytes is narrowed. -/
theorem ofLead?_cases {offset b : Nat} {q : Sequence}
    (h : Sequence.ofLead? offset b = some q) :
    (0xC2 ≤ b ∧ b ≤ 0xDF ∧ q = ⟨offset, 1, 0x80, 0xBF, b - 0xC0⟩)
      ∨ (∃ low high, (0xE0 ≤ b ∧ b ≤ 0xEF)
          ∧ q = ⟨offset, 2, low, high, b - 0xE0⟩ ∧ 0x80 ≤ low ∧ high ≤ 0xBF
          ∧ (b = 0xE0 → low = 0xA0) ∧ (b = 0xED → high = 0x9F))
      ∨ ∃ low high, (0xF0 ≤ b ∧ b ≤ 0xF4)
          ∧ q = ⟨offset, 3, low, high, b - 0xF0⟩ ∧ 0x80 ≤ low ∧ high ≤ 0xBF
          ∧ (b = 0xF0 → low = 0x90) ∧ (b = 0xF4 → high = 0x8F) := by
  unfold Sequence.ofLead? at h
  split at h
  · cases h
  split at h
  · cases h
    exact .inl ⟨by omega, by omega, rfl⟩
  split at h
  · cases h
    exact .inr (.inl ⟨0xA0, 0xBF, by omega, by simp [*], by omega⟩)
  split at h
  · cases h
    exact .inr (.inl ⟨0x80, 0x9F, by omega, rfl, by omega⟩)
  split at h
  · cases h
    exact .inr (.inl ⟨0x80, 0xBF, by omega, rfl, by omega⟩)
  split at h
  · cases h
    exact .inr (.inr ⟨0x90, 0xBF, by omega, by simp [*], by omega⟩)
  split at h
  · cases h
    exact .inr (.inr ⟨0x80, 0xBF, by omega, rfl, by omega⟩)
  split at h
  · cases h
    exact .inr (.inr ⟨0x80, 0x8F, by omega, rfl, by omega⟩)
  · cases h

theorem owed_of_ofLead? {offset b : Nat} {q : Sequence}
    (h : Sequence.ofLead? offset b = some q) :
    1 ≤ q.owed ∧ q.start = offset := by
  rcases ofLead?_cases h with
    ⟨-, -, rfl⟩ | ⟨_, _, -, rfl, -⟩ | ⟨_, _, -, rfl, -⟩
  · exact ⟨Nat.le_refl 1, rfl⟩
  · exact ⟨Nat.le_add_left 1 1, rfl⟩
  · exact ⟨Nat.le_add_left 1 2, rfl⟩

/-- As many bytes come behind a lead byte as its sequence owes. -/
theorem length_tail {q : Sequence} (hq : 1 ≤ q.owed) {tail : Bytes}
    (h : List.Forall₂ InRange tail q.ranges) : tail.length = q.owed := by
  rw [h.length_eq]
  unfold Sequence.ranges
  rw [List.length_cons, List.length_replicate]
  omega

/-- The bytes that come behind a lead byte are those that the sequence it
opens owes. -/
theorem isCharacter_cons_iff (offset : Nat) {b : UInt8} (hb : 0x80 ≤ b.toNat)
    {tail : Bytes} :
    IsCharacter (b :: tail) ↔ ∃ q, Sequence.ofLead? offset b.toNat = some q
      ∧ List.Forall₂ InRange tail q.ranges := by
  constructor
  · rintro ⟨row, hrow, hranges⟩
    simp only [rows, List.mem_cons, List.not_mem_nil, or_false] at hrow
    unfold Sequence.ofLead?
    cases hranges with
    | cons hlead htail =>
        obtain ⟨hlow, hhigh⟩ := hlead
        simp only [List.cons.injEq, Prod.ext_iff] at hrow
        rcases hrow with ⟨⟨h, h'⟩, rfl⟩ | ⟨⟨h, h'⟩, rfl⟩ | ⟨⟨h, h'⟩, rfl⟩
          | ⟨⟨h, h'⟩, rfl⟩ | ⟨⟨h, h'⟩, rfl⟩ | ⟨⟨h, h'⟩, rfl⟩ | ⟨⟨h, h'⟩, rfl⟩
          | ⟨⟨h, h'⟩, rfl⟩ | ⟨⟨h, h'⟩, rfl⟩
        · omega
        · exact ⟨⟨offset, 1, 0x80, 0xBF, b.toNat - 0xC0⟩, by grind, htail⟩
        · exact ⟨⟨offset, 2, 0xA0, 0xBF, 0⟩, by grind, htail⟩
        · exact ⟨⟨offset, 2, 0x80, 0xBF, b.toNat - 0xE0⟩, by grind, htail⟩
        · exact ⟨⟨offset, 2, 0x80, 0x9F, b.toNat - 0xE0⟩, by grind, htail⟩
        · exact ⟨⟨offset, 2, 0x80, 0xBF, b.toNat - 0xE0⟩, by grind, htail⟩
        · exact ⟨⟨offset, 3, 0x90, 0xBF, 0⟩, by grind, htail⟩
        · exact ⟨⟨offset, 3, 0x80, 0xBF, b.toNat - 0xF0⟩, by grind, htail⟩
        · exact ⟨⟨offset, 3, 0x80, 0x8F, b.toNat - 0xF0⟩, by grind, htail⟩
  · rintro ⟨q, hq, htail⟩
    -- the row is found by the lead byte
    have hrow : ∀ low high, low ≤ b.toNat ∧ b.toNat ≤ high →
        (low, high) :: q.ranges ∈ rows → IsCharacter (b :: tail) :=
      fun low high hlead hmem => ⟨_, hmem, .cons hlead htail⟩
    unfold Sequence.ofLead? at hq
    split at hq
    · cases hq
    split at hq
    · cases hq
      exact hrow 0xC2 0xDF (by omega) (by simp [rows, Sequence.ranges])
    split at hq
    · cases hq
      exact hrow 0xE0 0xE0 (by omega) (by simp [rows, Sequence.ranges])
    split at hq
    · cases hq
      exact hrow 0xED 0xED (by omega) (by simp [rows, Sequence.ranges])
    split at hq
    · cases hq
      by_cases h : b.toNat < 0xED
      · exact hrow 0xE1 0xEC (by omega) (by simp [rows, Sequence.ranges])
      · exact hrow 0xEE 0xEF (by omega) (by simp [rows, Sequence.ranges])
    split at hq
    · cases hq
      exact hrow 0xF0 0xF0 (by omega) (by simp [rows, Sequence.ranges])
    split at hq
    · cases hq
      exact hrow 0xF1 0xF3 (by omega) (by simp [rows, Sequence.ranges])
    split at hq
    · cases hq
      exact hrow 0xF4 0xF4 (by omega) (by simp [rows, Sequence.ranges])
    · cases hq

/-- A sequence that its lead byte opened comes to the character that is
encoded by the bytes. -/
theorem character_of_sequence {offset : Nat} {b : UInt8} {q : Sequence}
    (hq : Sequence.ofLead? offset b.toNat = some q) {tail : Bytes}
    (htail : List.Forall₂ InRange tail q.ranges) :
    ∃ c, CodePoint.ofNat (q.number tail) = .scalar c
      ∧ String.utf8EncodeChar c = b :: tail := by
  rcases ofLead?_cases hq with ⟨hb, hb', rfl⟩
    | ⟨low, high, hb, rfl, hmin, hmax, hlow, hhigh⟩
    | ⟨low, high, hb, rfl, hmin, hmax, hlow, hhigh⟩
  · match tail, htail with
    | [x], .cons hx .nil => exact character_of_two ⟨hb, hb'⟩ hx
  · match tail, htail with
    | [x, y], .cons ⟨hx, hx'⟩ (.cons hy .nil) =>
      dsimp only at hx hx'
      exact character_of_three hb ⟨by omega, by omega⟩ (by omega) (by omega) hy
  · match tail, htail with
    | [x, y, z], .cons ⟨hx, hx'⟩ (.cons hy (.cons hz .nil)) =>
      dsimp only at hx hx'
      exact character_of_four hb ⟨by omega, by omega⟩ (by omega) (by omega) hy
        hz

/-- A well-formed sequence is what some character is encoded as. -/
theorem isCharacter_iff {bytes : Bytes} :
    IsCharacter bytes ↔ ∃ c, String.utf8EncodeChar c = bytes := by
  constructor
  · intro h
    cases bytes with
    | nil =>
        obtain ⟨row, hrow, hranges⟩ := h
        cases hranges
        simp [rows] at hrow
    | cons b tail =>
        by_cases hb : b.toNat < 0x80
        · rw [nil_of_isCharacter_ascii hb h]
          exact ⟨_, utf8EncodeChar_ascii hb⟩
        · obtain ⟨q, hq, hranges⟩ :=
            (isCharacter_cons_iff 0 (Nat.not_lt.1 hb)).1 h
          obtain ⟨c, -, hc⟩ := character_of_sequence hq hranges
          exact ⟨c, hc⟩
  · rintro ⟨c, rfl⟩
    exact isCharacter_utf8EncodeChar c

-- ============================================================= decoding

/-- What the decoder does between characters: it is done, or it takes one
character, or no character starts here and it reports that. -/
theorem decodeFrom_cases (offset : Nat) (d : Bytes) :
    d = []
      ∨ (∃ c rest, d = String.utf8EncodeChar c ++ rest
          ∧ decodeFrom offset none d
            = (decodeFrom (offset + (String.utf8EncodeChar c).length) none
                rest).map (.scalar c :: ·))
      ∨ (∃ flaw, decodeFrom offset none d = .error ⟨flaw, offset⟩)
          ∧ ∀ bytes rest, d = bytes ++ rest → ¬ IsCharacter bytes := by
  cases d with
  | nil => exact .inl rfl
  | cons b d =>
      right
      rw [decodeFrom]
      by_cases hb : b.toNat < 0x80
      · -- a character of one byte
        have hc : CodePoint.ofNat b.toNat = .scalar (Char.ofNat b.toNat) := by
          unfold CodePoint.ofNat
          rw [if_neg (by omega)]
        rw [if_pos hb, hc]
        refine .inl ⟨Char.ofNat b.toNat, d, ?_, ?_⟩
        · rw [utf8EncodeChar_ascii hb, List.cons_append, List.nil_append]
        · rw [utf8EncodeChar_ascii hb]
          rfl
      rw [if_neg hb]
      have hchar : ∀ tail, IsCharacter (b :: tail) ↔ _ := fun _ =>
        isCharacter_cons_iff offset (Nat.not_lt.1 hb)
      cases hq : Sequence.ofLead? offset b.toNat with
      | none =>
          refine .inr ⟨⟨.start, rfl⟩, fun bytes rest h hbytes => ?_⟩
          obtain ⟨tail, rfl, -⟩ := hbytes.exists_tail h
          obtain ⟨q, hq', -⟩ := (hchar tail).1 hbytes
          rw [hq] at hq'
          cases hq'
      | some q =>
          obtain ⟨howed, hstart⟩ := owed_of_ofLead? hq
          rcases decodeFrom_sequence (offset + 1) howed d with
            ⟨tail, rest, rfl, hranges, hdecode⟩ | ⟨⟨flaw, hdecode⟩, hranges⟩
          · obtain ⟨c, hc, hbytes⟩ := character_of_sequence hq hranges
            refine .inl ⟨c, rest, by rw [hbytes, List.cons_append], ?_⟩
            dsimp only
            rw [hdecode, hc, hbytes, List.length_cons,
              length_tail howed hranges, Nat.add_right_comm, Nat.add_assoc]
          · refine .inr ⟨⟨flaw, ?_⟩, fun bytes rest h hbytes => ?_⟩
            · dsimp only
              rw [hdecode, hstart]
            obtain ⟨tail, rfl, htail⟩ := hbytes.exists_tail h
            obtain ⟨q', hq', hranges'⟩ := (hchar tail).1 hbytes
            rw [hq] at hq'
            injection hq' with hq'
            subst hq'
            exact hranges tail rest htail hranges'

/-- The decoder goes through whole characters. -/
theorem decodeFrom_append (offset : Nat) (cs : List Char) (d : Bytes) :
    decodeFrom offset none (cs.flatMap String.utf8EncodeChar ++ d)
      = (decodeFrom (offset + (cs.flatMap String.utf8EncodeChar).length) none
          d).map (cs.map .scalar ++ ·) := by
  induction cs generalizing offset with
  | nil =>
      cases h : decodeFrom offset none d <;> simp [h, Except.map]
  | cons c cs ih =>
      rw [List.flatMap_cons, List.append_assoc]
      rcases decodeFrom_cases offset (String.utf8EncodeChar c
        ++ (cs.flatMap String.utf8EncodeChar ++ d)) with
        h | ⟨c', rest, h, hdecode⟩ | ⟨-, h⟩
      · exact absurd (List.append_eq_nil_iff.1 h).1 String.utf8EncodeChar_ne_nil
      · obtain rfl := eq_of_utf8EncodeChar_append h
        rw [hdecode, ← List.append_cancel_left h, ih, List.length_append,
          ← Nat.add_assoc]
        cases decodeFrom _ none d <;> rfl
      · exact absurd (isCharacter_utf8EncodeChar c) (h _ _ rfl)

theorem decodeFrom_flatMap (offset : Nat) (cs : List Char) :
    decodeFrom offset none (cs.flatMap String.utf8EncodeChar)
      = .ok (cs.map .scalar) := by
  have h := decodeFrom_append offset cs []
  rw [List.append_nil, decodeFrom, Except.map, List.append_nil] at h
  exact h

/-- Decoding undoes encoding, and nothing else is decoded. -/
theorem decodeFrom_eq_ok_iff {offset : Nat} {d : Bytes} {t : Text} :
    decodeFrom offset none d = .ok t ↔ encode t = some d := by
  rw [encode_eq_some_iff]
  constructor
  · -- one character after another, the bytes that are left get fewer
    intro h
    induction hn : d.length using Nat.strongRecOn generalizing offset d t with
    | ind n ih =>
      rcases decodeFrom_cases offset d with rfl | ⟨c, rest, rfl, hdecode⟩
        | ⟨⟨flaw, herror⟩, -⟩
      · rw [decodeFrom] at h
        injection h with h
        exact ⟨[], h.symm, rfl⟩
      · rw [hdecode] at h
        cases hrest : decodeFrom (offset + (String.utf8EncodeChar c).length)
            none rest with
        | error e =>
            rw [hrest] at h
            cases h
        | ok u =>
            rw [hrest] at h
            injection h with h
            have hpos : 0 < (String.utf8EncodeChar c).length :=
              List.length_pos_iff.2 String.utf8EncodeChar_ne_nil
            rw [List.length_append] at hn
            obtain ⟨cs, rfl, rfl⟩ := ih rest.length (by omega) hrest rfl
            exact ⟨c :: cs, h.symm, rfl⟩
      · rw [herror] at h
        cases h
  · rintro ⟨cs, rfl, rfl⟩
    exact decodeFrom_flatMap offset cs

theorem decode_eq_ok_iff {d : Bytes} {t : Text} :
    decode d = .ok t ↔ encode t = some d :=
  decodeFrom_eq_ok_iff

/-- Well-formed bytes are those that encode a text. -/
theorem wellFormed_iff {d : Bytes} :
    WellFormed d ↔ ∃ t, encode t = some d := by
  constructor
  · rintro ⟨characters, rfl, hall⟩
    induction characters with
    | nil => exact ⟨[], rfl⟩
    | cons bytes characters ih =>
        obtain ⟨hbytes, hrest⟩ := List.forall_mem_cons.1 hall
        obtain ⟨c, rfl⟩ := isCharacter_iff.1 hbytes
        obtain ⟨t, ht⟩ := ih hrest
        refine ⟨.scalar c :: t, ?_⟩
        rw [encode, encodePoint_scalar, ht, List.flatten_cons]
  · rintro ⟨t, ht⟩
    obtain ⟨cs, -, rfl⟩ := encode_eq_some_iff.1 ht
    refine ⟨cs.map String.utf8EncodeChar, List.flatMap_def.symm, ?_⟩
    intro bytes h
    obtain ⟨c, -, rfl⟩ := List.mem_map.1 h
    exact isCharacter_utf8EncodeChar c

end Marginalia.Utf8
