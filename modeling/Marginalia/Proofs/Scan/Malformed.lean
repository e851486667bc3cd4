/-
Where bytes stop being a text. The first ill-formed sequence of some bytes
stands where whole characters end and no character starts (`IllFormedAt`); it
is the place that the decoder reports, and the only such place
(`error_iff_illFormedAt`).

A byte order mark is taken off before the bytes are decoded. The place is
reported as it is counted behind the mark: in bytes that start with one the
sequence stands three bytes further on.
-/
import Marginalia.Proofs.Scan.Bytes

namespace Marginalia

namespace Utf8

-- ============================================================== places

/-- The first ill-formed sequence of the bytes stands at `k`: before it there
are whole characters, and none starts there, though bytes are left. -/
structure IllFormedAt (d : Bytes) (k : Nat) : Prop where
  lt_length : k < d.length
  before : WellFormed (d.take k)
  starts : ∀ bytes rest, d.drop k = bytes ++ rest → ¬ IsCharacter bytes

theorem WellFormed.append {d d' : Bytes} (h : WellFormed d)
    (h' : WellFormed d') : WellFormed (d ++ d') := by
  obtain ⟨characters, rfl, hall⟩ := h
  obtain ⟨characters', rfl, hall'⟩ := h'
  refine ⟨characters ++ characters', List.flatten_append, fun c hc => ?_⟩
  exact (List.mem_append.1 hc).elim (hall c) (hall' c)

/-- Whole characters before some bytes move their first ill-formed
sequence. -/
theorem IllFormedAt.append {d d' : Bytes} {k : Nat} (hd : WellFormed d)
    (h : IllFormedAt d' k) : IllFormedAt (d ++ d') (d.length + k) where
  lt_length := by
    rw [List.length_append]
    exact Nat.add_lt_add_left h.lt_length _
  before := by
    rw [List.take_length_add_append]
    exact hd.append h.before
  starts := by
    rw [List.drop_length_add_append]
    exact h.starts

theorem wellFormed_utf8EncodeChar (c : Char) :
    WellFormed (String.utf8EncodeChar c) := by
  refine ⟨[String.utf8EncodeChar c], List.flatten_singleton, ?_⟩
  exact List.forall_mem_singleton.2 (isCharacter_utf8EncodeChar c)

-- ============================================================ decoding

/-- What the decoder reports is a first ill-formed sequence. -/
theorem illFormedAt_of_error {offset : Nat} {d : Bytes} {e : Malformed}
    (h : decodeFrom offset none d = .error e) :
    ∃ k, e.offset = offset + k ∧ IllFormedAt d k := by
  -- one character after another, the bytes that are left get fewer
  induction hn : d.length using Nat.strongRecOn generalizing offset d with
  | ind n ih =>
    rcases decodeFrom_cases offset d with rfl | ⟨c, rest, rfl, hdecode⟩
      | ⟨⟨flaw, herror⟩, hnone⟩
    · cases h
    · rw [hdecode] at h
      cases hrest : decodeFrom (offset + (String.utf8EncodeChar c).length)
          none rest with
      | ok t =>
          rw [hrest] at h
          cases h
      | error e' =>
          rw [hrest] at h
          cases h
          have hpos : 0 < (String.utf8EncodeChar c).length :=
            List.length_pos_iff.2 String.utf8EncodeChar_ne_nil
          rw [List.length_append] at hn
          obtain ⟨k, hk, hat⟩ := ih rest.length (by omega) hrest rfl
          refine ⟨_, ?_, hat.append (wellFormed_utf8EncodeChar c)⟩
          omega
    · rw [herror] at h
      cases h
      have hne : d ≠ [] := by
        rintro rfl
        cases herror
      exact ⟨0, rfl, List.length_pos_iff.2 hne, ⟨[], rfl, by simp⟩, hnone⟩

/-- The first ill-formed sequence is what the decoder reports. -/
theorem error_of_illFormedAt (offset : Nat) {d : Bytes} {k : Nat}
    (h : IllFormedAt d k) :
    ∃ flaw, decodeFrom offset none d = .error ⟨flaw, offset + k⟩ := by
  obtain ⟨t, ht⟩ := wellFormed_iff.1 h.before
  obtain ⟨cs, -, hcs⟩ := encode_eq_some_iff.1 ht
  have hlength : (cs.flatMap String.utf8EncodeChar).length = k := by
    rw [← hcs, List.length_take, Nat.min_eq_left (Nat.le_of_lt h.lt_length)]
  rcases decodeFrom_cases (offset + k) (d.drop k) with
    hnil | ⟨c, rest, hc, -⟩ | ⟨⟨flaw, herror⟩, -⟩
  · exact absurd (List.drop_eq_nil_iff.1 hnil) (Nat.not_le.2 h.lt_length)
  · exact absurd (isCharacter_utf8EncodeChar c) (h.starts _ _ hc)
  · refine ⟨flaw, ?_⟩
    rw [← List.take_append_drop k d, hcs, decodeFrom_append, hlength, herror]
    rfl

/-- There is but one first ill-formed sequence. -/
theorem IllFormedAt.unique {d : Bytes} {j k : Nat} (hj : IllFormedAt d j)
    (hk : IllFormedAt d k) : j = k := by
  obtain ⟨_, hreported⟩ := error_of_illFormedAt 0 hj
  obtain ⟨_, hreported'⟩ := error_of_illFormedAt 0 hk
  rw [hreported, Except.error.injEq, Malformed.mk.injEq] at hreported'
  omega

theorem illFormedAt_of_decode {d : Bytes} {flaw : Malformed}
    (h : decode d = .error flaw) : IllFormedAt d flaw.offset := by
  obtain ⟨k, hk, hat⟩ := illFormedAt_of_error h
  rwa [hk, Nat.zero_add]

theorem wellFormed_mark : WellFormed mark :=
  wellFormed_utf8EncodeChar '\uFEFF'

end Utf8

namespace Scan

open Utf8 (Bytes IllFormedAt)

-- ============================================================ messages

/-- Bytes without a zero byte are refused for what stands behind their byte
order mark. -/
theorem error_of_decode {d : Bytes} (hzero : 0 ∉ d) {e : ScanError}
    (h : decode d = .error e) : ∃ flaw,
      e = .notUtf8 flaw ∧ Utf8.decode (Utf8.dropMark d) = .error flaw := by
  unfold decode at h
  rw [if_neg fun hd => hzero (List.contains_iff_mem.1 hd)] at h
  cases hd : Utf8.decode (Utf8.dropMark d) with
  | ok t =>
      rw [hd] at h
      cases h
  | error flaw =>
      rw [hd] at h
      cases h
      exact ⟨flaw, rfl, rfl⟩

/-- The refusal of bytes is what a scan of them reports, also of a file that
holds them. -/
theorem scanSource_of_refused {d : Bytes} {e : ScanError}
    (h : decode d = .error e) (o : ScanOptions) (w : Workspace) (file : Text)
    (language : Option Text) :
    o.scanSource w ⟨file, language, .bytes d⟩ = .error (.reported ⟨file, e⟩)
      ∧ ∀ p, w.bytesAt p = .ok d → o.scanSource w ⟨file, language, .path p⟩
        = .error (.reported ⟨file, e⟩) := by
  constructor
  · simp only [ScanOptions.scanSource, ScanOptions.scanBytes, h, Except.map]
  · intro p hp
    simp only [ScanOptions.scanSource, ScanOptions.scanPath,
      ScanOptions.scanBytes, hp, h, Except.map]

/-- Bytes without a zero byte that are refused have one first ill-formed
sequence, and the message names its place as it is counted behind the byte
order mark: where there is a mark the sequence stands three bytes further on,
and where there is none it stands there. Every scan of the bytes reports
that. -/
theorem flaw_located {d : Bytes} (hzero : 0 ∉ d) {e : ScanError}
    (h : decode d = .error e) :
    ∃ flaw : Utf8.Malformed, e = .notUtf8 flaw
      ∧ e.message = "not valid UTF-8 text (" ++ flaw.flaw.reason
        ++ " at byte " ++ Text.ofNat flaw.offset ++ ")"
      ∧ (∀ rest, d = Utf8.mark ++ rest →
        ∀ k, IllFormedAt d k ↔ k = 3 + flaw.offset)
      ∧ ((∀ rest, d ≠ Utf8.mark ++ rest) →
        ∀ k, IllFormedAt d k ↔ k = flaw.offset)
      ∧ ∀ (o : ScanOptions) (w : Workspace) (file : Text)
          (language : Option Text),
        o.scanSource w ⟨file, language, .bytes d⟩
            = .error (.reported ⟨file, e⟩)
          ∧ ∀ p, w.bytesAt p = .ok d →
            o.scanSource w ⟨file, language, .path p⟩
              = .error (.reported ⟨file, e⟩) := by
  obtain ⟨flaw, rfl, hflaw⟩ := error_of_decode hzero h
  have hat := Utf8.illFormedAt_of_decode hflaw
  have honly : ∀ {j}, IllFormedAt d j → ∀ k, IllFormedAt d k ↔ k = j :=
    fun hj k => ⟨fun hk => hk.unique hj, fun hk => hk ▸ hj⟩
  refine ⟨flaw, rfl, rfl, ?_, fun hmark => ?_, scanSource_of_refused h⟩
  · rintro rest rfl
    exact honly (hat.append Utf8.wellFormed_mark)
  · rw [Utf8.dropMark_of_not_mark hmark] at hat
    exact honly hat

/-- Behind a mark and an accented e, the last two bytes of three that are
owed: the message says 2 where the sequence stands at 5. -/
theorem flaw_located_marked :
    let d : Bytes := Utf8.mark ++ [0xC3, 0xA9, 0xE2, 0x82]
    0 ∉ d ∧ decode d = .error (.notUtf8 ⟨.truncated, 2⟩)
      ∧ ∀ k, IllFormedAt d k ↔ k = 5 := by
  intro d
  have hzero : 0 ∉ d := by decide
  have hdecode : decode d = .error (.notUtf8 ⟨.truncated, 2⟩) := by decide
  obtain ⟨flaw, hflaw, -, hmarked, -⟩ := flaw_located hzero hdecode
  cases hflaw
  exact ⟨hzero, hdecode, hmarked _ rfl⟩

/-- The place that is reported need not be that of the sequence: behind a mark
a byte that starts no character is reported at the place of the mark, which is
a character. -/
theorem flaw_misplaced :
    let d : Bytes := Utf8.mark ++ [0xFF]
    0 ∉ d ∧ decode d = .error (.notUtf8 ⟨.start, 0⟩)
      ∧ ScanError.message (.notUtf8 ⟨.start, 0⟩)
        = "not valid UTF-8 text (invalid start byte at byte 0)"
      ∧ Utf8.IsCharacter (d.take 3) ∧ ¬ IllFormedAt d 0 := by
  intro d
  have hmark : Utf8.IsCharacter (d.take 3) :=
    Utf8.isCharacter_utf8EncodeChar '\uFEFF'
  exact ⟨by decide, by decide, by decide, hmark,
    fun h => h.starts (d.take 3) (d.drop 3) rfl hmark⟩

end Scan

end Marginalia
