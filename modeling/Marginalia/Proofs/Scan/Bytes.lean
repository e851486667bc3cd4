/-
Scanning bytes. A file is read as UTF-8: the bytes of a text give that text
back, whether a byte order mark stands before them or not, so a scan of the
bytes is a scan of the text. Only one mark is taken off, and no other one is;
a text that starts with the mark itself is the one case in which the bytes
without it stand for another text.

What is no text is refused, and only that: bytes with a zero among them, and
bytes that are not well-formed.
-/
import Marginalia.Batch
import Marginalia.Proofs.Utf8.Decoding

namespace Marginalia

namespace Utf8

-- ===================================================== byte order marks

/-- The bytes of a byte order mark. -/
def mark : Bytes := [0xEF, 0xBB, 0xBF]

theorem dropMark_mark (d : Bytes) : dropMark (mark ++ d) = d := rfl

/-- Bytes that do not start with a mark are kept. -/
theorem dropMark_of_not_mark {d : Bytes} (h : ∀ rest, d ≠ mark ++ rest) :
    dropMark d = d := by
  fun_cases dropMark d with
  | case1 rest => exact absurd rfl (h rest)
  | case2 => rfl

/-- Only a text that starts with the mark is encoded as such. -/
theorem head?_of_encode_mark {t : Text} {rest : Bytes}
    (h : encode t = some (mark ++ rest)) :
    t.head? = some (.scalar '\uFEFF') := by
  obtain ⟨cs, rfl, hbytes⟩ := encode_eq_some_iff.1 h
  cases cs with
  | nil => cases hbytes
  | cons c cs =>
      have hmark : String.utf8EncodeChar '\uFEFF' ++ rest
          = String.utf8EncodeChar c ++ cs.flatMap String.utf8EncodeChar :=
        hbytes
      rw [← eq_of_utf8EncodeChar_append hmark]
      rfl

/-- Only a text with NUL in it has a zero byte. -/
theorem zero_mem_of_encode {t : Text} {d : Bytes} (h : encode t = some d)
    (hzero : 0 ∈ d) : .scalar '\x00' ∈ t := by
  obtain ⟨cs, rfl, rfl⟩ := encode_eq_some_iff.1 h
  obtain ⟨c, hc, hbyte⟩ := List.mem_flatMap.1 hzero
  have heq := (isCharacter_utf8EncodeChar c).eq_zero hbyte
  have hnul : String.utf8EncodeChar c ++ []
      = String.utf8EncodeChar '\x00' ++ [] := by
    rw [heq]
    rfl
  rw [← eq_of_utf8EncodeChar_append hnul]
  exact List.mem_map_of_mem hc

end Utf8

namespace Scan

open Utf8 (Bytes)

-- =========================================================== decoding

/-- Bytes are a text exactly when none is zero and those behind the mark are
the encoding of it. -/
theorem decode_eq_ok_iff {d : Bytes} {t : Text} :
    decode d = .ok t ↔ 0 ∉ d ∧ Utf8.encode t = some (Utf8.dropMark d) := by
  rw [← Utf8.decode_eq_ok_iff]
  unfold decode
  by_cases hzero : 0 ∈ d
  · rw [if_pos (List.contains_iff_mem.2 hzero)]
    constructor
    · intro h
      cases h
    · intro h
      exact absurd hzero h.1
  · rw [if_neg fun h => hzero (List.contains_iff_mem.1 h)]
    cases Utf8.decode (Utf8.dropMark d) with
    | ok u => simp [Except.mapError, hzero]
    | error flaw => simp [Except.mapError]

/-- Bytes that are no text are refused as such. -/
theorem refused_of_decode {d : Bytes} (h : ∀ t, decode d ≠ .ok t) :
    decode d = .error .binary ∨ ∃ flaw, decode d = .error (.notUtf8 flaw) := by
  unfold decode at h ⊢
  split at h
  · next hzero => exact .inl (if_pos hzero)
  · next hzero =>
    rw [if_neg hzero]
    cases hd : Utf8.decode (Utf8.dropMark d) with
    | ok t =>
        rw [hd] at h
        exact absurd rfl (h t)
    | error flaw => exact .inr ⟨flaw, rfl⟩

/-- The bytes of a text, with or without a mark, are read as the text, unless
it holds NUL or starts with the mark itself. -/
theorem decode_encoded {t : Text} (hnul : .scalar '\x00' ∉ t)
    (hmark : t.head? ≠ some (.scalar '\uFEFF')) {d : Bytes}
    (h : Utf8.encode t = some d) :
    decode d = .ok t ∧ decode (Utf8.mark ++ d) = .ok t := by
  have hzero : 0 ∉ d := fun hd => hnul (Utf8.zero_mem_of_encode h hd)
  constructor
  · apply decode_eq_ok_iff.2
    rw [Utf8.dropMark_of_not_mark]
    · exact ⟨hzero, h⟩
    · rintro rest rfl
      exact hmark (Utf8.head?_of_encode_mark h)
  · apply decode_eq_ok_iff.2
    rw [Utf8.dropMark_mark]
    refine ⟨fun hd => ?_, h⟩
    rcases List.mem_append.1 hd with hd | hd
    · exact absurd hd (by decide)
    · exact hzero hd

/-- A scan of bytes that are a text is a scan of that text. -/
theorem scanSource_of_decode {d : Bytes} {t : Text} (h : decode d = .ok t)
    (o : ScanOptions) (w : Workspace) (file : Text) (language : Option Text) :
    o.scanSource w ⟨file, language, .bytes d⟩
      = o.scanSource w ⟨file, language, .text t⟩ := by
  unfold ScanOptions.scanSource ScanOptions.scanBytes
  dsimp only
  rw [h]
  rfl

/-- A text without NUL that does not start with a byte order mark is read
from its bytes, with or without a mark before them, and scanned as such. Bytes
are a text exactly when none is zero and those behind one mark are
well-formed; then they are its encoding, and else they are refused. -/
theorem bytes_read :
    (∀ t : Text, .scalar '\x00' ∉ t → t.isEncodable = true →
        t.head? ≠ some (.scalar '\uFEFF') →
        ∃ d, Utf8.encode t = some d ∧ ∀ d' ∈ [d, Utf8.mark ++ d],
          decode d' = .ok t
            ∧ (∀ style report, (decode d').map (ofText style report)
                = .ok (ofText style report t))
            ∧ ∀ (o : ScanOptions) (w : Workspace) (file : Text)
                (language : Option Text),
              o.scanSource w ⟨file, language, .bytes d'⟩
                = o.scanSource w ⟨file, language, .text t⟩)
      ∧ ∀ d : Bytes,
        ((∃ t, decode d = .ok t) ↔ 0 ∉ d ∧ Utf8.WellFormed (Utf8.dropMark d))
        ∧ (∀ t, decode d = .ok t →
            Utf8.encode t = some (Utf8.dropMark d))
        ∧ ((0 ∈ d ∨ ¬ Utf8.WellFormed (Utf8.dropMark d)) →
            decode d = .error .binary
              ∨ ∃ flaw, decode d = .error (.notUtf8 flaw)) := by
  have hiff : ∀ d : Bytes, (∃ t, decode d = .ok t)
      ↔ 0 ∉ d ∧ Utf8.WellFormed (Utf8.dropMark d) := by
    intro d
    rw [Utf8.wellFormed_iff, ← exists_and_left]
    exact exists_congr fun t => decode_eq_ok_iff
  refine ⟨fun t hnul hencodable hmark => ?_, fun d => ⟨hiff d, ?_, ?_⟩⟩
  · obtain ⟨cs, rfl⟩ := Utf8.exists_scalars hencodable
    have hencode := Utf8.encode_scalars cs
    have hdecode := decode_encoded hnul hmark hencode
    refine ⟨_, hencode, fun d' hd' => ?_⟩
    have h : decode d' = .ok (cs.map .scalar) := by
      rcases List.mem_cons.1 hd' with rfl | hd'
      · exact hdecode.1
      · rw [List.mem_singleton.1 hd']
        exact hdecode.2
    refine ⟨h, fun style report => ?_, scanSource_of_decode h⟩
    rw [h]
    rfl
  · exact fun t h => (decode_eq_ok_iff.1 h).2
  · intro h
    apply refused_of_decode
    intro t ht
    obtain ⟨hzero, hformed⟩ := (hiff d).1 ⟨t, ht⟩
    exact h.elim hzero fun hno => hno hformed

/-- Behind a mark, an accented e and a second mark are a text that has both,
and an encoded half of a surrogate pair is none. -/
theorem bytes_read_marked :
    decode (Utf8.mark ++ [0xC3, 0xA9, 0xEF, 0xBB, 0xBF])
        = .ok [.scalar 'é', .scalar '\uFEFF']
      ∧ ∃ flaw, decode (Utf8.mark ++ [0xED, 0xA0, 0x80])
          = .error (.notUtf8 flaw) := by
  constructor
  · obtain ⟨d, hd, hall⟩ :=
      bytes_read.1 [.scalar 'é', .scalar '\uFEFF'] (by decide) rfl (by decide)
    have hbytes : Utf8.encode [.scalar 'é', .scalar '\uFEFF']
        = some [0xC3, 0xA9, 0xEF, 0xBB, 0xBF] := by decide
    rw [hbytes] at hd
    injection hd with hd
    subst hd
    exact (hall _ (by simp)).1
  · obtain ⟨hiff, -, hrefused⟩ :=
      bytes_read.2 (Utf8.mark ++ [0xED, 0xA0, 0x80])
    have hformed : ¬ Utf8.WellFormed [0xED, 0xA0, 0x80] := by
      intro h
      obtain ⟨t, ht⟩ := hiff.2 ⟨by decide, h⟩
      have hbad : decode (Utf8.mark ++ [0xED, 0xA0, 0x80])
          = .error (.notUtf8 ⟨.continuation, 0⟩) := by decide
      rw [hbad] at ht
      cases ht
    rcases hrefused (.inr hformed) with h | h
    · exact absurd h (by decide)
    · exact h

end Scan

end Marginalia
