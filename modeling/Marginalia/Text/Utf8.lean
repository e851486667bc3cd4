/-
UTF-8, read one byte at a time. Between characters only a lead byte may
come; it says how many continuation bytes it calls for and how far the
first of them may range, which rules out overlong forms, surrogates and
numbers past the last code point. A refused text names the first
ill-formed sequence by the offset of its lead byte and by what was wrong:
no sequence starts with that byte, a byte that was owed is missing from
its range, or the text ends while bytes are owed.
-/
import Marginalia.Text.CodePoint

namespace Marginalia.Utf8

/-- Bytes as they come from a file. -/
abbrev Bytes := List UInt8

-- =========================================================== encoding

/-- The bytes of one code point; a surrogate has none. -/
def encodePoint : CodePoint → Option Bytes
  | .surrogate _ => none
  | .scalar c =>
    let n := c.toNat
    let tail (shift : Nat) : UInt8 := .ofNat (0x80 + (n >>> shift) % 64)
    if n < 0x80 then some [.ofNat n]
    else if n < 0x800 then some [.ofNat (0xC0 + (n >>> 6)), tail 0]
    else if n < 0x10000 then
      some [.ofNat (0xE0 + (n >>> 12)), tail 6, tail 0]
    else some [.ofNat (0xF0 + (n >>> 18)), tail 12, tail 6, tail 0]

/-- The bytes of a text, unless it holds a surrogate. -/
def encode : Text → Option Bytes
  | [] => some []
  | c :: t =>
    match encodePoint c, encode t with
    | some bytes, some rest => some (bytes ++ rest)
    | _, _ => none

-- =========================================================== decoding

/-- What can be wrong with a sequence of bytes. -/
inductive Flaw where
  | start
  | continuation
  | truncated
  deriving DecidableEq, Repr

/-- The flaw in words. -/
def Flaw.reason : Flaw → Text
  | .start => "invalid start byte"
  | .continuation => "invalid continuation byte"
  | .truncated => "unexpected end of data"

/-- The first ill-formed sequence of a text. -/
structure Malformed where
  flaw : Flaw
  offset : Nat
  deriving DecidableEq, Repr

/-- A sequence in progress: where it started, how many continuation bytes
it still owes, the range of the next one, and the bits read so far. -/
structure Sequence where
  start : Nat
  owed : Nat
  low : Nat
  high : Nat
  bits : Nat
  deriving DecidableEq, Repr

/-- The sequence that a lead byte of `0x80` or more at `offset` opens. -/
def Sequence.ofLead? (offset b : Nat) : Option Sequence :=
  if b < 0xC2 then none
  else if b < 0xE0 then some ⟨offset, 1, 0x80, 0xBF, b - 0xC0⟩
  else if b = 0xE0 then some ⟨offset, 2, 0xA0, 0xBF, 0⟩
  else if b = 0xED then some ⟨offset, 2, 0x80, 0x9F, b - 0xE0⟩
  else if b < 0xF0 then some ⟨offset, 2, 0x80, 0xBF, b - 0xE0⟩
  else if b = 0xF0 then some ⟨offset, 3, 0x90, 0xBF, 0⟩
  else if b < 0xF4 then some ⟨offset, 3, 0x80, 0xBF, b - 0xF0⟩
  else if b = 0xF4 then some ⟨offset, 3, 0x80, 0x8F, b - 0xF0⟩
  else none

/-- Decodes from between characters (`none`) or from inside a sequence,
with `offset` bytes already read. -/
def decodeFrom (offset : Nat) : Option Sequence → Bytes → Except Malformed Text
  | none, [] => .ok []
  | some q, [] => .error ⟨.truncated, q.start⟩
  | none, byte :: rest =>
    let b := byte.toNat
    if b < 0x80 then
      (decodeFrom (offset + 1) none rest).map (.ofNat b :: ·)
    else
      match Sequence.ofLead? offset b with
      | none => .error ⟨.start, offset⟩
      | some q => decodeFrom (offset + 1) (some q) rest
  | some q, byte :: rest =>
    let b := byte.toNat
    if q.low ≤ b ∧ b ≤ q.high then
      let bits := q.bits * 64 + (b - 0x80)
      if q.owed ≤ 1 then
        (decodeFrom (offset + 1) none rest).map (.ofNat bits :: ·)
      else
        decodeFrom (offset + 1) (some ⟨q.start, q.owed - 1, 0x80, 0xBF, bits⟩)
          rest
    else .error ⟨.continuation, q.start⟩

/-- The text that the bytes encode, or the first flaw in them. -/
def decode (bytes : Bytes) : Except Malformed Text := decodeFrom 0 none bytes

/-- The bytes without a byte order mark at their start. -/
def dropMark : Bytes → Bytes
  | 0xEF :: 0xBB :: 0xBF :: rest => rest
  | bytes => bytes

end Marginalia.Utf8
