/-
Text as a sequence of Unicode code points.

A code point is a scalar value, which every well-formed encoding can
carry, or one half of a surrogate pair standing alone. Halves never come
out of decoded bytes; only an escape such as `\ud800` inside a JSON string
can spell one, and then it is kept as it was written. Positions, columns
and comparisons all count code points, so both kinds share one carrier and
one numeric order.
-/

namespace Marginalia

-- ======================================================== code points

/-- A Unicode code point: a scalar value, or the surrogate numbered
`0xD800 + half`. -/
inductive CodePoint where
  | scalar (c : Char)
  | surrogate (half : Fin 0x800)
  deriving DecidableEq, Repr

namespace CodePoint

instance : Coe Char CodePoint := ⟨.scalar⟩

/-- The number of a code point, below `0x110000`. -/
def toNat : CodePoint → Nat
  | .scalar c => c.toNat
  | .surrogate half => 0xD800 + half.val

/-- The code point of a given number; numbers past the last code point
give NUL. -/
def ofNat (n : Nat) : CodePoint :=
  if 0xD800 ≤ n ∧ n ≤ 0xDFFF then
    .surrogate ⟨(n - 0xD800) % 0x800, Nat.mod_lt _ (by decide)⟩
  else
    .scalar (Char.ofNat n)

/-- Does this code point stand for half of a surrogate pair? -/
def isSurrogate : CodePoint → Bool
  | .scalar _ => false
  | .surrogate _ => true

/-- The ASCII digits. -/
def isDigit : CodePoint → Bool
  | .scalar c => '0' ≤ c && c ≤ '9'
  | .surrogate _ => false

/-- The ASCII letters. -/
def isLetter : CodePoint → Bool
  | .scalar c => ('a' ≤ c && c ≤ 'z') || ('A' ≤ c && c ≤ 'Z')
  | .surrogate _ => false

/-- The value of a hexadecimal digit, in either case. -/
def hexDigit? : CodePoint → Option Nat
  | .scalar c =>
    if '0' ≤ c && c ≤ '9' then some (c.toNat - 48)
    else if 'a' ≤ c && c ≤ 'f' then some (c.toNat - 87)
    else if 'A' ≤ c && c ≤ 'F' then some (c.toNat - 55)
    else none
  | .surrogate _ => none

/-- The hexadecimal digit of a value below sixteen, in lower case. -/
def ofHexDigit (n : Nat) : CodePoint :=
  if n < 10 then .ofNat (48 + n) else .ofNat (87 + n)

end CodePoint

-- =============================================================== text

/-- A text is a list of code points. -/
abbrev Text := List CodePoint

namespace Text

/-- The code points of a literal. -/
def ofString (s : String) : Text := s.toList.map .scalar

instance : Coe String Text := ⟨ofString⟩

/-- Holds when no code point of the text is a surrogate, so that the text
has a UTF-8 encoding. -/
def isEncodable (t : Text) : Bool := t.all fun c => !c.isSurrogate

/-- Lexicographic order by code point number. -/
def le : Text → Text → Bool
  | [], _ => true
  | _ :: _, [] => false
  | a :: s, b :: t => a.toNat < b.toNat || (a.toNat == b.toNat && le s t)

/-- The decimal digits of a natural number. -/
def ofNat (n : Nat) : Text := (Nat.toDigits 10 n).map .scalar

/-- The decimal digits of an integer, after a minus sign when it is
negative. -/
def ofInt : Int → Text
  | .ofNat n => ofNat n
  | .negSucc n => .scalar '-' :: ofNat (n + 1)

/-- The lower-case hexadecimal digits of `n`, exactly `width` of them. -/
def ofHex : Nat → Nat → Text
  | 0, _ => []
  | width + 1, n => ofHex width (n / 16) ++ [.ofHexDigit (n % 16)]

/-- The texts in order with a separator between neighbours. -/
def joinWith (separator : Text) : List Text → Text
  | [] => []
  | [t] => t
  | t :: ts => t ++ separator ++ joinWith separator ts

/-- The number a run of ASCII digits spells. -/
def digitsValue (t : Text) : Nat :=
  t.foldl (fun n c => 10 * n + (c.toNat - 48)) 0

-- ============================================================= search

/-- Does the text start with the pattern? -/
def startsWith (t pattern : Text) : Bool := pattern.isPrefixOf t

/-- Does the text end with the pattern? -/
def endsWith (t pattern : Text) : Bool := pattern.isSuffixOf t

/-- The text before and after the first occurrence of the pattern. -/
def cut? (pattern : Text) : Text → Option (Text × Text)
  | [] => if pattern.isEmpty then some ([], []) else none
  | c :: t =>
    if startsWith (c :: t) pattern then
      some ([], (c :: t).drop pattern.length)
    else
      match cut? pattern t with
      | some (before, after) => some (c :: before, after)
      | none => none

/-- A cut loses nothing: the pieces and the pattern make up the text. -/
theorem eq_of_cut? {pattern t before after : Text}
    (h : cut? pattern t = some (before, after)) :
    t = before ++ pattern ++ after := by
  induction t generalizing before with
  | nil =>
    simp only [cut?] at h
    split at h
    · next he => simp_all [List.isEmpty_iff]
    · simp at h
  | cons c t ih =>
    simp only [cut?] at h
    split at h
    · next hp =>
      simp only [Option.some.injEq, Prod.mk.injEq] at h
      obtain ⟨rfl, rfl⟩ := h
      have hp' : pattern <+: c :: t := List.isPrefixOf_iff_prefix.1 hp
      simpa using (List.prefix_iff_eq_append.1 hp').symm
    · split at h
      · next b a hc =>
        simp only [Option.some.injEq, Prod.mk.injEq] at h
        obtain ⟨rfl, rfl⟩ := h
        simp [ih hc]
      · simp at h

/-- The pieces of a text between the occurrences of a separator. -/
def splitOn (separator : CodePoint) : Text → List Text
  | [] => [[]]
  | c :: t =>
    if c = separator then [] :: splitOn separator t
    else match splitOn separator t with
      | [] => [[c]]
      | piece :: pieces => (c :: piece) :: pieces

end Text

end Marginalia
