/-
Lower-casing over all of Unicode. Most letters have one partner; the dotted
capital I becomes an i and a combining dot, and the capital sigma becomes
the final form at the end of a word: when the nearest letter before it,
passing over the ignorable marks, is cased, and the nearest one after it is
not.
-/
import Marginalia.Text.CodePoint
import Marginalia.Text.CaseTable

namespace Marginalia

namespace CodePoint

-- ============================================================ classes

/-- Does the number lie in one of the closed ranges? -/
def inRanges (ranges : List (Nat × Nat)) (n : Nat) : Bool :=
  ranges.any fun r => r.1 ≤ n && n ≤ r.2

/-- Is this a cased letter? -/
def isCased (c : CodePoint) : Bool := inRanges Text.casedRanges c.toNat

/-- Is this passed over when the letters around a sigma are looked at? -/
def isCaseIgnorable (c : CodePoint) : Bool :=
  inRanges Text.caseIgnorableRanges c.toNat

-- ============================================================ letters

/-- The lower-case partner of a code point, itself when it has none. -/
def lowerPartner (c : CodePoint) : CodePoint :=
  let n := c.toNat
  match Text.caseRuns.find? fun r =>
      r.first ≤ n && n ≤ r.last && (n - r.first) % r.step == 0 with
  | some r => .ofNat (n + r.offset).toNat
  | none => c

end CodePoint

namespace Text

/-- Does the nearest code point that is not ignorable exist and have
case? -/
def nearestIsCased (t : Text) : Bool :=
  match t.find? (fun c => !c.isCaseIgnorable) with
  | some c => c.isCased
  | none => false

/-- Lower-cases a text, given the code points before it from the nearest
one outwards. -/
def lowerAfter (before : Text) : Text → Text
  | [] => []
  | c :: t =>
    let lowered : Text :=
      if c.toNat = 0x130 then [.ofNat 0x69, .ofNat 0x307]
      else if c.toNat = 0x3A3 then
        if nearestIsCased before && !nearestIsCased t then [.ofNat 0x3C2]
        else [.ofNat 0x3C3]
      else if c.toNat < 0x80 then
        [if 0x41 ≤ c.toNat ∧ c.toNat ≤ 0x5A then .ofNat (c.toNat + 32) else c]
      else [c.lowerPartner]
    lowered ++ lowerAfter (c :: before) t

/-- The text in lower case. -/
def lower (t : Text) : Text := lowerAfter [] t

end Text

end Marginalia
