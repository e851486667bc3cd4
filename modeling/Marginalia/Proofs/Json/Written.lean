/-
Values written on one line, and what a walk makes of the text. Settled
values are those whose text says all there is to say: no number among them
is a float, no text holds the halves of a surrogate pair apart, no whole
number is too long, and no object has a key twice; `Exact` values have no
surrogates at all. What is written for a settled value is balanced to the
depth of the value, starts and ends with something visible, and holds no
control.
-/
import Marginalia.Proofs.Json.Strings
import Marginalia.Proofs.Json.Numeral
import Marginalia.Proofs.Text.Occurrence
import Marginalia.Proofs.Text.Trim

namespace Marginalia

-- ============================================================== joins

namespace Text

variable {separator : Text} {ts : List Text}

/-- What holds of the separator and of every text holds of their join, when
it holds of nothing and of two texts together. -/
theorem joinWith_of_forall {P : Text → Prop} (hnil : P [])
    (happend : ∀ t u, P t → P u → P (t ++ u)) (hsep : P separator)
    (h : ∀ t ∈ ts, P t) : P (joinWith separator ts) := by
  induction ts with
  | nil => exact hnil
  | cons t ts ih =>
      have ht := h t (List.mem_cons_self ..)
      cases ts with
      | nil => exact ht
      | cons u us =>
          rw [joinWith_cons_cons]
          refine happend _ _ ht (happend _ _ hsep (ih fun x hx => ?_))
          exact h x (List.mem_cons_of_mem _ hx)

/-- A join of some texts starts like the first of them. -/
theorem joinWith_head (separator : Text) (c : CodePoint) (t : Text)
    (us : List Text) :
    ∃ rest, joinWith separator ((c :: t) :: us) = c :: rest := by
  cases us with
  | nil => exact ⟨t, rfl⟩
  | cons u us => exact ⟨_, rfl⟩

theorem StartsVisible.joinWith {t : Text} (ht : StartsVisible t)
    (us : List Text) : StartsVisible (joinWith separator (t :: us)) := by
  obtain ⟨c, t, rfl, hc⟩ := ht
  obtain ⟨rest, hrest⟩ := joinWith_head separator c t us
  exact ⟨c, rest, hrest, hc⟩

end Text

namespace Json

-- ========================================================== one line

/-- A member of an object as it is written on one line. -/
def writeMember (f : Format) (m : Text × Json) : Text :=
  writeString f m.1 ++ (": " ++ write f m.2)

variable {f : Format}

theorem enclose_oneLine (hf : f.indent = none) (depth : Nat)
    (left right : CodePoint) (elements : List Text) :
    enclose f depth left right elements
      = left :: (Text.joinWith ", " elements ++ [right]) := by
  have hbreak : ∀ d, f.lineBreak d = [] := by
    intro d
    unfold Format.lineBreak
    rw [hf]
  have hsep : f.separator (depth + 1) = ", " := by
    unfold Format.separator
    rw [hf]
  unfold enclose
  cases elements with
  | nil => rfl
  | cons t ts =>
      rw [List.isEmpty_cons, if_neg Bool.false_ne_true, hbreak, hbreak, hsep,
        List.append_nil, List.append_nil]
      rfl

mutual

/-- On one line the depth of a value does not show. -/
theorem writeAt_oneLine (hf : f.indent = none) (depth : Nat) :
    (v : Json) → writeAt f depth v = write f v
  | .scalar s => rfl
  | .array items => by
      unfold write
      rw [writeAt, writeAt, enclose_oneLine hf, enclose_oneLine hf,
        writeItems_oneLine hf, writeItems_oneLine hf]
  | .object members => by
      unfold write
      rw [writeAt, writeAt, enclose_oneLine hf, enclose_oneLine hf,
        writeMembers_oneLine hf, writeMembers_oneLine hf]

theorem writeItems_oneLine (hf : f.indent = none) (depth : Nat) :
    (items : List Json) → writeItems f depth items = items.map (write f)
  | [] => rfl
  | v :: rest => by
      rw [writeItems, writeAt_oneLine hf, writeItems_oneLine hf, List.map_cons]

theorem writeMembers_oneLine (hf : f.indent = none) (depth : Nat) :
    (members : List (Text × Json)) →
      writeMembers f depth members = members.map (writeMember f)
  | [] => rfl
  | (k, v) :: rest => by
      rw [writeMembers, writeAt_oneLine hf, writeMembers_oneLine hf,
        List.map_cons, List.append_assoc]
      rfl

end

/-- An array on one line. -/
theorem write_array (hf : f.indent = none) (items : List Json) :
    write f (.array items)
      = .scalar '[' :: (Text.joinWith ", " (items.map (write f))
        ++ [.scalar ']']) := by
  unfold write
  rw [writeAt, enclose_oneLine hf, writeItems_oneLine hf]
  rfl

/-- An object on one line. -/
theorem write_object (hf : f.indent = none) (members : List (Text × Json)) :
    write f (.object members)
      = .scalar '\x7b' :: (Text.joinWith ", " (members.map (writeMember f))
        ++ [.scalar '\x7d']) := by
  unfold write
  rw [writeAt, enclose_oneLine hf, writeMembers_oneLine hf]

-- ======================================================= exact values

end Json

/-- A scalar without surrogates whose text says all there is to say of
it. -/
def Scalar.isExact : Scalar → Bool
  | .null => true
  | .bool _ => true
  | .int n => DigitLimit.canWrite n
  | .float _ => false
  | .str s => s.isEncodable

/-- Is this a number with a fraction or an exponent? -/
def Scalar.isFloat : Scalar → Bool
  | .float _ => true
  | _ => false

/-- A scalar that can be decoded from a text: a whole number is not too
long, and the halves of surrogate pairs are joined. -/
def Scalar.isDecoded : Scalar → Bool
  | .int n => DigitLimit.canWrite n
  | .str s => s.isJoined
  | _ => true

/-- A scalar whose text says all there is to say of it. -/
def Scalar.isSettled (s : Scalar) : Bool := s.isDecoded && !s.isFloat

theorem Scalar.isSettled_of_isExact {s : Scalar} (h : s.isExact = true) :
    s.isSettled = true := by
  cases s with
  | null => rfl
  | bool b => rfl
  | int n =>
      show (DigitLimit.canWrite n && true) = true
      rw [Bool.and_true]
      exact h
  | float x => cases h
  | str s =>
      show (s.isJoined && true) = true
      rw [Bool.and_true]
      exact Json.isJoined_of_isEncodable h

theorem Scalar.isDecoded_of_isSettled {s : Scalar} (h : s.isSettled = true) :
    s.isDecoded = true :=
  (Bool.and_eq_true_iff.1 h).1

namespace Json

variable {f : Format}

/-- A value made of scalars of a kind, with the keys of each object distinct
and arrays and objects at most `depth` deep inside each other. -/
inductive Made (p : Scalar → Bool) : Nat → Json → Prop
  | scalar {depth : Nat} {s : Scalar} (holds : p s = true) :
      Made p depth (.scalar s)
  | array {depth : Nat} {items : List Json}
      (items_made : ∀ v ∈ items, Made p depth v) :
      Made p (depth + 1) (.array items)
  | object {depth : Nat} {members : List (Text × Json)}
      (keys_distinct : (members.map (·.1)).Nodup)
      (keys_made : ∀ m ∈ members, p (.str m.1) = true)
      (values_made : ∀ m ∈ members, Made p depth m.2) :
      Made p (depth + 1) (.object members)

/-- A value without surrogates whose text says all there is to say of it,
with arrays and objects at most `depth` deep inside each other. -/
inductive Exact : Nat → Json → Prop
  | scalar {depth : Nat} {s : Scalar} (exact : s.isExact = true) :
      Exact depth (.scalar s)
  | array {depth : Nat} {items : List Json}
      (items_exact : ∀ v ∈ items, Exact depth v) :
      Exact (depth + 1) (.array items)
  | object {depth : Nat} {members : List (Text × Json)}
      (keys_distinct : (members.map (·.1)).Nodup)
      (keys_encodable : ∀ m ∈ members, m.1.isEncodable = true)
      (values_exact : ∀ m ∈ members, Exact depth m.2) :
      Exact (depth + 1) (.object members)

/-- An exact value is settled. -/
theorem Exact.settled {n : Nat} {v : Json} (h : Exact n v) :
    Made Scalar.isSettled n v := by
  induction h with
  | scalar exact => exact .scalar (Scalar.isSettled_of_isExact exact)
  | array _ ih => exact .array ih
  | object distinct encodable _ ih =>
      refine .object distinct (fun m hm => ?_) ih
      exact Scalar.isSettled_of_isExact (encodable m hm)

-- ============================================================== shape

/-- What a walk sees of a written value: it starts and ends with something
visible, at the start with an ASCII character that closes no array, it has
no control in it, and it is balanced. -/
structure Shaped (n : Nat) (t : Text) : Prop where
  starts : ∃ c rest, t = c :: rest ∧ c.isBlank = false ∧ c ≠ .scalar ']'
    ∧ c.toNat < 0x80
  ends : t.EndsVisible
  printed : t.Printed
  balanced : t.Balanced n

theorem Shaped.startsVisible {n : Nat} {t : Text} (h : Shaped n t) :
    t.StartsVisible := by
  obtain ⟨c, rest, heq, hc, -⟩ := h.starts
  exact ⟨c, rest, heq, hc⟩

/-- A code point of a word: it is visible, and no mark of JSON. -/
def IsWordPoint (c : CodePoint) : Prop :=
  c.isBlank = false ∧ Text.isBracket c = false ∧ c ≠ .scalar '"'
    ∧ 0x20 ≤ c.toNat ∧ c.toNat < 0x80

instance : DecidablePred IsWordPoint :=
  fun _ => inferInstanceAs (Decidable (_ ∧ _))

theorem isWordPoint_of_isDigit {c : CodePoint} (h : c.isDigit = true) :
    IsWordPoint c := by
  obtain ⟨hlow, hhigh⟩ := CodePoint.toNat_of_isDigit h
  have hne : ∀ d : CodePoint, d.toNat < 48 ∨ 57 < d.toNat → c ≠ d := by
    rintro d hd rfl
    omega
  refine ⟨?_, ?_, hne _ (by decide), by omega, by omega⟩
  · unfold CodePoint.isBlank CodePoint.isBlankNat
    simp only [Bool.or_eq_false_iff, Bool.and_eq_false_iff,
      decide_eq_false_iff_not, beq_eq_false_iff_ne]
    omega
  · unfold Text.isBracket
    simp only [Bool.or_eq_false_iff, beq_eq_false_iff_ne]
    exact ⟨⟨⟨hne _ (by decide), hne _ (by decide)⟩, hne _ (by decide)⟩,
      hne _ (by decide)⟩

/-- A word has the shape of a value. -/
theorem Shaped.of_word {n : Nat} {t : Text} (hne : t ≠ [])
    (h : ∀ c ∈ t, IsWordPoint c) : Shaped n t := by
  refine ⟨?_, ?_, fun c hc => (h c hc).2.2.2.1, ?_⟩
  · cases t with
    | nil => exact absurd rfl hne
    | cons c t =>
        obtain ⟨hblank, hbracket, -, -, hascii⟩ :=
          h c (List.mem_cons_self ..)
        refine ⟨c, t, rfl, hblank, ?_, hascii⟩
        rintro rfl
        cases hbracket
  · exact Text.endsVisible_of_forall hne fun c hc => (h c hc).1
  · exact .flat (.of_forall fun c hc => ⟨(h c hc).2.2.1, (h c hc).2.1⟩)

/-- A whole number is written with digits and the minus sign. -/
theorem mem_ofInt {k : Int} {c : CodePoint} (hc : c ∈ Text.ofInt k) :
    c = .scalar '-' ∨ c.isDigit = true := by
  cases k with
  | ofNat m => exact .inr (Text.isDigit_of_mem_ofNat (n := m) hc)
  | negSucc m =>
      rcases List.mem_cons.1 hc with hc | hc
      · exact .inl hc
      · exact .inr (Text.isDigit_of_mem_ofNat (n := m + 1) hc)

theorem ofInt_ne_nil (k : Int) : Text.ofInt k ≠ [] := by
  cases k with
  | ofNat m => exact Text.ofNat_ne_nil m
  | negSucc m => exact List.cons_ne_nil _ _

/-- A settled scalar that is not a text is written as a word. -/
theorem writeScalar_word {s : Scalar} (hs : s.isSettled = true)
    (hstr : ∀ t, s ≠ .str t) :
    writeScalar f s ≠ [] ∧ ∀ c ∈ writeScalar f s, IsWordPoint c := by
  have hwords : ∀ w ∈ [Text.ofString "null", Text.ofString "true",
      Text.ofString "false"], w ≠ [] ∧ ∀ c ∈ w, IsWordPoint c := by
    decide
  cases s with
  | null => exact hwords "null" (by decide)
  | bool b =>
      cases b with
      | false => exact hwords "false" (by decide)
      | true => exact hwords "true" (by decide)
  | int k =>
      refine ⟨ofInt_ne_nil k, fun c hc => ?_⟩
      rcases mem_ofInt hc with rfl | hc
      · decide
      · exact isWordPoint_of_isDigit hc
  | float x => cases hs
  | str t => exact absurd rfl (hstr t)

theorem shaped_writeString (n : Nat) (s : Text) :
    Shaped n (writeString f s) :=
  ⟨⟨_, _, writeString_eq s, by decide, by decide, by decide⟩,
    ⟨_, _, rfl, by decide⟩, printed_writeString s, .flat (flat_writeString s)⟩

/-- A settled scalar is written in shape. -/
theorem shaped_writeScalar (n : Nat) {s : Scalar} (hs : s.isSettled = true) :
    Shaped n (writeScalar f s) := by
  by_cases hstr : ∃ t, s = .str t
  · obtain ⟨t, rfl⟩ := hstr
    exact shaped_writeString n t
  · have hword := writeScalar_word (f := f) hs fun t h => hstr ⟨t, h⟩
    exact .of_word hword.1 hword.2

/-- Printed and balanced parts make a printed and balanced join. -/
theorem walk_joinWith {n : Nat} {ts : List Text}
    (h : ∀ t ∈ ts, t.Printed ∧ t.Balanced n) :
    (Text.joinWith ", " ts).Printed ∧ (Text.joinWith ", " ts).Balanced n := by
  refine Text.joinWith_of_forall
    (P := fun t => t.Printed ∧ t.Balanced n) ?_ ?_ ?_ h
  · exact ⟨.nil, .flat .nil⟩
  · rintro t u ⟨htp, htb⟩ ⟨hup, hub⟩
    exact ⟨htp.append hup, htb.append hub⟩
  · exact ⟨by decide, .flat (.of_forall (by decide))⟩

/-- A printed and balanced text between the marks of a container is in
shape. -/
theorem Shaped.enclosed {n : Nat} {left right : CodePoint} {t : Text}
    (hmarks : left = .scalar '[' ∧ right = .scalar ']'
      ∨ left = .scalar '\x7b' ∧ right = .scalar '\x7d')
    (hprinted : t.Printed) (hbalanced : t.Balanced n) :
    Shaped (n + 1) (left :: (t ++ [right])) := by
  rcases hmarks with ⟨rfl, rfl⟩ | ⟨rfl, rfl⟩
  · refine ⟨⟨_, _, rfl, by decide, by decide, by decide⟩,
      ⟨_ :: t, _, rfl, by decide⟩, ?_, .brackets hbalanced⟩
    exact (show Text.Printed [.scalar '['] by decide).append
      (hprinted.append (by decide))
  · refine ⟨⟨_, _, rfl, by decide, by decide, by decide⟩,
      ⟨_ :: t, _, rfl, by decide⟩, ?_, .braces hbalanced⟩
    exact (show Text.Printed [.scalar '\x7b'] by decide).append
      (hprinted.append (by decide))

/-- A member whose value is in shape is printed and balanced. -/
theorem walk_writeMember {n : Nat} {m : Text × Json}
    (h : Shaped n (write f m.2)) :
    (writeMember f m).Printed ∧ (writeMember f m).Balanced n := by
  have hname := shaped_writeString (f := f) n m.1
  have hcolon : (Text.ofString ": ").Flat := .of_forall (by decide)
  constructor
  · exact hname.printed.append (.append (by decide) h.printed)
  · exact hname.balanced.append (.append (.flat hcolon) h.balanced)

/-- The members of an object, joined, when their values are in shape. -/
theorem walk_members {n : Nat} {members : List (Text × Json)}
    (h : ∀ m ∈ members, Shaped n (write f m.2)) :
    (Text.joinWith ", " (members.map (writeMember f))).Printed
      ∧ (Text.joinWith ", " (members.map (writeMember f))).Balanced n := by
  apply walk_joinWith
  intro t ht
  obtain ⟨m, hm, rfl⟩ := List.mem_map.1 ht
  exact walk_writeMember (h m hm)

/-- The elements of an array, joined, when they are in shape. -/
theorem walk_items {n : Nat} {items : List Json}
    (h : ∀ v ∈ items, Shaped n (write f v)) :
    (Text.joinWith ", " (items.map (write f))).Printed
      ∧ (Text.joinWith ", " (items.map (write f))).Balanced n := by
  apply walk_joinWith
  intro t ht
  obtain ⟨v, hv, rfl⟩ := List.mem_map.1 ht
  exact ⟨(h v hv).printed, (h v hv).balanced⟩

/-- A settled value is written in shape. -/
theorem Made.shaped (hf : f.indent = none) {n : Nat} {v : Json}
    (h : Made Scalar.isSettled n v) : Shaped n (write f v) := by
  induction h with
  | scalar settled => exact shaped_writeScalar _ settled
  | array _ ih =>
      have hitems := walk_items ih
      rw [write_array hf]
      exact .enclosed (.inl ⟨rfl, rfl⟩) hitems.1 hitems.2
  | object _ _ _ ih =>
      have hmembers := walk_members ih
      rw [write_object hf]
      exact .enclosed (.inr ⟨rfl, rfl⟩) hmembers.1 hmembers.2

/-- The brace that matches the opening one of a settled object is its
last. -/
theorem Made.braceSpan (hf : f.indent = none) {n : Nat}
    {members : List (Text × Json)}
    (h : Made Scalar.isSettled n (.object members))
    (rest : Text) :
    Text.braceSpan (write f (.object members) ++ rest)
      = some (write f (.object members)).length := by
  cases h with
  | object _ _ made =>
      have hmembers := walk_members fun m hm => (made m hm).shaped hf
      rw [write_object hf, List.cons_append, List.append_assoc,
        List.singleton_append, hmembers.2.braceSpan, List.length_cons,
        List.length_append]
      rfl

end Json

end Marginalia
