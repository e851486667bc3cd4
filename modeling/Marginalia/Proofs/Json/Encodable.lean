/-
Which JSON texts have an encoding. All that is written of a value besides
its strings is ASCII. So where everything else is escaped, every value has
one; and where characters stand as they are, a value has one exactly when
each of its strings has one, a text or the name of a member, at any depth
(`isEncodable_write`).

What is said of a text that is no value has an encoding in any case: of the
text itself only numerals are repeated, and the names of three constants
(`isEncodable_message_of_read`).
-/
import Marginalia.Json.Writer
import Marginalia.Proofs.Json.Parsed
import Marginalia.Proofs.Text.Encodable

namespace Marginalia

namespace Scalar

/-- The text that a scalar is, if it is one. -/
def texts : Scalar → List Text
  | .str s => [s]
  | _ => []

/-- Has the scalar an encoding? A text may have none. -/
def isEncodable : Scalar → Bool
  | .str s => s.isEncodable
  | _ => true

theorem all_texts (s : Scalar) :
    s.texts.all Text.isEncodable = s.isEncodable := by
  cases s with
  | str s => exact Bool.and_true _
  | null | bool _ | int _ | float _ => rfl

end Scalar

namespace Json

-- ============================================================== strings

mutual

/-- The strings of a value at every depth: its texts and the names of its
members. -/
def texts : Json → List Text
  | .scalar s => s.texts
  | .array items => itemTexts items
  | .object members => memberTexts members

/-- The strings of the elements of an array. -/
def itemTexts : List Json → List Text
  | [] => []
  | v :: rest => texts v ++ itemTexts rest

/-- The strings of the members of an object. -/
def memberTexts : List (Text × Json) → List Text
  | [] => []
  | (name, v) :: rest => name :: texts v ++ memberTexts rest

end

@[simp] theorem texts_scalar (s : Scalar) : texts (.scalar s) = s.texts := by
  rw [texts]

@[simp] theorem texts_array (items : List Json) :
    texts (.array items) = items.flatMap texts := by
  rw [texts]
  induction items with
  | nil => rfl
  | cons v rest ih => rw [itemTexts, ih, List.flatMap_cons]

@[simp] theorem texts_object (members : Assoc Json) :
    texts (.object members) = members.flatMap fun m => m.1 :: texts m.2 := by
  rw [texts]
  induction members with
  | nil => rfl
  | cons m rest ih => rw [memberTexts, ih, List.flatMap_cons]

/-- Have all strings of a value an encoding? -/
def isEncodable (v : Json) : Bool := (texts v).all Text.isEncodable

@[simp] theorem isEncodable_scalar (s : Scalar) :
    isEncodable (.scalar s) = s.isEncodable := by
  rw [isEncodable, texts_scalar, s.all_texts]

@[simp] theorem isEncodable_str (s : Text) :
    isEncodable (str s) = s.isEncodable := isEncodable_scalar _

@[simp] theorem isEncodable_array (items : List Json) :
    isEncodable (.array items) = items.all isEncodable := by
  rw [isEncodable, texts_array, List.all_flatMap]
  rfl

@[simp] theorem isEncodable_object (members : Assoc Json) :
    isEncodable (.object members)
      = members.all fun m => m.1.isEncodable && m.2.isEncodable := by
  rw [isEncodable, texts_object, List.all_flatMap]
  rfl

/-- A value that is made of encodable scalars has an encoding. -/
theorem Made.isEncodable {n : Nat} {v : Json}
    (h : Made Scalar.isEncodable n v) : v.isEncodable = true := by
  induction h with
  | scalar holds => rwa [isEncodable_scalar]
  | array _ ih => rwa [isEncodable_array, List.all_eq_true]
  | object _ keys _ ih =>
      rw [isEncodable_object, List.all_eq_true]
      intro m hm
      rw [ih m hm, Bool.and_true]
      exact keys m hm

-- ============================================================== writing

section Writing

variable (f : Format)

theorem isEncodable_unitEscape (unit : Nat) :
    (unitEscape unit).isEncodable = true := by
  simp [unitEscape]

/-- A code point in a string has an encoding when it is escaped or has one
itself. -/
theorem isEncodable_writePoint (c : CodePoint) :
    (writePoint f c).isEncodable = (f.asciiOnly || !c.isSurrogate) := by
  have hescapes : (escapes c.toNat).isEncodable = true := by
    unfold escapes
    split <;> simp [isEncodable_unitEscape]
  cases c with
  | scalar c =>
      have hself : Text.isEncodable [.scalar c] = true := rfl
      rw [show (CodePoint.scalar c).isSurrogate = false from rfl,
        Bool.not_false, Bool.or_true]
      unfold writePoint
      repeat' split
      all_goals first | exact hescapes | exact hself
  | surrogate half =>
      have hnumber : (CodePoint.surrogate half).toNat = 0xD800 + half.val := rfl
      have hplain : ∀ n < 0xD800, (CodePoint.surrogate half).toNat ≠ n := by
        omega
      unfold writePoint
      rw [if_neg nofun, if_neg nofun, if_neg nofun, if_neg nofun,
        if_neg nofun, if_neg (hplain _ (by decide)),
        if_neg (hplain _ (by decide))]
      cases hf : f.asciiOnly with
      | true =>
          rw [if_pos]
          · exact hescapes
          · simp only [Bool.true_and, Bool.or_eq_true, decide_eq_true_eq]
            omega
      | false =>
          rw [if_neg]
          · rfl
          · simp only [Bool.false_and, Bool.or_false, decide_eq_true_eq]
            omega

theorem isEncodable_writeString (s : Text) :
    (writeString f s).isEncodable = (f.asciiOnly || s.isEncodable) := by
  have hbody : Text.isEncodable (s.flatMap (writePoint f))
      = (f.asciiOnly || s.isEncodable) := by
    induction s with
    | nil => exact (Bool.or_true _).symm
    | cons c s ih =>
        rw [List.flatMap_cons, Text.isEncodable_append, ih,
          isEncodable_writePoint, Text.isEncodable_cons_eq,
          Bool.or_and_distrib_left]
  unfold writeString
  rw [Text.isEncodable_append, Text.isEncodable_append, hbody]
  simp

theorem isEncodable_layout (layout : Binary64.Layout) (d : Binary64.Decimal) :
    (layout.write d).isEncodable = true := by
  have hdigits := Text.isEncodable_ofNat d.digits
  unfold Binary64.Layout.write
  dsimp only
  repeat' split
  all_goals simp [-List.drop_one, Text.isEncodable_take hdigits,
    Text.isEncodable_drop hdigits, Binary64.Layout.exponentDigits]

theorem isEncodable_writeFloat (x : Binary64) :
    (writeFloat x).isEncodable = true := by
  cases x with
  | finite negative m e =>
      show Text.isEncodable (_ ++ Binary64.Layout.write _ _) = true
      rw [Text.isEncodable_append, isEncodable_layout]
      cases negative <;> rfl
  | infinite negative => cases negative <;> rfl
  | nan => rfl

theorem isEncodable_writeScalar (s : Scalar) :
    (writeScalar f s).isEncodable = (f.asciiOnly || s.isEncodable) := by
  cases s with
  | str s => exact isEncodable_writeString f s
  | null => simp [writeScalar, Scalar.isEncodable]
  | bool b => cases b <;> simp [writeScalar, Scalar.isEncodable]
  | int n => simp [writeScalar, Scalar.isEncodable]
  | float x => simp [writeScalar, Scalar.isEncodable, isEncodable_writeFloat]

theorem isEncodable_lineBreak (depth : Nat) :
    (f.lineBreak depth).isEncodable = true := by
  unfold Format.lineBreak
  split <;> simp

theorem isEncodable_separator (depth : Nat) :
    (f.separator depth).isEncodable = true := by
  unfold Format.separator
  split <;> simp [isEncodable_lineBreak]

/-- A container has an encoding when its elements have one. -/
theorem isEncodable_enclose (depth : Nat) (left right : Char)
    (elements : List Text) :
    (enclose f depth (.scalar left) (.scalar right) elements).isEncodable
      = elements.all Text.isEncodable := by
  unfold enclose
  split
  · next h =>
    rw [List.isEmpty_iff.1 h]
    rfl
  · simp [isEncodable_lineBreak,
      Text.isEncodable_joinWith (isEncodable_separator f (depth + 1))]

mutual

/-- A written value has an encoding when all is ASCII or its strings have
one. -/
theorem isEncodable_writeAt (depth : Nat) : ∀ v : Json,
    (writeAt f depth v).isEncodable
      = (f.asciiOnly || (texts v).all Text.isEncodable)
  | .scalar s => by
      rw [writeAt, texts, isEncodable_writeScalar, s.all_texts]
  | .array items => by
      rw [writeAt, texts, isEncodable_enclose, isEncodable_writeItems]
  | .object members => by
      rw [writeAt, texts, isEncodable_enclose, isEncodable_writeMembers]

theorem isEncodable_writeItems (depth : Nat) : ∀ items : List Json,
    (writeItems f depth items).all Text.isEncodable
      = (f.asciiOnly || (itemTexts items).all Text.isEncodable)
  | [] => (Bool.or_true _).symm
  | v :: rest => by
      rw [writeItems, itemTexts, List.all_cons, List.all_append,
        isEncodable_writeAt depth v, isEncodable_writeItems depth rest,
        Bool.or_and_distrib_left]

theorem isEncodable_writeMembers (depth : Nat) :
    ∀ members : List (Text × Json),
    (writeMembers f depth members).all Text.isEncodable
      = (f.asciiOnly || (memberTexts members).all Text.isEncodable)
  | [] => (Bool.or_true _).symm
  | (name, v) :: rest => by
      rw [writeMembers, memberTexts, List.all_cons, List.cons_append,
        List.all_cons, List.all_append, Text.isEncodable_append,
        Text.isEncodable_append, isEncodable_writeString,
        isEncodable_writeAt depth v, isEncodable_writeMembers depth rest,
        Text.isEncodable_ofString, Bool.and_true, Bool.or_and_distrib_left,
        Bool.or_and_distrib_left, Bool.and_assoc]

end

theorem isEncodable_write (v : Json) :
    (write f v).isEncodable = (f.asciiOnly || v.isEncodable) :=
  isEncodable_writeAt f 0 v

end Writing

-- =============================================================== errors

/-- What a failure repeats of the text. -/
def Failure.named : Failure → Text
  | .constant name => name
  | .outOfRange numeral => numeral
  | _ => []

section Failures

variable {α β : Type}

/-- A failure repeats nothing but what has an encoding. -/
def Mild (x : Except Failure α) : Prop :=
  ∀ e, x = .error e → e.named.isEncodable = true

theorem mild_ok {a : α} : Mild (.ok a : Except Failure α) := nofun

theorem mild_malformed {fault : Fault} {left : Text} :
    Mild (.error (.malformed fault left) : Except Failure α) := by
  rintro e ⟨⟩
  rfl

theorem mild_noRoom : Mild (.error .noRoom : Except Failure α) := by
  rintro e ⟨⟩
  rfl

/-- A failure that is handed on. -/
theorem Mild.error {x : Except Failure α} (h : Mild x) {e : Failure}
    (he : x = .error e) : Mild (.error e : Except Failure β) := by
  rintro e' ⟨⟩
  exact h e he

theorem Mild.map {x : Except Failure α} (h : Mild x) (f : α → β) :
    Mild (x.map f) := by
  cases x with
  | error e => exact h.error rfl
  | ok a => exact mild_ok

theorem isSurrogate_of_isTokenPoint {c : CodePoint}
    (h : Grammar.isTokenPoint c = true) : c.isSurrogate = false := by
  cases c with
  | scalar c => rfl
  | surrogate half => cases h

/-- What is repeated of a token has an encoding. -/
theorem Failure.OfToken.isEncodable {e : Failure} (h : e.OfToken) :
    e.named.isEncodable = true := by
  have hword : ∀ word : Text, (∀ c ∈ word, Grammar.isTokenPoint c = true) →
      word.isEncodable = true := by
    intro word hpoints
    refine List.all_eq_true.2 fun c hc => ?_
    rw [isSurrogate_of_isTokenPoint (hpoints c hc)]
    rfl
  cases e with
  | constant word | outOfRange word => exact hword word h
  | malformed _ _ | tooManyDigits _ | noRoom => rfl

theorem mild_readString (t : Text) : Mild (readString t) :=
  fun _ h => (ofToken_readString h).isEncodable

theorem mild_readWord (t : Text) : Mild (readWord t) :=
  fun _ h => (ofToken_readWord h).isEncodable

section Steps

variable {fuel : Nat}

theorem mild_readValue (hitems : ∀ room t, Mild (readItems fuel room t))
    (hmembers : ∀ room t, Mild (readMembers fuel room t)) (room : Nat)
    (t : Text) : Mild (readValue (fuel + 1) room t) := by
  rw [readValue.eq_def]
  dsimp only
  split
  · exact mild_malformed
  · split
    · -- a string
      exact (mild_readString _).map _
    · split
      · -- an array
        split
        · exact mild_noRoom
        · split
          · exact mild_ok
          · exact (hitems _ _).map _
      · split
        · -- an object
          split
          · exact mild_noRoom
          · split
            · exact mild_ok
            · exact (hmembers _ _).map _
        · -- a word or a number
          exact (mild_readWord _).map _

variable {room : Nat} (hvalue : ∀ t, Mild (readValue fuel room t))

include hvalue

theorem mild_readItems (hitems : ∀ t, Mild (readItems fuel room t))
    (t : Text) : Mild (readItems (fuel + 1) room t) := by
  rw [readItems.eq_def]
  dsimp only
  split
  · next he => exact (hvalue _).error he
  · split
    · exact mild_ok
    · exact (hitems _).map _
    · exact mild_malformed

theorem mild_readMembers (hmembers : ∀ t, Mild (readMembers fuel room t))
    (t : Text) : Mild (readMembers (fuel + 1) room t) := by
  rw [readMembers.eq_def]
  dsimp only
  split
  · split
    · next he => exact (mild_readString _).error he
    · split
      · split
        · next he => exact (hvalue _).error he
        · split
          · exact mild_ok
          · exact (hmembers _).map _
          · exact mild_malformed
      · exact mild_malformed
  · exact mild_malformed

end Steps

/-- Readers repeat nothing but what has an encoding. -/
theorem mild_read (fuel : Nat) : ∀ room t,
    Mild (readValue fuel room t) ∧ Mild (readItems fuel room t)
      ∧ Mild (readMembers fuel room t) := by
  induction fuel with
  | zero =>
      intro room t
      rw [readValue.eq_def, readItems.eq_def, readMembers.eq_def]
      exact ⟨mild_malformed, mild_malformed, mild_malformed⟩
  | succ fuel ih =>
      intro room t
      have hvalue := fun t => (ih room t).1
      exact ⟨mild_readValue (fun room t => (ih room t).2.1)
          (fun room t => (ih room t).2.2) room t,
        mild_readItems hvalue (fun t => (ih room t).2.1) t,
        mild_readMembers hvalue (fun t => (ih room t).2.2) t⟩

end Failures

theorem mild_readWhole (t : Text) : Mild (readWhole t) := by
  unfold readWhole
  split
  · exact mild_malformed
  · split
    · next he => exact (mild_read _ _ _).1.error he
    · split
      · exact mild_ok
      · exact mild_malformed

theorem isEncodable_message_toError (whole : Text) {e : Failure}
    (h : e.named.isEncodable = true) :
    (e.toError whole).message.isEncodable = true := by
  cases e with
  | malformed fault left =>
      cases fault <;> simp [Failure.toError, ReadError.message, Fault.message]
  | constant name =>
      have hname : name.isEncodable = true := h
      simp [Failure.toError, ReadError.message, hname]
  | outOfRange numeral =>
      have hnumeral : numeral.isEncodable = true := h
      simp [Failure.toError, ReadError.message, hnumeral]
  | tooManyDigits count =>
      simp [Failure.toError, ReadError.message, DigitLimit.readMessage,
        DigitLimit.exceeded, DigitLimit.advice]
  | noRoom => simp [Failure.toError, ReadError.message]

/-- The error of a text that is no value has an encoding in words. -/
theorem isEncodable_message_of_read {t : Text} {e : ReadError}
    (h : read t = .error e) : e.message.isEncodable = true := by
  unfold read at h
  split at h
  · cases h
    simp [ReadError.message]
  · cases hwhole : readWhole t with
    | ok v =>
        rw [hwhole] at h
        cases h
    | error failure =>
        rw [hwhole] at h
        cases h
        exact isEncodable_message_toError t (mild_readWhole t _ hwhole)

end Json

end Marginalia
