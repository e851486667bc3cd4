/-
Values that are written on one line are read back. The reader is given the
text of a settled value with anything behind it that does not carry a number
on; it takes just that text and returns the value.

Objects come back as they were, since no key of theirs is there twice. The
guard of depth lets the text through, since it is balanced to the depth of
the value.
-/
import Marginalia.Proofs.Assoc
import Marginalia.Proofs.Json.Written

namespace Marginalia.Json

variable {f : Format}

-- ============================================================= spaces

/-- The white space of JSON is white space. -/
theorem isSpace_of_isBlank {c : CodePoint} (h : c.isBlank = false) :
    isSpace c = false := by
  cases hs : isSpace c with
  | false => rfl
  | true =>
      unfold isSpace at hs
      simp only [Bool.or_eq_true, beq_iff_eq] at hs
      rcases hs with ((rfl | rfl) | rfl) | rfl <;> cases h

/-- There is no white space in front of something visible. -/
theorem skipSpace_of_visible {t : Text} (h : t.StartsVisible) :
    skipSpace t = t := by
  obtain ⟨c, rest, rfl, hc⟩ := h
  refine List.dropWhile_cons_of_neg ?_
  rw [isSpace_of_isBlank hc]
  exact Bool.false_ne_true

/-- The space in front of a value is skipped. -/
theorem skipSpace_space {t : Text} (h : t.StartsVisible) :
    skipSpace (.scalar ' ' :: t) = t := by
  show skipSpace t = t
  exact skipSpace_of_visible h

/-- There is no white space in front of a colon. -/
theorem skipSpace_colon (t : Text) :
    skipSpace (": " ++ t) = .scalar ':' :: .scalar ' ' :: t := rfl

-- ============================================================= scalars

/-- No word starts like a number. -/
theorem digit_of_mem_words {w : Text × Except Failure Scalar}
    (hw : w ∈ words) :
    ∃ d e p, w.1 = d :: e :: p ∧ d.isDigit = false
      ∧ (d = .scalar '-' → e.isDigit = false) := by
  simp only [words, List.mem_cons, List.not_mem_nil, or_false] at hw
  rcases hw with rfl | rfl | rfl | rfl | rfl | rfl <;>
    exact ⟨_, _, _, rfl, by decide, by decide⟩

/-- What starts with a digit, or with a minus sign and a digit, is not taken
for a word. -/
theorem find?_words_of_digit {c : CodePoint} (hc : c.isDigit = true)
    (rest : Text) :
    (words.find? fun w => Text.startsWith (c :: rest) w.1) = none
      ∧ (words.find? fun w =>
        Text.startsWith (.scalar '-' :: c :: rest) w.1) = none := by
  have hne : ∀ {d : CodePoint}, d.isDigit = false → d ≠ c := by
    rintro d hd rfl
    rw [hd] at hc
    cases hc
  refine ⟨List.find?_eq_none.2 fun w hw => Bool.not_eq_true _ ▸ ?_,
    List.find?_eq_none.2 fun w hw => Bool.not_eq_true _ ▸ ?_⟩
  · obtain ⟨d, e, p, heq, hd, -⟩ := digit_of_mem_words hw
    rw [heq]
    exact Text.startsWith_of_ne (hne hd) _ _
  · obtain ⟨d, e, p, heq, -, he⟩ := digit_of_mem_words hw
    rw [heq]
    by_cases hminus : d = .scalar '-'
    · rw [hminus]
      unfold Text.startsWith
      rw [List.isPrefixOf_cons_cons, beq_self_eq_true, Bool.true_and]
      exact Text.startsWith_of_ne (hne (he hminus)) _ _
    · exact Text.startsWith_of_ne hminus _ _

/-- A whole number is not taken for a word. -/
theorem find?_words_ofInt (n : Int) (rest : Text) :
    (words.find? fun w => (Text.ofInt n ++ rest).startsWith w.1) = none := by
  have hdigits : ∀ k, ∃ c digits, Text.ofNat k = c :: digits
      ∧ c.isDigit = true := by
    intro k
    cases hk : Text.ofNat k with
    | nil => exact absurd hk (Text.ofNat_ne_nil k)
    | cons c digits =>
        exact ⟨c, digits, rfl, Text.isDigit_of_mem_ofNat (n := k)
          (hk ▸ List.mem_cons_self ..)⟩
  cases n with
  | ofNat k =>
      obtain ⟨c, digits, hk, hc⟩ := hdigits k
      rw [show Text.ofInt (.ofNat k) = c :: digits from hk]
      exact (find?_words_of_digit hc _).1
  | negSucc k =>
      obtain ⟨c, digits, hk, hc⟩ := hdigits (k + 1)
      rw [show Text.ofInt (.negSucc k) = .scalar '-' :: c :: digits from
        congrArg _ hk]
      exact (find?_words_of_digit hc _).2

/-- A whole number within the limit of digits is read back. -/
theorem readWord_ofInt {n : Int} (hn : DigitLimit.canWrite n = true)
    {rest : Text} (hrest : EndsNumeral rest) :
    readWord (Text.ofInt n ++ rest) = .ok (.int n, rest) := by
  unfold readWord
  rw [find?_words_ofInt, readNumeral?_ofInt n hrest]
  dsimp only
  rw [Numeral.value_ofInt hn]
  rfl

/-- A scalar that is not a text is read back as a word. -/
theorem readWord_writeScalar {s : Scalar} (hs : s.isSettled = true)
    (hstr : ∀ t, s ≠ .str t) {rest : Text} (hrest : EndsNumeral rest) :
    readWord (writeScalar f s ++ rest) = .ok (s, rest) := by
  cases s with
  | null => rfl
  | bool b => cases b <;> rfl
  | int n =>
      have hn := Scalar.isDecoded_of_isSettled hs
      unfold Scalar.isDecoded at hn
      exact readWord_ofInt hn hrest
  | float x => cases hs
  | str t => exact absurd rfl (hstr t)

-- ============================================================= values

theorem readValue_string (fuel room : Nat) (t : Text) :
    readValue (fuel + 1) room (.scalar '"' :: t)
      = (readString (.scalar '"' :: t)).map fun r => (.str r.1, r.2) := by
  rw [readValue.eq_def]
  rfl

theorem readValue_word (fuel room : Nat) {c : CodePoint}
    (hquote : c ≠ .scalar '"') (hbracket : c ≠ .scalar '[')
    (hbrace : c ≠ .scalar '\x7b') (t : Text) :
    readValue (fuel + 1) room (c :: t)
      = (readWord (c :: t)).map fun r => (.scalar r.1, r.2) := by
  rw [readValue.eq_def]
  dsimp only
  rw [if_neg hquote, if_neg hbracket, if_neg hbrace]

/-- An array without elements. -/
theorem readValue_nil_array (fuel room : Nat) (rest : Text) :
    readValue (fuel + 1) (room + 1) (.scalar '[' :: .scalar ']' :: rest)
      = .ok (.array [], rest) := by
  rw [readValue.eq_def]
  rfl

/-- An array whose first element starts right behind the bracket. -/
theorem readValue_array (fuel room : Nat) {c : CodePoint} {t : Text}
    (hc : c.isBlank = false) (hclose : c ≠ .scalar ']') :
    readValue (fuel + 1) (room + 1) (.scalar '[' :: c :: t)
      = (readItems fuel room (c :: t)).map fun r => (.array r.1, r.2) := by
  rw [readValue.eq_def]
  dsimp only
  rw [if_neg (by decide), if_pos rfl, skipSpace_of_visible ⟨c, t, rfl, hc⟩]
  split
  · next heq =>
    injection heq with heq
    exact absurd heq hclose
  · rfl

/-- An object without members. -/
theorem readValue_nil_object (fuel room : Nat) (rest : Text) :
    readValue (fuel + 1) (room + 1) (.scalar '\x7b' :: .scalar '\x7d' :: rest)
      = .ok (.object [], rest) := by
  rw [readValue.eq_def]
  rfl

/-- An object whose first member starts behind the brace and white space. -/
theorem readValue_object {body t : Text}
    (h : skipSpace body = .scalar '"' :: t) (fuel room : Nat) :
    readValue (fuel + 1) (room + 1) (.scalar '\x7b' :: body)
      = (readMembers fuel room (.scalar '"' :: t)).map fun r =>
          (.object (Assoc.ofPairs r.1), r.2) := by
  rw [readValue.eq_def]
  dsimp only
  rw [if_neg (by decide), if_neg (by decide), if_pos rfl, h]
  rfl

/-- The value is read from the text that is written for it, if there is
enough fuel and nothing behind the text carries a number on. -/
def ReadsBack (f : Format) (room : Nat) (v : Json) : Prop :=
  ∀ fuel rest, 2 * (write f v).length ≤ fuel + 1 → EndsNumeral rest →
    readValue fuel room (write f v ++ rest) = .ok (v, rest)

/-- The last element of an array. -/
theorem readItems_last {fuel room : Nat} {t after : Text} {v : Json}
    (h : readValue fuel room t = .ok (v, .scalar ']' :: after)) :
    readItems (fuel + 1) room t = .ok ([v], after) := by
  rw [readItems.eq_def]
  dsimp only
  rw [h]
  rfl

/-- An element of an array with another one behind it. -/
theorem readItems_cons {fuel room : Nat} {t after : Text} {v : Json}
    (h : readValue fuel room t
      = .ok (v, .scalar ',' :: .scalar ' ' :: after))
    (hafter : after.StartsVisible) :
    readItems (fuel + 1) room t
      = (readItems fuel room after).map fun r => (v :: r.1, r.2) := by
  rw [readItems.eq_def]
  dsimp only
  rw [h]
  show (readItems fuel room (skipSpace (.scalar ' ' :: after))).map _ = _
  rw [skipSpace_space hafter]

/-- The elements of an array are read back. -/
theorem readItems_join {room : Nat} {items : List Json} (hne : items ≠ [])
    (hread : ∀ v ∈ items, ReadsBack f room v)
    (hvisible : ∀ v ∈ items, (write f v).StartsVisible) {fuel : Nat}
    (hfuel : 2 * (Text.joinWith ", " (items.map (write f))).length ≤ fuel)
    (rest : Text) :
    readItems fuel room (Text.joinWith ", " (items.map (write f))
      ++ .scalar ']' :: rest) = .ok (items, rest) := by
  induction items generalizing fuel with
  | nil => exact absurd rfl hne
  | cons v items ih =>
      have hv := hread v (List.mem_cons_self ..)
      have hpos : 0 < (write f v).length := by
        obtain ⟨c, t, heq, -⟩ := hvisible v (List.mem_cons_self ..)
        rw [heq]
        exact Nat.succ_pos _
      cases items with
      | nil =>
          change 2 * (write f v).length ≤ fuel at hfuel
          cases fuel with
          | zero => omega
          | succ fuel =>
              refine readItems_last (hv fuel _ (by omega) ?_)
              exact endsNumeral_cons _ (by decide)
      | cons w items =>
          have htail : ∀ x ∈ w :: items, x ∈ v :: w :: items :=
            fun x hx => List.mem_cons_of_mem _ hx
          have hw := hvisible w (htail w (List.mem_cons_self ..))
          rw [List.map_cons, List.map_cons, Text.joinWith_cons_cons] at hfuel ⊢
          rw [List.length_append, List.length_append] at hfuel
          rw [← List.map_cons] at hfuel ⊢
          cases fuel with
          | zero => omega
          | succ fuel =>
              have hstep : readValue fuel room (write f v ++ .scalar ','
                  :: .scalar ' ' :: (Text.joinWith ", "
                    ((w :: items).map (write f)) ++ .scalar ']' :: rest))
                  = .ok (v, _) :=
                hv fuel _ (by omega) (endsNumeral_cons _ (by decide))
              have hrest : readItems fuel room (Text.joinWith ", "
                  ((w :: items).map (write f)) ++ .scalar ']' :: rest)
                  = .ok (w :: items, rest) :=
                ih (List.cons_ne_nil _ _) (fun x hx => hread x (htail x hx))
                  (fun x hx => hvisible x (htail x hx)) (by omega)
              rw [List.append_assoc, List.append_assoc]
              refine (readItems_cons hstep ?_).trans ?_
              · exact (hw.joinWith _).append _
              · rw [hrest]
                rfl

/-- The last member of an object. -/
theorem readMembers_last {name body rest after : Text} {fuel room : Nat}
    {v : Json} (hname : name.isJoined = true) (hbody : body.StartsVisible)
    (h : readValue fuel room body = .ok (v, rest))
    (hrest : skipSpace rest = .scalar '\x7d' :: after) :
    readMembers (fuel + 1) room (writeString f name ++ (": " ++ body))
      = .ok ([(name, v)], after) := by
  have hstring := readString_writeString (f := f) hname (": " ++ body)
  rw [writeString_eq, List.cons_append] at hstring ⊢
  rw [readMembers, hstring]
  simp only [skipSpace_colon, skipSpace_space hbody, h, hrest]

/-- A member of an object with another one behind it. -/
theorem readMembers_cons {name body after : Text} {fuel room : Nat} {v : Json}
    (hname : name.isJoined = true) (hbody : body.StartsVisible)
    (h : readValue fuel room body
      = .ok (v, .scalar ',' :: .scalar ' ' :: after))
    (hafter : after.StartsVisible) :
    readMembers (fuel + 1) room (writeString f name ++ (": " ++ body))
      = (readMembers fuel room after).map fun r => ((name, v) :: r.1, r.2) := by
  have hstring := readString_writeString (f := f) hname (": " ++ body)
  rw [writeString_eq, List.cons_append] at hstring ⊢
  rw [readMembers, hstring]
  simp only [skipSpace_colon, skipSpace_space hbody, h]
  show (readMembers fuel room (skipSpace (.scalar ' ' :: after))).map _ = _
  rw [skipSpace_space hafter]

/-- The members of an object are read back. -/
theorem readMembers_join {room : Nat} {members : List (Text × Json)}
    (hne : members ≠ [])
    (hnames : ∀ m ∈ members, m.1.isJoined = true)
    (hread : ∀ m ∈ members, ReadsBack f room m.2)
    (hvisible : ∀ m ∈ members, (write f m.2).StartsVisible) {fuel : Nat}
    (hfuel : 2 * (Text.joinWith ", " (members.map (writeMember f))).length
      ≤ fuel) (rest : Text) :
    readMembers fuel room (Text.joinWith ", " (members.map (writeMember f))
      ++ .scalar '\x7d' :: rest) = .ok (members, rest) := by
  induction members generalizing fuel with
  | nil => exact absurd rfl hne
  | cons m members ih =>
      obtain ⟨name, v⟩ := m
      have hname := hnames (name, v) (List.mem_cons_self ..)
      have hv : ReadsBack f room v := hread _ (List.mem_cons_self ..)
      have hstarts : (write f v).StartsVisible :=
        hvisible _ (List.mem_cons_self ..)
      have hlength : (writeMember f (name, v)).length
          = (writeString f name).length + (2 + (write f v).length) := by
        unfold writeMember
        rw [List.length_append, List.length_append]
        rfl
      cases members with
      | nil =>
          change 2 * (writeMember f (name, v)).length ≤ fuel at hfuel
          cases fuel with
          | zero => omega
          | succ fuel =>
              have hstep : readValue fuel room (write f v
                  ++ .scalar '\x7d' :: rest) = .ok (v, _) :=
                hv fuel _ (by omega) (endsNumeral_cons _ (by decide))
              show readMembers _ _ (writeMember f (name, v) ++ _) = _
              unfold writeMember
              rw [List.append_assoc, List.append_assoc]
              exact readMembers_last hname (hstarts.append _) hstep rfl
      | cons w members =>
          have htail : ∀ x ∈ w :: members, x ∈ (name, v) :: w :: members :=
            fun x hx => List.mem_cons_of_mem _ hx
          rw [List.map_cons, List.map_cons, Text.joinWith_cons_cons] at hfuel ⊢
          rw [List.length_append, List.length_append] at hfuel
          rw [← List.map_cons] at hfuel ⊢
          cases fuel with
          | zero => omega
          | succ fuel =>
              have hstep : readValue fuel room (write f v ++ .scalar ','
                  :: .scalar ' ' :: (Text.joinWith ", "
                    ((w :: members).map (writeMember f))
                      ++ .scalar '\x7d' :: rest)) = .ok (v, _) :=
                hv fuel _ (by omega) (endsNumeral_cons _ (by decide))
              have hrest : readMembers fuel room (Text.joinWith ", "
                  ((w :: members).map (writeMember f))
                    ++ .scalar '\x7d' :: rest) = .ok (w :: members, rest) :=
                ih (List.cons_ne_nil _ _) (fun x hx => hnames x (htail x hx))
                  (fun x hx => hread x (htail x hx))
                  (fun x hx => hvisible x (htail x hx)) (by omega)
              unfold writeMember
              rw [List.append_assoc, List.append_assoc, List.append_assoc,
                List.append_assoc]
              have hbody := hstarts.append (.scalar ',' :: .scalar ' '
                :: (Text.joinWith ", " ((w :: members).map (writeMember f))
                  ++ .scalar '\x7d' :: rest))
              refine (readMembers_cons hname hbody hstep ?_).trans ?_
              · have hquote : (writeString f w.1).StartsVisible :=
                  ⟨_, _, writeString_eq w.1, by decide⟩
                rw [List.map_cons]
                exact ((hquote.append _).joinWith _).append _
              · rw [hrest]
                rfl

/-- A scalar is read back. -/
theorem readsBack_scalar (room : Nat) {s : Scalar} (hs : s.isSettled = true) :
    ReadsBack f room (.scalar s) := by
  intro fuel rest hfuel hrest
  obtain ⟨c, t, hcons, -⟩ := (shaped_writeScalar (f := f) 0 hs).starts
  change 2 * (writeScalar f s).length ≤ fuel + 1 at hfuel
  rw [hcons, List.length_cons] at hfuel
  show readValue fuel room (writeScalar f s ++ rest) = _
  cases fuel with
  | zero => omega
  | succ fuel =>
      by_cases hstr : ∃ t, s = .str t
      · obtain ⟨text, rfl⟩ := hstr
        show readValue _ _ (writeString f text ++ rest) = _
        have hread := readString_writeString (f := f)
          (Scalar.isDecoded_of_isSettled hs) rest
        rw [writeString_eq, List.cons_append] at hread ⊢
        rw [readValue_string, hread]
        rfl
      · have hother : ∀ t, s ≠ .str t := fun t h => hstr ⟨t, h⟩
        have hread := readWord_writeScalar (f := f) hs hother hrest
        obtain ⟨-, hword⟩ := writeScalar_word (f := f) hs hother
        obtain ⟨-, hbracket, hquote, -⟩ :=
          hword c (hcons ▸ List.mem_cons_self ..)
        rw [hcons, List.cons_append] at hread ⊢
        rw [readValue_word fuel room hquote, hread]
        · rfl
        · rintro rfl
          cases hbracket
        · rintro rfl
          cases hbracket

/-- A settled value is read back when there is room for its depth. -/
theorem Made.readsBack (hf : f.indent = none) {n room : Nat} {v : Json}
    (h : Made Scalar.isSettled n v) (hroom : n ≤ room) :
    ReadsBack f room v := by
  induction h generalizing room with
  | scalar settled => exact readsBack_scalar room settled
  | @array n items made ih =>
      intro fuel rest hfuel hrest
      rw [write_array hf] at hfuel ⊢
      rw [List.length_cons, List.length_append, List.length_singleton] at hfuel
      rw [List.cons_append, List.append_assoc, List.singleton_append]
      -- one level of the room and one unit of the fuel go to the brackets
      cases room with
      | zero => omega
      | succ room =>
          cases fuel with
          | zero => omega
          | succ fuel =>
              cases items with
              | nil => exact readValue_nil_array fuel room rest
              | cons v items =>
                  obtain ⟨c, t, hcons, hc, hclose, -⟩ :=
                    ((made v (List.mem_cons_self ..)).shaped hf).starts
                  obtain ⟨t', hjoin⟩ := Text.joinWith_head ", " c t
                    (items.map (write f))
                  have hitems : readItems fuel room
                      (Text.joinWith ", " ((v :: items).map (write f))
                        ++ .scalar ']' :: rest) = .ok (v :: items, rest) :=
                    readItems_join (List.cons_ne_nil v items)
                      (fun x hx => ih x hx (Nat.le_of_succ_le_succ hroom))
                      (fun x hx => ((made x hx).shaped hf).startsVisible)
                      (by omega) rest
                  rw [List.map_cons, hcons, hjoin, List.cons_append]
                    at hitems ⊢
                  rw [readValue_array fuel room hc hclose, hitems]
                  rfl
  | @object n members distinct keys made ih =>
      intro fuel rest hfuel hrest
      rw [write_object hf] at hfuel ⊢
      rw [List.length_cons, List.length_append, List.length_singleton] at hfuel
      rw [List.cons_append, List.append_assoc, List.singleton_append]
      cases room with
      | zero => omega
      | succ room =>
          cases fuel with
          | zero => omega
          | succ fuel =>
              cases members with
              | nil => exact readValue_nil_object fuel room rest
              | cons m members =>
                  obtain ⟨t, hmember⟩ : ∃ t, writeMember f m
                      = .scalar '"' :: t := ⟨_, rfl⟩
                  obtain ⟨t', hjoin⟩ := Text.joinWith_head ", " (.scalar '"') t
                    (members.map (writeMember f))
                  have hmembers : readMembers fuel room
                      (Text.joinWith ", " ((m :: members).map (writeMember f))
                        ++ .scalar '\x7d' :: rest) = .ok (m :: members, rest) :=
                    readMembers_join (List.cons_ne_nil m members)
                      (fun x hx => (Scalar.isDecoded_of_isSettled (keys x hx)))
                      (fun x hx => ih x hx (Nat.le_of_succ_le_succ hroom))
                      (fun x hx => ((made x hx).shaped hf).startsVisible)
                      (by omega) rest
                  rw [List.map_cons, hmember, hjoin, List.cons_append]
                    at hmembers ⊢
                  rw [readValue_object rfl, hmembers]
                  -- names that differ are kept as they are
                  show Except.ok (Json.object (Assoc.ofPairs _), rest) = _
                  rw [Assoc.ofPairs_of_nodup distinct]

-- ======================================================== whole texts

/-- A text is read when its nesting is within the limit, it does not start with
a byte order mark, and nothing but white space stands behind its value. -/
theorem read_eq_ok_iff {t : Text} {v : Json} :
    read t = .ok v ↔ t.nestsDeeper maxDepth = false
      ∧ t.head? ≠ some (.scalar '\uFEFF')
      ∧ ∃ rest, readValue (2 * t.length + 2) maxDepth (skipSpace t)
          = .ok (v, rest) ∧ skipSpace rest = [] := by
  have hwhole : readWhole t = .ok v ↔ t.head? ≠ some (.scalar '\uFEFF')
      ∧ ∃ rest, readValue (2 * t.length + 2) maxDepth (skipSpace t)
          = .ok (v, rest) ∧ skipSpace rest = [] := by
    unfold readWhole
    split
    · exact ⟨nofun, fun h => absurd rfl h.1⟩
    · next hmark =>
      have hhead : t.head? ≠ some (.scalar '\uFEFF') := by
        intro h
        obtain ⟨rest, rfl⟩ := List.head?_eq_some_iff.1 h
        exact hmark rest rfl
      split
      · next he => simp [he]
      · next v' rest hv =>
        split
        · next hrest => simp [hv, hhead, hrest]
        · next hrest =>
          have hne : skipSpace rest ≠ [] := hrest
          simp [hv, hne]
  unfold read
  cases hguard : t.nestsDeeper maxDepth with
  | true => simp
  | false =>
      rw [if_neg Bool.false_ne_true, ← hwhole]
      cases readWhole t <;> simp [Except.mapError]

/-- What is written for a settled value within the limit of depth is read
back. -/
theorem read_write (hf : f.indent = none) {v : Json}
    (h : Made Scalar.isSettled maxDepth v) : read (write f v) = .ok v := by
  have hshape := h.shaped hf
  have hdepth : (write f v).nestsDeeper maxDepth = false :=
    hshape.balanced.nestsDeeper (Nat.le_refl _)
  have hread : readValue (2 * (write f v).length + 2) maxDepth (write f v)
      = .ok (v, []) := by
    have hback := h.readsBack hf (Nat.le_refl _)
      (2 * (write f v).length + 2) [] (by omega) endsNumeral_nil
    rwa [List.append_nil] at hback
  refine read_eq_ok_iff.2 ⟨hdepth, fun hmark => ?_, [], ?_, rfl⟩
  · obtain ⟨c, rest, hcons, -, -, hascii⟩ := hshape.starts
    rw [hcons, List.head?_cons] at hmark
    rw [Option.some.inj hmark] at hascii
    exact absurd hascii (by decide)
  · rw [skipSpace_of_visible hshape.startsVisible]
    exact hread

end Marginalia.Json
