/-
Objects with one member, on one line or on several. The white space between
the lines is skipped, and so such an object is read back from what is written
for it; when that is ASCII, halves of pairs that stand apart in the string
are all that can change it (`read_write_member_iff`).
-/
import Marginalia.Proofs.Json.Encodable

namespace Marginalia.Json

variable {f : Format}

theorem skipSpace_lineBreak (depth : Nat) {t : Text} (h : t.StartsVisible) :
    skipSpace (f.lineBreak depth ++ t) = t := by
  have hspace : ∀ c ∈ f.lineBreak depth, isSpace c = true := by
    unfold Format.lineBreak
    split
    · nofun
    · intro c hc
      rcases List.mem_cons.1 hc with rfl | hc
      · rfl
      · rw [List.eq_of_mem_replicate hc]
        rfl
  unfold skipSpace
  rw [List.dropWhile_append_of_pos hspace]
  exact skipSpace_of_visible h

theorem flat_lineBreak (depth : Nat) : Text.Flat (f.lineBreak depth) := by
  refine .of_forall ?_
  unfold Format.lineBreak
  split
  · nofun
  · intro c hc
    rcases List.mem_cons.1 hc with rfl | hc
    · decide
    · rw [List.eq_of_mem_replicate hc]
      decide

/-- What stands between the brace and the closing brace of an object whose
one member is a string. -/
def memberText (f : Format) (name value : Text) : Text :=
  f.lineBreak 1 ++ (writeString f name
    ++ (Text.ofString ": " ++ (writeString f value ++ f.lineBreak 0)))

theorem write_member (name value : Text) :
    write f (.object [(name, .str value)])
      = .scalar '\x7b' :: (memberText f name value ++ [.scalar '\x7d']) := by
  show [CodePoint.scalar '\x7b'] ++ f.lineBreak 1
    ++ (writeString f name ++ Text.ofString ": " ++ writeString f value)
    ++ f.lineBreak 0 ++ [CodePoint.scalar '\x7d'] = _
  unfold memberText
  simp only [List.append_assoc]
  rfl

theorem flat_memberText (name value : Text) :
    Text.Flat (memberText f name value) :=
  (flat_lineBreak 1).append ((flat_writeString name).append
    ((Text.Flat.of_forall (by decide)).append
      ((flat_writeString value).append (flat_lineBreak 0))))

/-- The object is read back, with what follows it left. -/
theorem readValue_member {name value : Text} (hname : name.isJoined = true)
    (hvalue : value.isJoined = true) (fuel room : Nat) (rest : Text) :
    readValue (fuel + 3) (room + 1) (.scalar '\x7b'
        :: (memberText f name value ++ .scalar '\x7d' :: rest))
      = .ok (.object [(name, .str value)], rest) := by
  have hvisible := (shaped_writeString (f := f) 0 value).startsVisible
  have hstring : readValue (fuel + 1) room (writeString f value
      ++ (f.lineBreak 0 ++ .scalar '\x7d' :: rest))
        = .ok (.str value, f.lineBreak 0 ++ .scalar '\x7d' :: rest) := by
    have hread := readString_writeString (f := f) hvalue
      (f.lineBreak 0 ++ .scalar '\x7d' :: rest)
    rw [writeString_eq, List.cons_append] at hread ⊢
    rw [readValue_string, hread]
    rfl
  have hmembers := readMembers_last (f := f) hname (hvisible.append _) hstring
    (skipSpace_lineBreak 0 ⟨_, _, rfl, by decide⟩)
  have hskip := skipSpace_lineBreak (f := f) 1
    ((shaped_writeString (f := f) 0 name).startsVisible.append
      (Text.ofString ": " ++ (writeString f value
        ++ (f.lineBreak 0 ++ .scalar '\x7d' :: rest))))
  have htext : memberText f name value ++ .scalar '\x7d' :: rest
      = f.lineBreak 1 ++ (writeString f name ++ (Text.ofString ": "
        ++ (writeString f value
          ++ (f.lineBreak 0 ++ .scalar '\x7d' :: rest)))) := by
    unfold memberText
    simp only [List.append_assoc]
  rw [writeString_eq name, List.cons_append] at hmembers hskip
  rw [htext, writeString_eq name, List.cons_append, readValue_object hskip,
    hmembers]
  rfl

/-- An object whose one member is a string is read back when no halves of
pairs stand apart in it. -/
theorem read_write_member {name value : Text} (hname : name.isJoined = true)
    (hvalue : value.isJoined = true) :
    read (write f (.object [(name, .str value)]) ++ "\n")
      = .ok (.object [(name, .str value)]) := by
  have hend : Text.Flat "\n" := .of_forall (by decide)
  have hbalanced : Text.Balanced 1
      (.scalar '\x7b' :: (memberText f name value ++ [.scalar '\x7d'])
        ++ Text.ofString "\n") :=
    (Text.Balanced.braces (.flat (flat_memberText name value))).append
      (.flat hend)
  rw [write_member]
  refine read_eq_ok_iff.2 ⟨hbalanced.nestsDeeper (by decide), ?_,
    Text.ofString "\n", ?_, rfl⟩
  · rw [List.cons_append, List.head?_cons]
    decide
  · have htext : .scalar '\x7b' :: (memberText f name value
        ++ [.scalar '\x7d']) ++ Text.ofString "\n"
        = .scalar '\x7b' :: (memberText f name value
          ++ .scalar '\x7d' :: Text.ofString "\n") := by
      rw [List.cons_append, List.append_assoc]
      rfl
    rw [htext, skipSpace_of_visible ⟨_, _, rfl, by decide⟩, List.length_cons]
    exact readValue_member hname hvalue (2 * _ + 1) 63 _

/-- Written in ASCII, the object is read back exactly when no halves of pairs
stand apart in its string. -/
theorem read_write_member_iff (hf : f.asciiOnly = true) {name value : Text}
    (hname : name.isJoined = true) :
    read (write f (.object [(name, .str value)]) ++ "\n")
        = .ok (.object [(name, .str value)])
      ↔ value.isJoined = true := by
  refine ⟨fun h => ?_, read_write_member hname⟩
  have hmade := made_of_read h (by
    rw [Text.isEncodable_append, isEncodable_write, hf]
    rfl)
  cases hmade with
  | object _ _ made =>
      cases made _ (List.mem_singleton_self _) with
      | scalar decoded => exact decoded

end Marginalia.Json
