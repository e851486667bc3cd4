/-
The guard of depth protects the reader. The guard counts brackets in a flat
walk and knows nothing of the grammar; the reader opens arrays and objects
inside each other and needs room for them. On a text that is no JSON the two
may part, but the reader stops there: up to the place that it has come to,
all it took is phrases of the grammar, so the count of the guard is exactly
the number of arrays and objects that are open, and an opening bracket for
which there is no room is one at which the guard stops.

`Passes limit depth` is what is known of the text that is left: the guard,
counting on from a depth within the limit, lets it pass. With room up to the
limit the reader then never runs out of it, and to have more room makes no
difference (`unhindered_read`).
-/
import Marginalia.Proofs.Json.Parsed

namespace Marginalia.Json

open Grammar
open Text (Flat Nested)

-- ============================================================ the guard

/-- The guard, counting on from a depth within the limit, lets the text
pass. -/
structure Passes (limit depth : Int) (t : Text) : Prop where
  depth_le : depth ≤ limit
  passes : Text.nestsDeeperFrom limit .outside depth t = false

namespace Passes

variable {limit depth : Int} {t rest : Text}

/-- Behind a nested piece the guard still lets the text pass. -/
theorem behind {n : Nat} {u : Text} (h : Passes limit depth (u ++ rest))
    (hu : Nested n u) : Passes limit depth rest := by
  have hpass := h.passes
  rw [hu.nestsDeeperFrom h.depth_le, Bool.or_eq_false_iff] at hpass
  exact ⟨h.depth_le, hpass.2⟩

theorem spaces (h : Passes limit depth t) :
    Passes limit depth (skipSpace t) := by
  obtain ⟨s, hs, heq⟩ := spaces_skipSpace t
  rw [heq] at h
  exact h.behind (.flat hs.flat)

/-- Behind a comma or a colon, white space skipped, the guard still lets the
text pass. -/
theorem separator {c : CodePoint} (h : Passes limit depth (c :: t))
    (hc : c = .scalar ',' ∨ c = .scalar ':') :
    Passes limit depth (skipSpace t) :=
  (behind (u := [c]) h (.flat (flat_separator hc))).spaces

/-- A container is opened within the limit. -/
theorem enter {k : Container} (h : Passes limit depth (k.opener :: t)) :
    Passes limit (depth + 1) (skipSpace t) := by
  have hopen : k.opener = .scalar '[' ∨ k.opener = .scalar '\x7b' := by
    cases k
    · exact .inl rfl
    · exact .inr rfl
  have hone : Quoting.outside.opening k.opener = 1 := by
    rw [Quoting.opening, if_pos rfl, CodePoint.opening, if_pos hopen]
  have hstep : Quoting.outside.step k.opener = .outside := by cases k <;> rfl
  have hpass := h.passes
  rw [Text.nestsDeeperFrom_cons, hone, hstep, Bool.or_eq_false_iff,
    decide_eq_false_iff_not] at hpass
  have hinside : Passes limit (depth + 1) t := ⟨by omega, hpass.2⟩
  exact hinside.spaces

end Passes

-- ============================================================== results

section Results

variable {α β : Type}

/-- The result is not a refusal for want of room, and another run has the
same. -/
def Settles (x y : Except Failure α) : Prop := x ≠ .error .noRoom ∧ y = x

theorem Settles.same {x : Except Failure α} (h : x ≠ .error .noRoom) :
    Settles x x := ⟨h, rfl⟩

theorem settles_ok (a : α) :
    Settles (.ok a : Except Failure α) (.ok a) :=
  .same fun h => nomatch h

theorem settles_malformed (fault : Fault) (left : Text) :
    Settles (.error (.malformed fault left) : Except Failure α)
      (.error (.malformed fault left)) :=
  .same fun h => nomatch h

/-- A refusal that is handed on. -/
theorem settles_error {x : Except Failure α} {e : Failure}
    (hne : x ≠ .error .noRoom) (he : x = .error e) :
    Settles (.error e : Except Failure β) (.error e) :=
  .same fun h => hne (by injection h with h; rw [he, h])

theorem Settles.map {x y : Except Failure α} (h : Settles x y)
    (f : α → β) : Settles (x.map f) (y.map f) := by
  obtain ⟨hne, rfl⟩ := h
  cases y with
  | error e => exact settles_error hne rfl
  | ok a => exact settles_ok (f a)

end Results

-- ============================================================== tokens

/-- A string is not refused for want of room. -/
theorem readString_ne_noRoom (t : Text) : readString t ≠ .error .noRoom :=
  fun h => ofToken_readString h

/-- A word or a number is not refused for want of room. -/
theorem readWord_ne_noRoom (t : Text) : readWord t ≠ .error .noRoom :=
  fun h => ofToken_readWord h

-- ============================================================== values

/-- On text that the guard lets pass, two runs that have room up to the
limit at least end alike, and not for want of room. -/
def Unhindered {α : Type} (limit : Int)
    (reader : Nat → Text → Except Failure α) : Prop :=
  ∀ (depth : Int) (t : Text) (room room' : Nat), Passes limit depth t →
    limit ≤ depth + room → limit ≤ depth + room' →
      Settles (reader room t) (reader room' t)

section Steps

variable {limit : Int} {fuel : Nat}

/-- What stands behind a value that was read passes as well. -/
theorem Passes.value {depth : Int} {t rest : Text} {v : Json} {room : Nat}
    (h : Passes limit depth t)
    (hv : readValue fuel room t = .ok (v, rest)) :
    Passes limit depth (skipSpace rest) := by
  obtain ⟨u, rfl, d, -, hphrase⟩ := (takes_read fuel room).1 _ _ _ hv
  exact (h.behind hphrase.nested).spaces

/-- A value is read in one step from elements or members. A bracket that is
opened takes one level of the room, and there is one. -/
theorem unhindered_readValue (hitems : Unhindered limit (readItems fuel))
    (hmembers : Unhindered limit (readMembers fuel)) :
    Unhindered limit (readValue (fuel + 1)) := by
  intro depth t room room' hpass hroom hroom'
  rw [readValue.eq_def, readValue.eq_def (fuel + 1) room']
  dsimp only
  split
  · exact settles_malformed ..
  · next c t =>
    split
    · exact (Settles.same (readString_ne_noRoom _)).map _
    · split
      · next hopen =>
        subst hopen
        have hinside := Passes.enter (k := .array) hpass
        have hdepth := hinside.depth_le
        obtain ⟨r, rfl⟩ : ∃ r, room = r + 1 := ⟨room - 1, by omega⟩
        obtain ⟨r', rfl⟩ : ∃ r', room' = r' + 1 := ⟨room' - 1, by omega⟩
        dsimp only
        split
        · exact settles_ok _
        · exact (hitems _ _ r r' hinside (by omega) (by omega)).map _
      · split
        · next hopen =>
          subst hopen
          have hinside := Passes.enter (k := .object) hpass
          have hdepth := hinside.depth_le
          obtain ⟨r, rfl⟩ : ∃ r, room = r + 1 := ⟨room - 1, by omega⟩
          obtain ⟨r', rfl⟩ : ∃ r', room' = r' + 1 := ⟨room' - 1, by omega⟩
          dsimp only
          split
          · exact settles_ok _
          · exact (hmembers _ _ r r' hinside (by omega) (by omega)).map _
        · exact (Settles.same (readWord_ne_noRoom _)).map _

variable (hvalue : Unhindered limit (readValue fuel))

include hvalue

/-- The elements of an array are read in one step from the first of them and
the others. -/
theorem unhindered_readItems (hitems : Unhindered limit (readItems fuel)) :
    Unhindered limit (readItems (fuel + 1)) := by
  intro depth t room room' hpass hroom hroom'
  obtain ⟨hne, heq⟩ := hvalue depth t room room' hpass hroom hroom'
  rw [readItems.eq_def, readItems.eq_def (fuel + 1) room']
  dsimp only
  rw [heq]
  split
  · next e he => exact settles_error hne he
  · next v rest hv =>
    have hrest := hpass.value hv
    split
    · exact settles_ok _
    · next after hcomma =>
      rw [hcomma] at hrest
      have hafter := hrest.separator (.inl rfl)
      exact (hitems _ _ _ _ hafter hroom hroom').map _
    · exact settles_malformed ..

/-- The members of an object are read in one step from the first of them and
the others. -/
theorem unhindered_readMembers
    (hmembers : Unhindered limit (readMembers fuel)) :
    Unhindered limit (readMembers (fuel + 1)) := by
  intro depth t room room' hpass hroom hroom'
  rw [readMembers.eq_def, readMembers.eq_def (fuel + 1) room']
  dsimp only
  split
  · next t =>
    split
    · next e he => exact settles_error (readString_ne_noRoom _) he
    · next name left hname =>
      obtain ⟨body, hbody, ht⟩ := of_readString hname
      rw [ht] at hpass
      have hleft := (hpass.behind (.flat (Flat.quoted hbody.inner))).spaces
      split
      · next body hcolon =>
        rw [hcolon] at hleft
        have hbody := hleft.separator (.inr rfl)
        obtain ⟨hne, heq⟩ := hvalue _ _ room room' hbody hroom hroom'
        rw [heq]
        split
        · next e he => exact settles_error hne he
        · next v rest hv =>
          have hrest := hbody.value hv
          split
          · exact settles_ok _
          · next after hcomma =>
            rw [hcomma] at hrest
            have hafter := hrest.separator (.inl rfl)
            exact (hmembers _ _ _ _ hafter hroom hroom').map _
          · exact settles_malformed ..
      · exact settles_malformed ..
  · exact settles_malformed ..

end Steps

/-- No reader is hindered, whatever the text. -/
theorem unhindered_read (limit : Int) (fuel : Nat) :
    Unhindered limit (readValue fuel) ∧ Unhindered limit (readItems fuel)
      ∧ Unhindered limit (readMembers fuel) := by
  induction fuel with
  | zero =>
      refine ⟨?_, ?_, ?_⟩
      · intro depth t room room' _ _ _
        rw [readValue.eq_def, readValue.eq_def 0 room']
        exact settles_malformed ..
      · intro depth t room room' _ _ _
        rw [readItems.eq_def, readItems.eq_def 0 room']
        exact settles_malformed ..
      · intro depth t room room' _ _ _
        rw [readMembers.eq_def, readMembers.eq_def 0 room']
        exact settles_malformed ..
  | succ fuel ih =>
      obtain ⟨hvalue, hitems, hmembers⟩ := ih
      exact ⟨unhindered_readValue hitems hmembers,
        unhindered_readItems hvalue hitems,
        unhindered_readMembers hvalue hmembers⟩

-- ======================================================== whole texts

/-- The reader of a text that the guard lets pass does not run out of room
with room up to the limit, and any room beyond makes no difference. -/
theorem settles_of_nestsDeeper {limit : Nat} {t : Text}
    (h : t.nestsDeeper limit = false) (fuel : Nat) {room : Nat}
    (hroom : limit ≤ room) :
    Settles (readValue fuel limit (skipSpace t))
      (readValue fuel room (skipSpace t)) := by
  have hpass : Passes limit 0 t := ⟨Int.natCast_nonneg limit, h⟩
  exact (unhindered_read limit fuel).1 0 _ limit room hpass.spaces
    (by omega) (by omega)

/-- No text is refused for want of room: the guard refuses it first. -/
theorem read_ne_noRoom (t : Text) : read t ≠ .error .noRoom := by
  unfold read
  split
  · intro h
    cases h
  · next hguard =>
    have hwhole : readWhole t ≠ .error .noRoom := by
      unfold readWhole
      split
      · intro h
        cases h
      · have hsettles := settles_of_nestsDeeper
          (Bool.eq_false_iff.2 hguard) (2 * t.length + 2) (Nat.le_refl _)
        split
        · next e he => exact (settles_error hsettles.1 he).1
        · split <;> · intro h; cases h
    cases hread : readWhole t with
    | ok v =>
        intro h
        cases h
    | error e =>
        rw [hread] at hwhole
        intro h
        cases e with
        | noRoom => exact hwhole rfl
        | malformed | constant | outOfRange | tooManyDigits => cases h

/-- The refusal of the guard is the only one that speaks of depth. -/
theorem read_eq_nestedTooDeeply {t : Text} :
    read t = .error .nestedTooDeeply ↔ t.nestsDeeper maxDepth = true := by
  unfold read
  split
  · next h => exact ⟨fun _ => h, fun _ => rfl⟩
  · next h =>
    refine ⟨fun he => ?_, fun hd => absurd hd h⟩
    cases hread : readWhole t with
    | ok v =>
        rw [hread] at he
        cases he
    | error e =>
        rw [hread] at he
        cases e <;> cases he

end Marginalia.Json
