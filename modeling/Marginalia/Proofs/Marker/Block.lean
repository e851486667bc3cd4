/-
Property blocks: where they end and how deep they may nest. Two walks look
at a block. The matcher of braces cuts it out of the line and the guard of
depth goes ahead of the reader; both count brackets outside strings. The
reader follows the grammar. They agree:

- a block that is read ends for the matcher where it ends for the reader,
  whatever follows it, and a block that the matcher finds no end of is never
  read but reported (`block_ends_alike`);
- the guard refuses just the JSON texts that are too deep, and what it lets
  pass, JSON or not, never makes the reader run out of room
  (`nesting_guarded`).
-/
import Mathlib.Data.List.Basic
import Marginalia.Proofs.Json.Guard
import Marginalia.Proofs.Marker.Written
import Marginalia.Marker.Payload

namespace Marginalia.Marker

open Json (maxDepth)
open Json.Grammar

-- ========================================================== what is read

/-- A piece that is decoded without a problem was read. -/
theorem read_of_decodePiece {ε α : Type} {default : α}
    {read : Text → Except ε α} {raw : Text}
    (h : (decodePiece default read (some raw)).2 = []) :
    ∃ a, read raw = .ok a := by
  unfold decodePiece at h
  cases hr : read raw with
  | ok a => exact ⟨a, rfl⟩
  | error e =>
      dsimp only at h
      rw [hr] at h
      cases h

/-- A piece that is not read leaves the default and one problem. -/
theorem decodePiece_error {ε α : Type} (default : α)
    {read : Text → Except ε α} {raw : Text} {e : ε}
    (h : read raw = .error e) :
    decodePiece default read (some raw) = (default, [e]) := by
  unfold decodePiece
  dsimp only
  rw [h]

/-- The text of a block that is read is a JSON text. -/
theorem document_of_readProperties {t : Text} {members : Assoc Json}
    (h : readProperties t = .ok members) : ∃ d, Document d t := by
  unfold readProperties at h
  split at h
  · next hread =>
    obtain ⟨d, -, hdocument⟩ := Json.document_of_read hread
    exact ⟨d, hdocument⟩
  · cases h
  · cases h

-- ========================================================= where it ends

/-- A block that is read is balanced text between braces, with white space
behind it; for the matcher it ends there, whatever follows. -/
theorem braceSpan_of_readProperties {t : Text} {members : Assoc Json}
    (h : readProperties (.scalar '\x7b' :: t) = .ok members) :
    ∃ inside s, Spaces s ∧ t = inside ++ .scalar '\x7d' :: s
      ∧ ∀ rest, Text.braceSpan (.scalar '\x7b' :: t ++ rest)
        = some (inside.length + 2) := by
  obtain ⟨d, hdocument⟩ := document_of_readProperties h
  obtain ⟨n, inside, s, hbalanced, hs, ht⟩ := hdocument.braces
  refine ⟨inside, s, hs, ht, fun rest => ?_⟩
  rw [ht, List.cons_append, List.append_assoc, List.cons_append]
  exact hbalanced.braceSpan (s ++ rest)

/-- There is no white space behind a brace that is the last code point. -/
theorem nil_of_getLast? {u s : Text} (hs : Spaces s)
    (h : (u ++ .scalar '\x7d' :: s).getLast? = some (.scalar '\x7d')) :
    s = [] := by
  cases s with
  | nil => rfl
  | cons c s =>
      have hlast : (c :: s).getLast? = some (.scalar '\x7d') := by
        rwa [List.getLast?_append_of_ne_nil _ (List.cons_ne_nil _ _),
          List.getLast?_cons_cons] at h
      exact absurd (hs _ (List.mem_of_getLast? hlast)) (by decide)

/-- A block without an end is not read, however much of it is taken. -/
theorem readProperties_of_braceSpan_none {t u : Text} (hu : u <+: t)
    (hopen : u.head? = some (.scalar '\x7b')) (h : t.braceSpan = none) :
    ∃ e, readProperties u = .error e := by
  cases hread : readProperties u with
  | error e => exact ⟨e, rfl⟩
  | ok members =>
      cases u with
      | nil => cases hopen
      | cons c u =>
          injection hopen with hc
          subst hc
          obtain ⟨rest, rfl⟩ := hu
          obtain ⟨inside, s, -, -, hspan⟩ := braceSpan_of_readProperties hread
          rw [hspan] at h
          cases h

/-- The block of a marker starts with its brace. -/
theorem head?_of_readBlock {t raw : Text} (h : (readBlock t).1 = some raw) :
    raw.head? = some (.scalar '\x7b') := by
  unfold readBlock at h
  split at h
  · next t =>
    split at h
    · injection h with h
      rw [← h]
      rfl
    · next n hspan =>
      injection h with h
      -- the span of a block is not empty
      cases n with
      | zero =>
          unfold Text.braceSpan at hspan
          rw [Text.braceSpanFrom_open, Option.map_eq_some_iff] at hspan
          obtain ⟨k, -, hk⟩ := hspan
          cases hk
      | succ n =>
          rw [← h]
          rfl
  · cases h

/-- The block of the pieces of a marker starts with its brace. -/
theorem head?_of_pieces? {content raw : Text} {p : Pieces}
    (h : pieces? content = some p) (hraw : p.properties = some raw) :
    raw.head? = some (.scalar '\x7b') := by
  rcases (cases_pieces? h).2 with hend | ⟨body, -, hread⟩
  · rw [hend] at hraw
    cases hraw
  · rw [hread] at hraw
    exact head?_of_readBlock hraw

/-- The matcher of braces and the reader agree on where a block ends. A text
from a brace to a brace that is read without a problem is, with anything
behind it, all of the block for the matcher. Where the matcher finds no end,
the text from the brace on, trimmed, is not read but leaves one problem; and
so a marker whose block has no end reports a problem with it and takes no
member from it. -/
theorem block_ends_alike :
    (∀ t rest : Text, t.head? = some (.scalar '\x7b') →
        t.getLast? = some (.scalar '\x7d') →
        (decodePiece [] readProperties (some t)).2 = [] →
        Text.braceSpan (t ++ rest) = some t.length)
      ∧ (∀ (t : Text) (pos : Nat), t[pos]? = some (.scalar '\x7b') →
        Text.braceSpan (t.drop pos) = none →
        ∃ problem, decodePiece [] readProperties
          (some (Text.trimRight (t.drop pos))) = ([], [problem]))
      ∧ ∀ (content raw : Text) (p : Pieces), pieces? content = some p →
        p.properties = some raw → Text.braceSpan raw = none →
        (∃ problem, .properties problem ∈ p.decode.2)
          ∧ p.decode.1.properties
            = (normalizeTags [] (decodeTags p.tags).1).properties := by
  refine ⟨fun t rest hopen hclose hread => ?_, fun t pos hopen hspan => ?_,
    fun content raw p hp hraw hspan => ?_⟩
  · obtain ⟨members, hread⟩ := read_of_decodePiece hread
    cases t with
    | nil => cases hopen
    | cons c t =>
        injection hopen with hc
        subst hc
        obtain ⟨inside, s, hs, rfl, hspan⟩ := braceSpan_of_readProperties hread
        obtain rfl := nil_of_getLast? (u := .scalar '\x7b' :: inside) hs hclose
        rw [hspan]
        congr 1
        simp only [List.length_cons, List.length_append, List.length_nil]
  · have hdrop : (t.drop pos).head? = some (.scalar '\x7b') := by
      rw [List.head?_drop, hopen]
    have hstarts : Text.StartsVisible (t.drop pos) := by
      obtain ⟨rest, hrest⟩ := List.head?_eq_some_iff.1 hdrop
      exact ⟨_, rest, hrest, by decide⟩
    obtain ⟨c, rest, htrim, -⟩ := Text.startsVisible_trimRight hstarts
    have hprefix := Text.trimRight_prefix (t.drop pos)
    have hhead : (Text.trimRight (t.drop pos)).head?
        = some (.scalar '\x7b') := by
      obtain ⟨more, hmore⟩ := hprefix
      rw [← hmore, htrim] at hdrop
      rw [htrim]
      exact hdrop
    obtain ⟨problem, hproblem⟩ :=
      readProperties_of_braceSpan_none hprefix hhead hspan
    exact ⟨problem, decodePiece_error [] hproblem⟩
  · obtain ⟨problem, hproblem⟩ := readProperties_of_braceSpan_none
      (List.prefix_refl raw) (head?_of_pieces? hp hraw) hspan
    have hdecode := decodePiece_error [] hproblem
    unfold Pieces.decode
    rw [hraw, hdecode]
    refine ⟨⟨problem, ?_⟩, rfl⟩
    simp

/-- Braces in a name and in a value, and arrays inside of a member, with more
braces behind the block; and a block that a quote leaves without an end. -/
theorem block_ends_alike_quoted :
    let t := Text.ofString "\x7b\"a\x7b\": \"\\\"\x7d\", \"b\": [\x7b\x7d, [1]] \x7d"
    let content := Text.ofString "@!k 1 \x7b\"a: 1\x7d"
    Text.braceSpan (t ++ Text.ofString " \x7d \x7b") = some t.length
      ∧ (∃ problem, decodePiece [] readProperties
          (some (Text.trimRight (content.drop 6))) = ([], [problem]))
      ∧ ∃ p, pieces? content = some p
        ∧ ∃ problem, .properties problem ∈ p.decode.2 := by
  intro t content
  obtain ⟨hread, hunmatched, hmarker⟩ := block_ends_alike
  have hmembers : (readProperties t).toOption.isSome = true := by
    decide +kernel
  obtain ⟨p, hp, hraw⟩ : ∃ p, pieces? content = some p
      ∧ p.properties = some (content.drop 6) := by
    have hpieces : (pieces? content).bind (·.properties)
        = some (content.drop 6) := by decide +kernel
    exact Option.bind_eq_some_iff.1 hpieces
  refine ⟨hread t _ rfl rfl ?_, hunmatched content 6 rfl (by decide +kernel),
    p, hp, (hmarker content _ p hp hraw (by decide +kernel)).1⟩
  unfold decodePiece
  dsimp only
  split
  · rfl
  · next e he =>
    rw [he] at hmembers
    cases hmembers

-- ======================================================== how deep it is

/-- The guard of depth is what a block that nests too deeply is refused
by. -/
theorem readProperties_eq_nestedTooDeeply {t : Text} :
    readProperties t = .error (.unreadable .nestedTooDeeply)
      ↔ t.nestsDeeper maxDepth = true := by
  rw [← Json.read_eq_nestedTooDeeply]
  unfold readProperties
  constructor
  · intro h
    split at h
    · cases h
    · cases h
    · next cause hread =>
      injection h with h
      injection h with h
      rw [hread, h]
  · intro h
    rw [h]

/-- The guard of depth is exact, and it protects the reader. A block whose
text is JSON is refused for its depth just when it is deeper than the limit,
which is to say that some point of the text lies inside more arrays and
objects than that. On a text that the guard lets pass, JSON or not, the
reader has never more of them open than the limit: with room for so many it
does not run out, and with more room it does the same; and room is room for
just these, since nothing is read that is deeper than the room for it. So no
text is refused for want of room. -/
theorem nesting_guarded :
    (∀ (d : Nat) (t : Text), Document d t →
        (decodePiece [] readProperties (some t)
            = ([], [.unreadable .nestedTooDeeply]) ↔ maxDepth < d)
          ∧ (maxDepth < d
            ↔ ∃ u, u <+: t ∧ maxDepth < Quoting.outside.opened u))
      ∧ (∀ t : Text, t.nestsDeeper maxDepth = false →
        ∀ fuel room, maxDepth ≤ room →
          Json.readValue fuel maxDepth (Json.skipSpace t) ≠ .error .noRoom
            ∧ Json.readValue fuel room (Json.skipSpace t)
              = Json.readValue fuel maxDepth (Json.skipSpace t))
      ∧ (∀ fuel room t v rest, Json.readValue fuel room t = .ok (v, rest) →
        ∃ u, t = u ++ rest ∧ ∃ d ≤ room, Phrase .value d u)
      ∧ ∀ t : Text, Json.read t ≠ .error .noRoom := by
  refine ⟨fun d t hdocument => ?_, fun t hpass fuel room hroom =>
    Json.settles_of_nestsDeeper hpass fuel hroom, fun fuel room =>
    (Json.takes_read fuel room).1, Json.read_ne_noRoom⟩
  have hdepth : t.nestsDeeper maxDepth = true ↔ maxDepth < d :=
    hdocument.nested.nestsDeeper
  refine ⟨?_, hdepth.symm.trans Text.nestsDeeper_iff⟩
  rw [← hdepth, ← readProperties_eq_nestedTooDeeply]
  constructor
  · intro h
    cases hread : readProperties t with
    | ok members =>
        unfold decodePiece at h
        dsimp only at h
        rw [hread] at h
        cases h
    | error e =>
        rw [decodePiece_error [] hread] at h
        injection h with _ h
        injection h with h
        rw [h]
  · exact fun h => decodePiece_error [] h

/-- Empty brackets inside brackets are a value, one level deep for each
pair. -/
theorem phrase_brackets (n : Nat) :
    Phrase .value (n + 1) (List.replicate (n + 1) (.scalar '[')
      ++ List.replicate (n + 1) (.scalar ']')) := by
  induction n with
  | zero => exact .empty .array .nil
  | succ n ih =>
      have h := Phrase.full (k := .array) .nil (.last (.item ih .nil))
      rw [List.replicate_succ (n := n + 1), List.replicate_succ' (n := n + 1),
        List.cons_append, ← List.append_assoc]
      rwa [List.append_nil, List.nil_append] at h

/-- A member with a bracket in its name, whose value is as deep as may be or
one deeper; and a text that is no JSON and closes more than it opens. -/
theorem nesting_guarded_at_limit :
    let block (n : Nat) : Text := Text.ofString "\x7b\"[\":"
      ++ (List.replicate (n + 1) (.scalar '[')
        ++ List.replicate (n + 1) (.scalar ']')) ++ Text.ofString "\x7d"
    let t := Text.ofString "[]]\x7b\"[\":[[\\\""
    decodePiece [] readProperties (some (block 63))
        = ([], [.unreadable .nestedTooDeeply])
      ∧ decodePiece [] readProperties (some (block 62))
        ≠ ([], [.unreadable .nestedTooDeeply])
      ∧ t.nestsDeeper maxDepth = false
      ∧ Json.readValue 1000 maxDepth (Json.skipSpace t) ≠ .error .noRoom := by
  intro block t
  obtain ⟨hexact, hprotects, -⟩ := nesting_guarded
  have hdocument (n : Nat) : Document (n + 2) (block n) := by
    have hname : StringBody (Text.ofString "[") :=
      .plain (by decide) (by decide) (by decide) .nil
    have hentries := Phrase.last
      (Phrase.member hname .nil .nil (phrase_brackets n) .nil)
    have h := Document.mk .nil (.full (k := .object) .nil hentries) .nil
    simp only [List.append_nil, List.nil_append] at h
    exact h
  have hpass : t.nestsDeeper maxDepth = false := by decide
  refine ⟨(hexact _ _ (hdocument 63)).1.2 (by decide), fun h => ?_, hpass,
    (hprotects t hpass 1000 maxDepth (Nat.le_refl _)).1⟩
  exact absurd ((hexact _ _ (hdocument 62)).1.1 h) (by decide)

end Marginalia.Marker
