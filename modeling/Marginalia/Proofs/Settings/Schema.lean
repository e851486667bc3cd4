/-
The schema of a table of settings, said without the readers, and how the
readers keep to it.

`Conforms block` is the schema with a form for the entry `block` of a style.
As it is documented that is an array of pairs of marks; the reader takes an
empty text and an empty table for an empty array as well. A table is read
just when it conforms to what is taken. One that does not is refused with an
error that a run reports, but for two: a `block` that is no list, and a wrong
number of workers that cannot even be shown. Where each `block` is an array
the readers keep to the documented schema, and where a wrong number of
workers can be shown they refuse in the one way (`ofTable_schema`).
-/
import Mathlib.Data.List.Forall2
import Marginalia.Project
import Marginalia.Proofs.Assoc

namespace Marginalia.Settings

open Toml (Limits Value)

-- ============================================================== forms

/-- An array whose elements all have a form. -/
def IsArray (form : Value → Prop) (v : Value) : Prop :=
  ∃ items, v = .array items ∧ ∀ x ∈ items, form x

/-- A table whose values all have a form. -/
def IsTable (form : Value → Prop) (v : Value) : Prop :=
  ∃ entries, v = .table entries ∧ ∀ entry ∈ entries, form entry.2

/-- A text. -/
def IsText (v : Value) : Prop := ∃ t, v = .scalar (.str t)

/-- The name of a kind of diagnostics. -/
def IsKind (v : Value) : Prop :=
  ∃ t kind, v = .scalar (.str t) ∧ Diagnostic.Kind.ofName? t = some kind

/-- A whole number, at least one. -/
def IsJobs (v : Value) : Prop := ∃ n : Int, 1 ≤ n ∧ v = .scalar (.int n)

/-- A truth value. -/
def IsChoice (v : Value) : Prop := ∃ b, v = .scalar (.bool b)

/-- A mark: a text that is not empty. -/
def IsMark (v : Value) : Prop := ∃ t, t ≠ [] ∧ v = .scalar (.str t)

/-- A pair of marks. -/
def IsPair (v : Value) : Prop :=
  ∃ left right, IsMark left ∧ IsMark right ∧ v = .array [left, right]

/-- What is taken for the pairs of marks of a style: an array of them, or an
empty text or table. -/
def IsTaken (v : Value) : Prop :=
  IsArray IsPair v ∨ v = .scalar (.str []) ∨ v = .table []

/-- What cannot be gone through: neither a text nor an array nor a table. -/
def IsSingle (v : Value) : Prop :=
  (∃ s, v = .scalar s ∧ ∀ t, s ≠ .str t) ∨ ∃ m, v = .moment m

-- ============================================================= schema

/-- The entry of a key has a form, if there is one. -/
def Present (table : Assoc Value) (key : Text) (form : Value → Prop) : Prop :=
  ∀ v, table.get? key = some v → form v

/-- A style, with a form for its entry `block`. -/
def IsStyle (block : Value → Prop) (v : Value) : Prop :=
  ∃ row, v = .table row ∧ Present row "line" (IsArray IsMark)
    ∧ Present row "block" block

/-- Every entry that is present has its form. -/
structure Conforms (block : Value → Prop) (table : Assoc Value) : Prop where
  patterns : Present table "include" (IsArray IsText)
  exclude : Present table "exclude" (IsArray IsText)
  jobs : Present table "jobs" IsJobs
  reportUnrecognized : Present table "report_unrecognized" IsChoice
  failOn : Present table "fail_on" (IsArray IsKind)
  languages : Present table "languages" (IsTable IsText)
  profiles : Present table "profiles" (IsTable (IsStyle block))

section

variable {table : Assoc Value} {key : Text} {form : Value → Prop} {v : Value}

theorem present_none (h : table.get? key = none) :
    Present table key form := by
  intro v hv
  rw [h] at hv
  cases hv

theorem present_some (h : table.get? key = some v) :
    Present table key form ↔ form v := by
  constructor
  · exact fun hp => hp v h
  · intro hv w hw
    rw [h] at hw
    injection hw with hw
    rwa [← hw]

end

-- ============================================================ refusals

/-- The style `language` has an entry `block`. -/
def HasBlock (table : Assoc Value) (language : Text) (v : Value) : Prop :=
  ∃ members row, table.get? "profiles" = some (.table members)
    ∧ (language, .table row) ∈ members ∧ Assoc.get? row "block" = some v

/-- The errors that a table is refused with. All but two are reported. -/
inductive Refusal (limits : Limits) (table : Assoc Value) :
    SettingsError → Prop
  | reported {e : SettingsError}
      (reported : (ProjectError.settings e).isReported = true) :
      Refusal limits table e
  | notList {language : Text} {v : Value} (block : HasBlock table language v)
      (single : IsSingle v) :
      Refusal limits table (.blockMarksNotList language)
  | unshown {v : Value} {why : Value.Unshown}
      (jobs : table.get? "jobs" = some v) (improper : ¬ IsJobs v)
      (why_eq : v.unshown? limits.shownDepth = some why) :
      Refusal limits table (.unshownJobs why)

variable (limits : Limits)

-- ============================================================ readings

section Readings

variable {α β : Type} {proper proper' : Prop} {made : α → Prop}
variable {made' : β → Prop} {refusal : SettingsError → Prop}

/-- A value is found just when something is proper, and what is found has
been made as it should be. -/
def Decides (proper : Prop) (made : α → Prop) : Option α → Prop
  | some a => proper ∧ made a
  | none => ¬ proper

/-- A reading succeeds just when what is read is proper, makes of it what it
should, and is refused with certain errors only. -/
def Judges (proper : Prop) (refusal : SettingsError → Prop)
    (made : α → Prop) : Except SettingsError α → Prop
  | .ok a => proper ∧ made a
  | .error e => ¬ proper ∧ refusal e

theorem Decides.found {x : Option α} {a : α} (h : Decides proper made x)
    (hx : x = some a) : proper ∧ made a := by
  rwa [hx] at h

theorem Decides.not_found {x : Option α} (h : Decides proper made x)
    (hx : x = none) : ¬ proper := by
  rwa [hx] at h

theorem Judges.of_iff {x : Except SettingsError α}
    (h : Judges proper refusal made x) (hiff : proper' ↔ proper) :
    Judges proper' refusal made x := by
  rwa [propext hiff]

/-- All elements are found when each of them is proper. -/
theorem Decides.mapM {f : β → Option α} {form : β → Prop}
    {makes : β → α → Prop} (h : ∀ x, Decides (form x) (makes x) (f x))
    (items : List β) :
    Decides (∀ x ∈ items, form x) (List.Forall₂ makes items)
      (items.mapM f) := by
  induction items with
  | nil => exact ⟨List.forall_mem_nil _, .nil⟩
  | cons x items ih =>
      have hx := h x
      rw [List.mapM_cons]
      cases hfx : f x with
      | none =>
          rw [hfx] at hx
          exact fun hall => hx (hall x (List.mem_cons_self ..))
      | some a =>
          rw [hfx] at hx
          cases hrest : items.mapM f with
          | none =>
              rw [hrest] at ih
              exact fun hall => ih (List.forall_mem_cons.1 hall).2
          | some rest =>
              rw [hrest] at ih
              exact ⟨List.forall_mem_cons.2 ⟨hx.1, ih.1⟩, .cons hx.2 ih.2⟩

/-- What is found of elements has been made as it should be. -/
theorem forall_mem_of_forall₂ {items : List β} {found : List α}
    (h : List.Forall₂ (fun _ => made) items found) : ∀ a ∈ found, made a := by
  induction h with
  | nil => exact List.forall_mem_nil _
  | cons ha _ ih => exact List.forall_mem_cons.2 ⟨ha, ih⟩

theorem Judges.mono {x : Except SettingsError α} {m : α → Prop}
    (h : Judges proper refusal made x) (hm : ∀ a, made a → m a) :
    Judges proper refusal m x := by
  cases x with
  | error e => exact h
  | ok a => exact ⟨h.1, hm a h.2⟩

/-- A reading that goes on with what it has made. -/
theorem Judges.bind {x : Except SettingsError α}
    {f : α → Except SettingsError β} (hx : Judges proper refusal made x)
    (hf : ∀ a, made a → Judges proper' refusal made' (f a)) :
    Judges (proper ∧ proper') refusal made' (x >>= f) := by
  cases x with
  | error e => exact ⟨fun h => hx.1 h.1, hx.2⟩
  | ok a =>
      have ha := hf a hx.2
      show Judges _ _ _ (f a)
      cases hfa : f a with
      | error e =>
          rw [hfa] at ha
          exact ⟨fun h => ha.1 h.2, ha.2⟩
      | ok b =>
          rw [hfa] at ha
          exact ⟨⟨hx.1, ha.1⟩, ha.2⟩

/-- A reading whose result is put into a form. -/
theorem Judges.map {x : Except SettingsError α} {f : α → β}
    (hx : Judges proper refusal made x) (hf : ∀ a, made a → made' (f a)) :
    Judges proper refusal made' (x >>= fun a => pure (f a)) := by
  cases x with
  | error e => exact hx
  | ok a => exact ⟨hx.1, hf a hx.2⟩

/-- All elements are read when each of them is proper. -/
theorem Judges.mapM {f : β → Except SettingsError α} {form : β → Prop}
    {items : List β} (h : ∀ x ∈ items, Judges (form x) refusal made (f x)) :
    Judges (∀ x ∈ items, form x) refusal (∀ a ∈ ·, made a)
      (items.mapM f) := by
  induction items with
  | nil => exact ⟨List.forall_mem_nil _, List.forall_mem_nil _⟩
  | cons x items ih =>
      obtain ⟨hx, hitems⟩ := List.forall_mem_cons.1 h
      rw [List.mapM_cons]
      refine (hx.bind fun a ha => (ih hitems).map fun rest hrest => ?_).of_iff
        List.forall_mem_cons
      exact List.forall_mem_cons.2 ⟨ha, hrest⟩

end Readings

-- ============================================================= values

theorem decides_str? (v : Value) :
    Decides (IsText v) (fun t => v = .scalar (.str t)) v.str? := by
  unfold Value.str?
  split
  · exact ⟨⟨_, rfl⟩, rfl⟩
  · next hne => exact fun ⟨t, ht⟩ => hne t ht

theorem decides_mark? (v : Value) :
    Decides (IsMark v) (· ≠ []) (mark? v) := by
  have hstr := decides_str? v
  unfold mark?
  cases h : v.str? with
  | none => exact fun ⟨t, _, ht⟩ => hstr.not_found h ⟨t, ht⟩
  | some t =>
      have hv := (hstr.found h).2
      cases t with
      | nil =>
          rintro ⟨t, hne, ht⟩
          rw [hv] at ht
          injection ht with ht
          injection ht with ht
          exact hne ht.symm
      | cons c t =>
          exact ⟨⟨_, List.cons_ne_nil _ _, hv⟩, List.cons_ne_nil _ _⟩

theorem decides_blockMark? (v : Value) :
    Decides (IsPair v) (fun pair => pair.1 ≠ [] ∧ pair.2 ≠ [])
      (blockMark? v) := by
  unfold blockMark?
  split
  · next left right =>
    have hleft := decides_mark? left
    have hright := decides_mark? right
    split
    · next l r hl hr =>
      have hl := hleft.found hl
      have hr := hright.found hr
      exact ⟨⟨left, right, hl.1, hr.1, rfl⟩, hl.2, hr.2⟩
    · next hne =>
      rintro ⟨left', right', hl, hr, heq⟩
      injection heq with heq
      injection heq with hleft' heq
      injection heq with hright'
      subst hleft' hright'
      cases hml : mark? left with
      | none => exact hleft.not_found hml hl
      | some l =>
          cases hmr : mark? right with
          | none => exact hright.not_found hmr hr
          | some r => exact hne l r hml hmr
  · next hne => exact fun ⟨left, right, _, _, heq⟩ => hne left right heq

theorem decides_textMember? (member : Text × Value) :
    Decides (IsText member.2) (fun _ => True) (textMember? member) := by
  have hstr := decides_str? member.2
  unfold textMember?
  cases h : member.2.str? with
  | none => exact hstr.not_found h
  | some t => exact ⟨(hstr.found h).1, trivial⟩

/-- The elements of an array are found when each of them has its form. -/
theorem decides_items {α : Type} {form : Value → Prop}
    {makes : Value → α → Prop} {f : Value → Option α}
    (h : ∀ x, Decides (form x) (makes x) (f x)) (items : List Value) :
    Decides (IsArray form (.array items)) (List.Forall₂ makes items)
      (items.mapM f) := by
  have hall := Decides.mapM h items
  cases hfound : items.mapM f with
  | none =>
      rintro ⟨items', heq, hitems⟩
      injection heq with heq
      exact hall.not_found hfound (heq ▸ hitems)
  | some found =>
      have hall := hall.found hfound
      exact ⟨⟨items, rfl, hall.1⟩, hall.2⟩

/-- The texts of an array are found with nothing else in it. -/
theorem decides_texts? (v : Value) :
    Decides (IsArray IsText v)
      (fun ts => v = .array (ts.map fun t => .scalar (.str t)))
      v.texts? := by
  unfold Value.texts?
  split
  · next items =>
    have hall := decides_items decides_str? items
    cases h : items.mapM Value.str? with
    | none => exact hall.not_found h
    | some ts =>
        obtain ⟨harray, htexts⟩ := hall.found h
        refine ⟨harray, ?_⟩
        congr 1
        rwa [← List.forall₂_eq_eq_eq, List.forall₂_map_right_iff]
  · next hne => exact fun ⟨items, heq, _⟩ => hne items heq

-- ============================================================= entries

section Entries

variable (table : Assoc Value)

theorem judges_readTexts (key : Text) (default : List Text) :
    Judges (Present table key (IsArray IsText)) (Refusal limits table)
      (fun ts => Present table key
        (· = .array (ts.map fun t => .scalar (.str t))))
      (readTexts table key default) := by
  unfold readTexts
  split
  · next h => exact ⟨present_none h, present_none h⟩
  · next v h =>
    have htexts := decides_texts? v
    split
    · next ts hts =>
      obtain ⟨harray, hv⟩ := htexts.found hts
      exact ⟨(present_some h).2 harray, (present_some h).2 hv⟩
    · next hts =>
      exact ⟨fun hp => htexts.not_found hts ((present_some h).1 hp),
        .reported rfl⟩

/-- What is said of a wrong number of workers. -/
theorem judges_refusedJobs {v : Value} (h : table.get? "jobs" = some v)
    (hv : ¬ IsJobs v) :
    Judges (Present table "jobs" IsJobs) (Refusal limits table) (fun _ => True)
      (.error (refusedJobs limits v) : Except SettingsError Nat) := by
  refine ⟨fun hp => hv ((present_some h).1 hp), ?_⟩
  unfold refusedJobs
  split
  · exact .reported rfl
  · next why hwhy => exact .unshown h hv hwhy

theorem judges_readJobs (default : Nat) :
    Judges (Present table "jobs" IsJobs) (Refusal limits table) (fun _ => True)
      (readJobs limits table default) := by
  unfold readJobs
  split
  · next h => exact ⟨present_none h, trivial⟩
  · next n h =>
    by_cases hn : 1 ≤ n
    · rw [if_pos hn]
      exact ⟨(present_some h).2 ⟨n, hn, rfl⟩, trivial⟩
    · rw [if_neg hn]
      apply judges_refusedJobs limits table h
      rintro ⟨m, hm, heq⟩
      injection heq with heq
      injection heq with heq
      exact hn (heq ▸ hm)
  · next v hne h =>
    apply judges_refusedJobs limits table h
    rintro ⟨n, -, heq⟩
    exact hne n heq

theorem judges_readReport (default : Bool) :
    Judges (Present table "report_unrecognized" IsChoice) (Refusal limits table)
      (fun _ => True) (readReport table default) := by
  unfold readReport
  split
  · next h => exact ⟨present_none h, trivial⟩
  · next b h => exact ⟨(present_some h).2 ⟨b, rfl⟩, trivial⟩
  · next v hne h =>
    refine ⟨fun hp => ?_, .reported rfl⟩
    obtain ⟨b, heq⟩ := (present_some h).1 hp
    exact hne b heq

theorem judges_readKind (name : Text) :
    Judges (∃ kind, Diagnostic.Kind.ofName? name = some kind)
      (Refusal limits table) (fun _ => True) (readKind name) := by
  unfold readKind
  cases h : Diagnostic.Kind.ofName? name with
  | some kind => exact ⟨⟨kind, rfl⟩, trivial⟩
  | none => exact ⟨fun ⟨_, hkind⟩ => (nomatch hkind), .reported rfl⟩

/-- Texts that are all names of kinds. -/
theorem isArray_isKind_iff (ts : List Text) :
    IsArray IsKind (.array (ts.map fun t => .scalar (.str t)))
      ↔ ∀ t ∈ ts, ∃ kind, Diagnostic.Kind.ofName? t = some kind := by
  constructor
  · rintro ⟨items, heq, hitems⟩ t ht
    injection heq with heq
    subst heq
    obtain ⟨t', kind, heq, hkind⟩ := hitems _ (List.mem_map_of_mem ht)
    injection heq with heq
    injection heq with heq
    exact ⟨kind, heq ▸ hkind⟩
  · intro hall
    refine ⟨_, rfl, fun x hx => ?_⟩
    obtain ⟨t, ht, rfl⟩ := List.mem_map.1 hx
    obtain ⟨kind, hkind⟩ := hall t ht
    exact ⟨t, kind, rfl, hkind⟩

theorem judges_readFailOn (default : List Diagnostic.Kind) :
    Judges (Present table "fail_on" (IsArray IsKind)) (Refusal limits table)
      (fun _ => True) (readFailOn table default) := by
  unfold readFailOn
  split
  · next h => exact ⟨present_none h, trivial⟩
  · next v h =>
    rw [propext (present_some h)]
    -- they are read as texts first, then each text as the name of a kind
    have htexts := judges_readTexts limits table "fail_on" []
    simp only [propext (present_some h)] at htexts
    have hkinds : ∀ ts : List Text,
        v = .array (ts.map fun t => .scalar (.str t)) →
        Judges (IsArray IsKind v) (Refusal limits table) (fun _ => True)
          (ts.mapM readKind) := by
      rintro ts rfl
      rw [isArray_isKind_iff]
      exact (Judges.mapM fun t _ => judges_readKind limits table t).mono
        fun _ _ => trivial
    refine (htexts.bind hkinds).of_iff ⟨fun hp => ⟨?_, hp⟩, And.right⟩
    obtain ⟨items, heq, hitems⟩ := hp
    refine ⟨items, heq, fun x hx => ?_⟩
    obtain ⟨t, -, ht, -⟩ := hitems x hx
    exact ⟨t, ht⟩

theorem judges_readLanguages :
    Judges (Present table "languages" (IsTable IsText)) (Refusal limits table)
      (fun _ => True) (readLanguages table) := by
  have hrefused : Refusal limits table .languages := .reported rfl
  unfold readLanguages
  split
  · next h => exact ⟨present_none h, trivial⟩
  · next members h =>
    have hall := Decides.mapM decides_textMember? members
    split
    · next languages hl =>
      exact ⟨(present_some h).2 ⟨members, rfl, (hall.found hl).1⟩, trivial⟩
    · next hl =>
      refine ⟨fun hp => ?_, hrefused⟩
      obtain ⟨members', heq, hmembers⟩ := (present_some h).1 hp
      injection heq with heq
      exact hall.not_found hl (heq ▸ hmembers)
  · next v hne h =>
    refine ⟨fun hp => ?_, hrefused⟩
    obtain ⟨members, heq, -⟩ := (present_some h).1 hp
    exact hne members heq

end Entries

-- ============================================================== styles

/-- All marks of a style are written with something. -/
def Marked (style : Comment.Style) : Prop :=
  (∀ mark ∈ style.lineMarks, mark ≠ [])
    ∧ ∀ pair ∈ style.blockMarks, pair.1 ≠ [] ∧ pair.2 ≠ []

section Styles

variable (table : Assoc Value) {language : Text} {row : Assoc Value}

theorem judges_readLineMarks :
    Judges (Present row "line" (IsArray IsMark)) (Refusal limits table)
      (∀ mark ∈ ·, mark ≠ []) (readLineMarks language row) := by
  unfold readLineMarks
  split
  · next h => exact ⟨present_none h, List.forall_mem_nil _⟩
  · next items h =>
    have hall := decides_items decides_mark? items
    split
    · next marks hm =>
      obtain ⟨harray, hmarks⟩ := hall.found hm
      exact ⟨(present_some h).2 harray, forall_mem_of_forall₂ hmarks⟩
    · next hm =>
      exact ⟨fun hp => hall.not_found hm ((present_some h).1 hp),
        .reported rfl⟩
  · next v hne h =>
    refine ⟨fun hp => ?_, .reported rfl⟩
    obtain ⟨items, heq, -⟩ := (present_some h).1 hp
    exact hne items heq

theorem isTaken_array {items : List Value} :
    IsTaken (.array items) ↔ IsArray IsPair (.array items) := by
  simp [IsTaken]

theorem isTaken_scalar {s : Scalar} : IsTaken (.scalar s) ↔ s = .str [] := by
  simp [IsTaken, IsArray]

theorem isTaken_table {entries : Assoc Value} :
    IsTaken (.table entries) ↔ entries = [] := by
  simp [IsTaken, IsArray]

theorem not_isTaken_moment (m : Toml.Moment) : ¬ IsTaken (.moment m) := by
  simp [IsTaken, IsArray]

theorem judges_readBlockMarks
    (hblock : ∀ v, row.get? "block" = some v → HasBlock table language v) :
    Judges (Present row "block" IsTaken) (Refusal limits table)
      (∀ pair ∈ ·, pair.1 ≠ [] ∧ pair.2 ≠ [])
      (readBlockMarks language row) := by
  unfold readBlockMarks
  split
  · next h => exact ⟨present_none h, List.forall_mem_nil _⟩
  · next items h =>
    have hall := decides_items decides_blockMark? items
    rw [propext (present_some h), propext isTaken_array]
    split
    · next pairs hp =>
      obtain ⟨harray, hpairs⟩ := hall.found hp
      exact ⟨harray, forall_mem_of_forall₂ hpairs⟩
    · next hp => exact ⟨hall.not_found hp, .reported rfl⟩
  · next h =>
    exact ⟨(present_some h).2 (isTaken_scalar.2 rfl), List.forall_mem_nil _⟩
  · next h =>
    exact ⟨(present_some h).2 (isTaken_table.2 rfl), List.forall_mem_nil _⟩
  · next t hne h =>
    refine ⟨fun hp => ?_, .reported rfl⟩
    have heq := isTaken_scalar.1 ((present_some h).1 hp)
    injection heq with heq
    exact hne heq
  · next entries hne h =>
    exact ⟨fun hp => hne (isTaken_table.1 ((present_some h).1 hp)),
      .reported rfl⟩
  · next s hempty hne h =>
    exact ⟨fun hp => hempty (isTaken_scalar.1 ((present_some h).1 hp)),
      .notList (hblock _ h) (.inl ⟨s, rfl, hne⟩)⟩
  · next m h =>
    exact ⟨fun hp => not_isTaken_moment m ((present_some h).1 hp),
      .notList (hblock _ h) (.inr ⟨m, rfl⟩)⟩

theorem judges_readStyle {members : Assoc Value} {member : Text × Value}
    (hmembers : table.get? "profiles" = some (.table members))
    (hmem : member ∈ members) :
    Judges (IsStyle IsTaken member.2) (Refusal limits table)
      (fun entry => Marked entry.2) (readStyle member) := by
  unfold readStyle
  split
  · next language row =>
    have hblock : ∀ v, Assoc.get? row "block" = some v →
        HasBlock table language v :=
      fun v hv => ⟨members, row, hmembers, hmem, hv⟩
    refine ((judges_readLineMarks limits table).bind fun marks hmarks =>
      (judges_readBlockMarks limits table hblock).map
        fun pairs hpairs => ?_).of_iff ?_
    · exact ⟨hmarks, hpairs⟩
    · constructor
      · rintro ⟨row', heq, hline, hpairs⟩
        injection heq with heq
        rw [heq]
        exact ⟨hline, hpairs⟩
      · exact fun ⟨hline, hpairs⟩ => ⟨row, rfl, hline, hpairs⟩
  · next language v hne =>
    refine ⟨fun ⟨row, heq, _⟩ => ?_, .reported rfl⟩
    exact hne row heq

theorem judges_readStyles :
    Judges (Present table "profiles" (IsTable (IsStyle IsTaken)))
      (Refusal limits table) (∀ entry ∈ ·, Marked entry.2)
      (readStyles table) := by
  unfold readStyles
  split
  · next h => exact ⟨present_none h, List.forall_mem_nil _⟩
  · next members h =>
    have hall := Judges.mapM fun member hmem =>
      judges_readStyle limits table h hmem
    refine (hall.map fun styles hstyles => ?_).of_iff ?_
    · -- of several styles for a language one is kept
      intro entry hentry
      exact hstyles entry ((Assoc.ofPairs_spec styles).2 hentry)
    · rw [present_some h]
      constructor
      · rintro ⟨members', heq, hmembers⟩
        injection heq with heq
        exact heq ▸ hmembers
      · exact fun hmembers => ⟨members, rfl, hmembers⟩
  · next v hne h =>
    refine ⟨fun hp => ?_, .reported rfl⟩
    obtain ⟨members, heq, -⟩ := (present_some h).1 hp
    exact hne members heq

end Styles

-- =============================================================== table

theorem conforms_iff {block : Value → Prop} {table : Assoc Value} :
    Conforms block table
      ↔ Present table "include" (IsArray IsText)
        ∧ Present table "exclude" (IsArray IsText)
        ∧ Present table "jobs" IsJobs
        ∧ Present table "report_unrecognized" IsChoice
        ∧ Present table "fail_on" (IsArray IsKind)
        ∧ Present table "languages" (IsTable IsText)
        ∧ Present table "profiles" (IsTable (IsStyle block)) :=
  ⟨fun ⟨h₁, h₂, h₃, h₄, h₅, h₆, h₇⟩ => ⟨h₁, h₂, h₃, h₄, h₅, h₆, h₇⟩,
    fun ⟨h₁, h₂, h₃, h₄, h₅, h₆, h₇⟩ => ⟨h₁, h₂, h₃, h₄, h₅, h₆, h₇⟩⟩

/-- The readers of all entries together. -/
theorem judges_ofTable (table : Assoc Value) :
    Judges (Conforms IsTaken table) (Refusal limits table)
      (fun settings => ∀ entry ∈ settings.styles, Marked entry.2)
      (ofTable limits table) := by
  unfold ofTable
  refine Judges.of_iff ?_ conforms_iff
  refine (judges_readTexts limits table _ _).bind fun patterns _ => ?_
  refine (judges_readTexts limits table _ _).bind fun exclude _ => ?_
  refine (judges_readJobs limits table _).bind fun jobs _ => ?_
  refine (judges_readReport limits table _).bind fun report _ => ?_
  refine (judges_readFailOn limits table _).bind fun failOn _ => ?_
  refine (judges_readLanguages limits table).bind fun languages _ => ?_
  exact (judges_readStyles limits table).map fun styles hstyles => hstyles

/-- Every entry `block` of a style is an array. -/
def HasArrays (table : Assoc Value) : Prop :=
  ∀ language v, HasBlock table language v → ∃ items, v = .array items

/-- What stands for the number of workers is one, or it can be shown. -/
def HasShownJobs (limits : Limits) (table : Assoc Value) : Prop :=
  Present table "jobs" fun v =>
    IsJobs v ∨ v.unshown? limits.shownDepth = none

/-- To be an array of pairs is one way to be taken for pairs. -/
theorem Conforms.taken {table : Assoc Value}
    (h : Conforms (IsArray IsPair) table) : Conforms IsTaken table := by
  refine { h with profiles := fun v hv => ?_ }
  obtain ⟨members, heq, hmembers⟩ := h.profiles v hv
  refine ⟨members, heq, fun member hmem => ?_⟩
  obtain ⟨row, hrow, hline, hblock⟩ := hmembers member hmem
  exact ⟨row, hrow, hline, fun v hv => .inl (hblock v hv)⟩

/-- Among arrays there is no other way. -/
theorem Conforms.of_taken {table : Assoc Value} (harrays : HasArrays table)
    (h : Conforms IsTaken table) : Conforms (IsArray IsPair) table := by
  refine { h with profiles := fun v hv => ?_ }
  obtain ⟨members, rfl, hmembers⟩ := h.profiles v hv
  refine ⟨members, rfl, fun member hmem => ?_⟩
  obtain ⟨language, w⟩ := member
  obtain ⟨row, rfl, hline, hblock⟩ := hmembers _ hmem
  refine ⟨row, rfl, hline, fun v hv' => ?_⟩
  obtain ⟨items, rfl⟩ := harrays language v ⟨members, row, hv, hmem, hv'⟩
  exact isTaken_array.1 (hblock _ hv')

/-- An entry `block` that is an array can be gone through, and jobs that are
shown are reported, so the error is reported. -/
theorem Refusal.isReported {table : Assoc Value} {e : SettingsError}
    (harrays : HasArrays table) (hjobs : HasShownJobs limits table)
    (h : Refusal limits table e) :
    (ProjectError.settings e).isReported = true := by
  cases h with
  | reported reported => exact reported
  | notList block single =>
      obtain ⟨items, rfl⟩ := harrays _ _ block
      rcases single with ⟨s, heq, -⟩ | ⟨m, heq⟩
      · cases heq
      · cases heq
  | @unshown v why jobs improper why_eq =>
      rcases hjobs v jobs with hv | hshown
      · exact absurd hv improper
      · rw [why_eq] at hshown
        cases hshown

/-- A table is read just when it conforms to the schema, where an empty text
or an empty table does for the pairs of marks of a style, and the styles that
come out of it have no empty marks. A table that conforms to the schema as it
is documented is read. The converse holds where every `block` is an array;
what is refused there is refused with an error that is reported, as long as a
wrong number of workers can be shown. Elsewhere a refusal is reported unless a
`block` is no list, or a wrong number of workers cannot be shown. -/
theorem ofTable_schema (limits : Limits) (table : Assoc Value) :
    ((∃ settings, ofTable limits table = .ok settings) ↔ Conforms IsTaken table)
      ∧ (Conforms (IsArray IsPair) table →
        ∃ settings, ofTable limits table = .ok settings)
      ∧ (HasArrays table →
        ((∃ settings, ofTable limits table = .ok settings)
            ↔ Conforms (IsArray IsPair) table)
          ∧ (HasShownJobs limits table → ∀ e, ofTable limits table = .error e →
            (ProjectError.settings e).isReported = true))
      ∧ (∀ e, ofTable limits table = .error e → Refusal limits table e)
      ∧ ∀ settings, ofTable limits table = .ok settings →
        ∀ entry ∈ settings.styles, Marked entry.2 := by
  have hjudges := judges_ofTable limits table
  have hiff : (∃ settings, ofTable limits table = .ok settings)
      ↔ Conforms IsTaken table := by
    cases h : ofTable limits table with
    | ok settings =>
        rw [h] at hjudges
        exact ⟨fun _ => hjudges.1, fun _ => ⟨settings, rfl⟩⟩
    | error e =>
        rw [h] at hjudges
        exact ⟨fun ⟨_, hok⟩ => (nomatch hok), fun hp => absurd hp hjudges.1⟩
  have hrefusal : ∀ e, ofTable limits table = .error e →
      Refusal limits table e := by
    intro e he
    rw [he] at hjudges
    exact hjudges.2
  refine ⟨hiff, fun h => hiff.2 h.taken, fun harrays => ⟨?_, ?_⟩, hrefusal,
    ?_⟩
  · exact hiff.trans ⟨Conforms.of_taken harrays, Conforms.taken⟩
  · exact fun hjobs e he => (hrefusal e he).isReported limits harrays hjobs
  · intro settings hsettings
    rw [hsettings] at hjudges
    exact hjudges.2

/-- A style with marks is read; one with a pair that has no closing mark is
refused, and reported. -/
theorem ofTable_schema_pairs :
    let limits : Limits := ⟨970, 975⟩
    let mark (t : Text) : Value := .scalar (.str t)
    let table (pair : List Value) : Assoc Value :=
      [("jobs", .scalar (.int 2)), ("profiles", .table [("X", .table
        [("line", .array [mark "#"]), ("block", .array [.array pair])])])]
    (∃ settings, ofTable limits (table [mark "/*", mark "*/"]) = .ok settings)
      ∧ ∃ e, ofTable limits (table [mark "/*"]) = .error e
        ∧ (ProjectError.settings e).isReported = true := by
  intro limits mark table
  have harrays : ∀ pair, HasArrays (table pair) := by
    rintro pair language v ⟨members, row, hmembers, hmem, hv⟩
    have hprofiles : some (Value.table [("X", .table
        [("line", .array [mark "#"]), ("block", .array [.array pair])])])
        = some (.table members) := hmembers
    injection hprofiles with hprofiles
    injection hprofiles with hprofiles
    subst hprofiles
    have hentry := List.mem_singleton.1 hmem
    injection hentry with _ hrow
    injection hrow with hrow
    subst hrow
    have hblock : some (Value.array [.array pair]) = some v := hv
    injection hblock with hblock
    exact ⟨_, hblock.symm⟩
  have hjobs : ∀ pair, HasShownJobs limits (table pair) := by
    intro pair
    exact (present_some (v := .scalar (.int 2)) rfl).2
      (.inl ⟨2, by decide, rfl⟩)
  obtain ⟨-, -, hrefused, -⟩ := ofTable_schema limits (table [mark "/*"])
  exact ⟨⟨_, rfl⟩, _, rfl, (hrefused (harrays _)).2 (hjobs _) _ rfl⟩

/-- A number for the pairs of marks of a style is refused without a report,
and an empty text for them is read. -/
theorem ofTable_block_overlooked :
    let limits : Limits := ⟨970, 975⟩
    let table (block : Value) : Assoc Value :=
      [("profiles", .table [("x", .table [("block", block)])])]
    (¬ Conforms (IsArray IsPair) (table (.scalar (.int 5)))
        ∧ ∃ e, ofTable limits (table (.scalar (.int 5))) = .error e
          ∧ (ProjectError.settings e).isReported = false)
      ∧ ¬ Conforms (IsArray IsPair) (table (.scalar (.str [])))
      ∧ ∃ settings,
        ofTable limits (table (.scalar (.str []))) = .ok settings := by
  intro limits table
  have hscalar : ∀ s, ¬ Conforms (IsArray IsPair) (table (.scalar s)) := by
    intro s h
    obtain ⟨members, heq, hmembers⟩ := h.profiles _ rfl
    injection heq with heq
    subst heq
    obtain ⟨row, hrow, -, hblock⟩ := hmembers _ (List.mem_singleton.2 rfl)
    injection hrow with hrow
    subst hrow
    obtain ⟨items, hitems, -⟩ := hblock _ rfl
    cases hitems
  exact ⟨⟨hscalar _, _, rfl, rfl⟩, hscalar _, _, rfl⟩

end Marginalia.Settings
