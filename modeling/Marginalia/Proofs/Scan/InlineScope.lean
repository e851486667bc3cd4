/-
What an inline marker applies to, said of the lines of the text alone. A
marker applies to the next line with content after its own, however many
idle lines, markers and annotation lines lie between. When there is none,
all such markers share one scope, and the first of them decides which: the
whole file if it is preceded by idle lines only, and otherwise nothing, at
the end of the file.

The scan emits one inline annotation for the marker, with that scope, and
reports the marker exactly when it applies to nothing.
-/
import Marginalia.Proofs.Comment.Lines
import Marginalia.Proofs.Scan.Events

namespace Marginalia.Scan

open Comment (Line)
open Marker (Pieces)

-- =============================================================== scopes

/-- No line with content comes after line `m`. -/
def Untargeted (lines : List Line) (m : LineNumber) : Prop :=
  ∀ l ∈ lines, l.isContent = true → ¬ m < l.number

/-- The first line with an inline marker that has no line with content
after it. -/
structure FirstUntargeted (lines : List Line) (first : Line) : Prop where
  mem : first ∈ lines
  marker : first.isInline = true
  untargeted : Untargeted lines first.number
  least : ∀ l ∈ lines, l.isInline = true → Untargeted lines l.number →
    first.number ≤ l.number

/-- What an inline marker on line `m` applies to. -/
inductive AppliesTo (lines : List Line) (m : LineNumber) : Scope → Prop
  | declaration {l : Line} (mem : l ∈ lines) (content : l.isContent = true)
      (after : m < l.number)
      (least : ∀ l' ∈ lines, l'.isContent = true → m < l'.number →
        l.number ≤ l'.number) :
      AppliesTo lines m (.declaration l.number l.raw)
  | file {first : Line} (untargeted : Untargeted lines m)
      (isFirst : FirstUntargeted lines first)
      (quiet : ∀ l ∈ lines, l.number < first.number →
        l.isMarked = false ∧ l.isContent = false) :
      AppliesTo lines m (.file lines.length)
  | trailing {first l : Line} (untargeted : Untargeted lines m)
      (isFirst : FirstUntargeted lines first)
      (mem : l ∈ lines) (before : l.number < first.number)
      (noise : l.isMarked = true ∨ l.isContent = true) :
      AppliesTo lines m (.trailing lines.length)

-- ======================================================= around a marker

variable {before after : List Line} {l : Line}

/-- Of numbered lines, those after a line are the ones with larger
numbers. -/
theorem mem_after_iff
    (h : (before ++ l :: after).Pairwise (·.number < ·.number)) {x : Line}
    (hx : x ∈ before ++ l :: after) : x ∈ after ↔ l.number < x.number := by
  obtain ⟨-, hafter, hcross⟩ := List.pairwise_append.1 h
  constructor
  · intro hmem
    exact (List.pairwise_cons.1 hafter).1 x hmem
  · intro hlt
    rcases List.mem_append.1 hx with hb | hmem
    · exact absurd hlt (Int.lt_asymm (hcross x hb l (List.mem_cons_self ..)))
    · rcases List.mem_cons.1 hmem with rfl | hmem
      · exact absurd hlt (Int.lt_irrefl _)
      · exact hmem

/-- Of numbered lines, those before a line are the ones with smaller
numbers. -/
theorem mem_before_iff
    (h : (before ++ l :: after).Pairwise (·.number < ·.number)) {x : Line}
    (hx : x ∈ before ++ l :: after) : x ∈ before ↔ x.number < l.number := by
  obtain ⟨-, hafter, hcross⟩ := List.pairwise_append.1 h
  constructor
  · intro hmem
    exact hcross x hmem l (List.mem_cons_self ..)
  · intro hlt
    rcases List.mem_append.1 hx with hb | hmem
    · exact hb
    · rcases List.mem_cons.1 hmem with rfl | hmem
      · exact absurd hlt (Int.lt_irrefl _)
      · exact absurd hlt
          (Int.lt_asymm ((List.pairwise_cons.1 hafter).1 x hmem))

/-- A marker has no target when no line behind it has content. -/
theorem untargeted_iff
    (h : (before ++ l :: after).Pairwise (·.number < ·.number)) :
    Untargeted (before ++ l :: after) l.number
      ↔ after.find? (·.isContent) = none := by
  rw [List.find?_eq_none]
  constructor
  · intro hu x hx hc
    have hmem : x ∈ before ++ l :: after :=
      List.mem_append_right _ (List.mem_cons_of_mem _ hx)
    exact hu x hmem hc ((mem_after_iff h hmem).1 hx)
  · intro hn x hx hc hlt
    exact hn x ((mem_after_iff h hx).2 hlt) hc

/-- The target that the binding finds is the least line with content after
the marker. -/
theorem appliesTo_of_find?
    (h : (before ++ l :: after).Pairwise (·.number < ·.number)) {x : Line}
    (hx : after.find? (·.isContent) = some x) :
    AppliesTo (before ++ l :: after) l.number
      (.declaration x.number x.raw) := by
  obtain ⟨hcontent, between, rest, rfl, hnone⟩ :=
    List.find?_eq_some_iff_append.1 hx
  have hmem : x ∈ before ++ l :: (between ++ x :: rest) := by simp
  refine .declaration hmem hcontent ((mem_after_iff h hmem).1 (by simp)) ?_
  intro y hy hyc hlt
  have hafter := (mem_after_iff h hy).2 hlt
  have hp := (List.pairwise_append.1 h).2.1
  have hp' := (List.pairwise_append.1 (List.pairwise_cons.1 hp).2).2.1
  rcases List.mem_append.1 hafter with hb | hmem'
  · have := hnone y hb
    rw [hyc] at this
    cases this
  · rcases List.mem_cons.1 hmem' with rfl | hr
    · exact Int.le_refl _
    · exact Int.le_of_lt ((List.pairwise_cons.1 hp').1 y hr)

-- ============================================= markers without a target

/-- The targets of markers on lines around one with an inline marker. -/
theorem targets_around {p : Pieces} (hp : l.pieces? = some p)
    (hk : p.kind = .inline) :
    Binding.targets ((before ++ l :: after).map eventOf)
      = (Binding.targets (before.map eventOf)).map
          (fun b => (b.1, b.2.or ((l :: after).find? (·.isContent))))
        ++ (markerAt l p, after.find? (·.isContent))
          :: Binding.targets (after.map eventOf) := by
  rw [List.map_append, Binding.targets_append, nextContent?_map_eventOf,
    List.map_cons, eventOf_inline hp hk]
  show _ ++ (_, Binding.nextContent? (after.map eventOf)) :: _ = _
  rw [nextContent?_map_eventOf]

/-- The first marker of the binding that has no target is on the first line
that has none. -/
theorem firstUntargeted_of_targets
    (h : (before ++ l :: after).Pairwise (·.number < ·.number))
    (hl : l.isInline = true) (ha : after.find? (·.isContent) = none)
    (hb : ∀ b ∈ Binding.targets (before.map eventOf), b.2 ≠ none) :
    FirstUntargeted (before ++ l :: after) l := by
  refine ⟨by simp, hl, (untargeted_iff h).2 ha, ?_⟩
  intro x hx hxi hxu
  rcases Int.lt_or_le x.number l.number with hlt | hle
  · obtain ⟨b₁, b₂, rfl⟩ :=
      List.append_of_mem ((mem_before_iff h hx).2 hlt)
    obtain ⟨p, hp, hk⟩ := Line.isInline_iff.1 hxi
    rw [List.append_assoc, List.cons_append] at h hxu
    have hnone := (untargeted_iff h).1 hxu
    rw [List.find?_append, Option.or_eq_none_iff] at hnone
    refine absurd hnone.1 (hb (markerAt x p, b₂.find? (·.isContent)) ?_)
    rw [targets_around hp hk]
    simp
  · exact hle

/-- Lines with a line among them count as they are. -/
theorem max_length_around (before : List Line) (l : Line)
    (after : List Line) :
    max ((before ++ l :: after).length : Int) 1
      = ((before ++ l :: after).length : Int) := by
  rw [List.length_append, List.length_cons]
  omega

/-- The scope that markers without a target share. -/
theorem appliesTo_leftover
    (h : (before ++ l :: after).Pairwise (·.number < ·.number)) {p : Pieces}
    (hp : l.pieces? = some p) (hk : p.kind = .inline)
    (ha : after.find? (·.isContent) = none) :
    AppliesTo (before ++ l :: after) l.number
      (Binding.leftover ((before ++ l :: after).map eventOf)
        (before ++ l :: after).length) := by
  have hmem : (markerAt l p, none)
      ∈ Binding.targets ((before ++ l :: after).map eventOf) := by
    rw [targets_around hp hk, ha]
    simp
  have hu := (untargeted_iff h).2 ha
  generalize hlines : before ++ l :: after = lines at h hmem hu ⊢
  -- the first marker without a target, as the binding finds it
  obtain ⟨evs, m₀, evs', hsplit, hnone, hbound⟩ :=
    Binding.exists_first_unbound hmem
  obtain ⟨b, rest, rfl, rfl, hrest⟩ := List.map_eq_append_iff.1 hsplit
  obtain ⟨l₀, a, rfl, hl₀, rfl⟩ := List.map_eq_cons_iff.1 hrest
  rw [nextContent?_map_eventOf] at hnone
  have hfirst :=
    firstUntargeted_of_targets h (isInline_of_eventOf hl₀).1 hnone hbound
  have hfrom : (Binding.steps .start
      ((b ++ l₀ :: a).map eventOf)).1.waitingFromStart
      = b.all fun x => !x.isMarked && !x.isContent := by
    rw [List.map_append, List.map_cons, hl₀,
      Binding.waitingFromStart_steps hbound
        (by rw [nextContent?_map_eventOf]; exact hnone), List.all_map]
    exact List.all_congr rfl fun x => isIdle_eventOf x
  unfold Binding.leftover Binding.leftoverScope
  rw [hfrom, max_length_around]
  split
  case isTrue hq =>
    refine .file hu hfirst fun x hx hlt => ?_
    have := List.all_eq_true.1 hq x ((mem_before_iff h hx).2 hlt)
    simpa using this
  case isFalse hq =>
    rw [Bool.not_eq_true, List.all_eq_false] at hq
    obtain ⟨x, hx, hnoise⟩ := hq
    have hxl : x ∈ b ++ l₀ :: a := List.mem_append_left _ hx
    refine .trailing hu hfirst hxl ((mem_before_iff h hxl).1 hx) ?_
    cases hm : x.isMarked with
    | true => exact Or.inl rfl
    | false =>
        rw [hm] at hnoise
        exact Or.inr (by simpa using hnoise)

-- ========================================================= what is emitted

/-- Is this an inline annotation that stands on line `m`? -/
def inlineAt (m : LineNumber) (a : Annotation) : Bool :=
  !a.isBlock && a.firstLine == m && a.lastLine == m

/-- Is this the report of a marker on line `m` that applies to nothing? -/
def danglingAt (m : LineNumber) (d : Diagnostic) : Bool :=
  d.kind == .dangling && d.line == m

/-- An inline annotation ends on the line it starts on. -/
theorem inlineAt_eq (m : LineNumber) (a : Annotation) :
    inlineAt m a = (a.firstLine == m && !a.isBlock) := by
  unfold inlineAt Annotation.isBlock Annotation.lastLine Annotation.firstLine
  cases a.scope <;> simp

/-- The one marker of the binding that stands on the line. -/
theorem filter_targets
    (h : (before ++ l :: after).Pairwise (·.number < ·.number)) {p : Pieces}
    (hp : l.pieces? = some p) (hk : p.kind = .inline) :
    (Binding.targets ((before ++ l :: after).map eventOf)).filter
        (·.1.line == l.number)
      = [(markerAt l p, after.find? (·.isContent))] := by
  have hbefore : ∀ b ∈ (Binding.targets (before.map eventOf)).map
      (fun b => (b.1, b.2.or ((l :: after).find? (·.isContent)))),
      ¬ (b.1.line == l.number) = true := by
    intro b hb heq
    obtain ⟨b', hb', rfl⟩ := List.mem_map.1 hb
    obtain ⟨x, hx, -, hline⟩ := exists_of_mem_targets hb'
    have hlt := (mem_before_iff h (List.mem_append_left _ hx)).1 hx
    rw [← hline, beq_iff_eq.1 heq] at hlt
    exact Int.lt_irrefl _ hlt
  have hafter : ∀ b ∈ Binding.targets (after.map eventOf),
      ¬ (b.1.line == l.number) = true := by
    intro b hb heq
    obtain ⟨x, hx, -, hline⟩ := exists_of_mem_targets hb
    have hlt := (mem_after_iff h
      (List.mem_append_right _ (List.mem_cons_of_mem _ hx))).1 hx
    rw [← hline, beq_iff_eq.1 heq] at hlt
    exact Int.lt_irrefl _ hlt
  rw [targets_around hp hk, List.filter_append,
    List.filter_eq_nil_iff.2 hbefore,
    List.filter_cons_of_pos (by simp [markerAt]),
    List.filter_eq_nil_iff.2 hafter]
  rfl

/-- The inline annotation that the scan emits for the line. -/
theorem filter_annotations
    (h : (before ++ l :: after).Pairwise (·.number < ·.number)) {p : Pieces}
    (hp : l.pieces? = some p) (hk : p.kind = .inline) (report : Bool) :
    (ofLines report (before ++ l :: after)).annotations.filter
        (inlineAt l.number)
      = [Binding.bound
          (Binding.leftover ((before ++ l :: after).map eventOf)
            (before ++ l :: after).length)
          (markerAt l p, after.find? (·.isContent))] := by
  have hmarker : ∀ (scope : Scope) (b : Marker × Option Line),
      (Binding.bound scope b).firstLine = b.1.line := by
    intro scope b
    obtain ⟨m, t⟩ := b
    cases t <;> rfl
  rw [← List.perm_singleton, funext (inlineAt_eq l.number)]
  refine ((annotations_ofLines_perm report _).filter _).trans ?_
  rw [← List.filter_filter]
  refine ((Binding.inlines_bind_perm _ _).filter _).trans ?_
  rw [List.filter_map]
  have hline : ((fun a : Annotation => a.firstLine == l.number)
      ∘ Binding.bound (Binding.leftover ((before ++ l :: after).map eventOf)
        (before ++ l :: after).length))
      = fun b => b.1.line == l.number := by
    funext b
    exact congrArg (· == l.number) (hmarker _ b)
  rw [hline, filter_targets h hp hk]
  exact List.Perm.refl _

/-- What is reported of a line by itself is never that it applies to
nothing. -/
theorem filter_readLine (report : Bool) (m : LineNumber)
    (lines : List Line) :
    (lines.flatMap fun x => (readLine report x).2).filter (danglingAt m)
      = [] := by
  refine List.filter_eq_nil_iff.2 fun d hd => ?_
  obtain ⟨x, -, hd⟩ := List.mem_flatMap.1 hd
  have hkind : d.kind ≠ .dangling := by
    unfold Diagnostic.kind
    rcases (cause_of_mem_readLine hd).2 with ⟨problem, hc⟩ | ⟨content, hc⟩
    · rw [hc]
      cases problem <;> exact Diagnostic.Kind.noConfusion
    · rw [hc]
      exact Diagnostic.Kind.noConfusion
  simp [danglingAt, hkind]

/-- What the scan reports of the line for lack of a target. -/
theorem filter_diagnostics
    (h : (before ++ l :: after).Pairwise (·.number < ·.number)) {p : Pieces}
    (hp : l.pieces? = some p) (hk : p.kind = .inline) (report : Bool) :
    (ofLines report (before ++ l :: after)).diagnostics.filter
        (danglingAt l.number)
      = if (Binding.steps .start
            ((before ++ l :: after).map eventOf)).1.waitingFromStart
          ∨ after.find? (·.isContent) ≠ none
        then [] else [⟨l.number, .dangling p.key⟩] := by
  have hperm := (diagnostics_ofLines_perm report (before ++ l :: after)).filter
    (danglingAt l.number)
  -- the binding says what is dangling, this line is one of that
  have hparts : ∀ ds : List Diagnostic, ds.filter (danglingAt l.number)
      = (ds.filter (·.kind == .dangling)).filter (·.line == l.number) := by
    intro ds
    rw [List.filter_filter]
    exact List.filter_congr fun d _ => Bool.and_comm ..
  rw [List.filter_append, filter_readLine, List.nil_append,
    hparts (Binding.bind ..).diagnostics, Binding.dangling_bind] at hperm
  have hone : ((Binding.targets ((before ++ l :: after).map eventOf)
      ).filterMap Binding.unbound?).filter (·.line == l.number)
      = if after.find? (·.isContent) = none then [markerAt l p] else [] := by
    rw [Binding.filter_filterMap_unbound?, filter_targets h hp hk]
    cases after.find? (·.isContent) <;> rfl
  cases hfrom : (Binding.steps .start
      ((before ++ l :: after).map eventOf)).1.waitingFromStart with
  | true =>
      rw [hfrom] at hperm
      rw [if_pos (Or.inl rfl)]
      exact hperm.eq_nil
  | false =>
      rw [hfrom, if_neg Bool.false_ne_true, List.filter_map] at hperm
      have hcomp : ((fun d : Diagnostic => d.line == l.number)
          ∘ fun m : Marker => ⟨m.line, .dangling m.key⟩)
          = fun m => m.line == l.number := rfl
      rw [hcomp, hone] at hperm
      cases hf : after.find? (·.isContent) with
      | none =>
          rw [hf, if_pos rfl] at hperm
          rw [if_neg (by simp)]
          exact List.perm_singleton.1 hperm
      | some x =>
          rw [hf, if_neg (by simp)] at hperm
          rw [if_pos (Or.inr (by simp))]
          exact hperm.eq_nil

-- =============================================================== markers

/-- Every inline marker of a text gives one inline annotation on its line,
with the scope that the lines of the text call for, and is reported exactly
when that scope is empty. -/
theorem inline_marker_applies (s : Comment.Style) (report : Bool) (t : Text)
    {l : Line} {p : Pieces} (hl : l ∈ s.lines t) (hp : l.pieces? = some p)
    (hk : p.kind = .inline) :
    ∃ scope, AppliesTo (s.lines t) l.number scope
      ∧ (ofText s report t).annotations.filter (inlineAt l.number)
        = [⟨⟨l.number, p.key, p.decode.1⟩, scope, false⟩]
      ∧ (ofText s report t).diagnostics.filter (danglingAt l.number)
        = if scope = .trailing (s.lines t).length
          then [⟨l.number, .dangling p.key⟩] else [] := by
  unfold ofText
  have hsorted : (s.lines t).Pairwise (·.number < ·.number) :=
    s.pairwise_number_readLines 1 none t.lines
  obtain ⟨before, after, hsplit⟩ := List.append_of_mem hl
  rw [hsplit] at hsorted ⊢
  rw [filter_annotations hsorted hp hk, filter_diagnostics hsorted hp hk]
  cases hf : after.find? (·.isContent) with
  | some x =>
      refine ⟨_, appliesTo_of_find? hsorted hf, rfl, ?_⟩
      rw [if_pos (Or.inr (by simp)), if_neg (by simp)]
  | none =>
      refine ⟨_, appliesTo_leftover hsorted hp hk hf, rfl, ?_⟩
      unfold Binding.leftover Binding.leftoverScope
      rw [max_length_around]
      cases (Binding.steps .start
          ((before ++ l :: after).map eventOf)).1.waitingFromStart with
      | true => simp
      | false => simp

/-- A marker with a bare comment and another marker between it and its
target. -/
theorem inline_marker_applies_past_marker :
    ∃ scope,
      AppliesTo
        ((Catalog.styleFor (some "python") []).lines
          "x = 1\n# @!k 1\n#\n# @!z\ny = 2\n") 2 scope
      ∧ (ofText (Catalog.styleFor (some "python") []) false
          "x = 1\n# @!k 1\n#\n# @!z\ny = 2\n").annotations.filter
            (inlineAt 2)
        = [⟨⟨2, "k", ⟨.int 1, [], []⟩⟩, scope, false⟩] := by
  obtain ⟨scope, happlies, hone, -⟩ :=
    inline_marker_applies (Catalog.styleFor (some "python") []) false
      "x = 1\n# @!k 1\n#\n# @!z\ny = 2\n"
      (l := ⟨2, some "@!k 1", "# @!k 1", false⟩)
      (p := ⟨.inline, "k", some "1", none, none⟩)
      (by decide) (by decide) rfl
  exact ⟨scope, happlies, hone⟩

end Marginalia.Scan
