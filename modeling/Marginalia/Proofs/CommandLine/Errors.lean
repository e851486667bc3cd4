/-
The errors that end a run. As JSON the message is read back from the output,
whatever it is. On the error stream it is taken for markup, behind a heading
that is one: an ordinary message is printed as it stands as far as the console
keeps it (`failed_of_isOrdinary`), the tags of styles are lost
(`failed_written`), and a tag that closes nothing breaks the run off
(`failed_of_stray`).

What a console makes of a markup is known only from its laws, and so nothing is
said of a message with other marks than those of styles.
-/
import Marginalia.CommandLine.Lint
import Marginalia.Proofs.Display.Console
import Marginalia.Proofs.Json.Member
import Marginalia.Proofs.Lint.Lines
import Marginalia.Proofs.Text.Encodable
import Marginalia.Proofs.Text.Pieces

namespace Marginalia

-- ========================================================== the stream

namespace Text

theorem backslashed_of_isEncodable {t : Text} (h : t.isEncodable = true) :
    t.backslashed = t := by
  induction t with
  | nil => rfl
  | cons c t ih =>
      obtain ⟨hc, ht⟩ := isEncodable_cons.1 h
      cases c with
      | scalar c => rw [backslashed, ih ht]
      | surrogate half => cases hc

theorem isEncodable_backslashed (t : Text) :
    t.backslashed.isEncodable = true := by
  induction t with
  | nil => rfl
  | cons c t ih =>
      cases c with
      | scalar c => rwa [backslashed, isEncodable_scalar_cons]
      | surrogate half =>
          rw [backslashed, isEncodable_append, isEncodable_append, ih]
          simp

/-- Escapes have no brackets. -/
theorem count_backslashed (t : Text) :
    t.backslashed.count (.scalar '[') = t.count (.scalar '[') := by
  induction t with
  | nil => rfl
  | cons c t ih =>
      cases c with
      | scalar c => rw [backslashed, List.count_cons, List.count_cons, ih]
      | surrogate half =>
          have hdigits : (Text.ofHex 4 (0xD800 + half.val)).count (.scalar '[')
              = 0 := by
            refine List.count_eq_zero.2 fun hmem => ?_
            exact forall_mem_ofHex (p := (· ≠ .scalar '[')) (by decide) _ _ _
              hmem rfl
          have hmark : (Text.ofString "\\u").count (.scalar '[') = 0 := by
            decide
          rw [backslashed, List.count_append, List.count_append, hmark,
            hdigits, ih, List.count_cons_of_ne (by simp)]
          omega

end Text

namespace Console

theorem isEncodable_of_isAscii {t : Text} (h : ∀ x ∈ t, isAscii x = true) :
    t.isEncodable = true := by
  refine List.all_eq_true.2 fun x hx => ?_
  have hascii := h x hx
  unfold isAscii at hascii
  simp only [Bool.and_eq_true, decide_eq_true_eq] at hascii
  rw [CodePoint.isSurrogate_of_lt (by omega)]
  rfl

/-- Printing brings in nothing that has no encoding. -/
theorem IsLawful.isEncodable_printed {c : Console} (hc : c.IsLawful) {t : Text}
    (h : t.isEncodable = true) : (c.printed t).isEncodable = true := by
  refine List.all_eq_true.2 fun x hx => ?_
  rw [Bool.not_eq_true', ← Bool.not_eq_true]
  intro hsurrogate
  have hadds := hc.adds t (x := x) (by rintro rfl; cases hsurrogate)
    (by rintro rfl; cases hsurrogate)
  have hmem := List.count_pos_iff.1
    (Nat.lt_of_lt_of_le (List.count_pos_iff.2 hx) hadds)
  have hencoded := List.all_eq_true.1 h x hmem
  rw [hsurrogate] at hencoded
  cases hencoded

end Console

namespace CommandLine

open Console (Nests Part IsName isPlain namesNothing isControl isAscii room
  written shown)

variable {c : Console} {m : Text} {ps : List Part} {left : List Text}

-- ============================================================ messages

/-- A message in which nothing has a meaning as markup or for a terminal. -/
structure IsOrdinary (m : Text) : Prop where
  plain : isPlain m = true
  namesNothing : namesNothing m = true
  noControl : ∀ x ∈ m, isControl x = false

instance : DecidablePred IsOrdinary := fun _ =>
  decidable_of_iff (_ ∧ _ ∧ _)
    ⟨fun ⟨h, h', h''⟩ => ⟨h, h', h''⟩, fun ⟨h, h', h''⟩ => ⟨h, h', h''⟩⟩

/-- How a run ends because of an error. -/
def failed (c : Console) (w : Workspace) (json : Bool) (code : Nat)
    (m : Text) : Outcome :=
  finish (.error (errorExit c json code m)) w

/-- The end of a run with a message as it stands. -/
def verbatim (w : Workspace) (code : Nat) (m : Text) : Outcome :=
  .printed ⟨code, [], "error: " ++ m ++ "\n"⟩ w

theorem printed_eq_verbatim_iff {w : Workspace} {code : Nat} {line : Text} :
    .printed ⟨code, [], line⟩ w = verbatim w code m
      ↔ line = Text.ofString "error: " ++ m ++ [.scalar '\n'] := by
  constructor
  · intro h
    injection h with hprinted
    injection hprinted
  · rintro rfl
    rfl

/-- The parts of the heading. -/
def headingParts : List Part :=
  [.opening "red bold", .text "error:", .closing "red bold", .text " "]

theorem written_heading : c.written (headingParts ++ ps)
    = heading ++ c.written ps := by
  rw [Console.written_append]
  rfl

theorem shown_heading :
    shown (headingParts ++ ps) = Text.ofString "error: " ++ shown ps := rfl

/-- Behind the heading a markup goes on with its own tags only. -/
theorem nests_heading (h : Nests [] ps left) :
    Nests [] (headingParts ++ ps) left :=
  .opening (by decide) (.text rfl (.closing (by decide) (.text rfl h)))

theorem not_isEscaped_heading (howned : ∀ p ∈ ps, p.isEscaped = false) :
    ∀ p ∈ headingParts ++ ps, p.isEscaped = false :=
  List.forall_mem_append.2 ⟨by decide, howned⟩

theorem namesNothing_heading (h : namesNothing m = true) :
    namesNothing (Text.ofString "error: " ++ m) = true :=
  Console.namesNothing_space (t := "error:") (by decide) h

-- ================================================================ lines

theorem failed_of_ok {text : Text} (w : Workspace) (code : Nat)
    (h : c.markup (heading ++ m) = .ok text) :
    failed c w false code m
      = .printed ⟨code, [], (c.printed text).backslashed⟩ w := by
  unfold failed errorExit
  rw [if_neg Bool.false_ne_true, printMarkup_of_ok h]
  rfl

theorem failed_of_error {fault : Console.Fault} (w : Workspace) (code : Nat)
    (h : c.markup (heading ++ m) = .error fault) :
    failed c w false code m = .brokeOff (.console fault) := by
  unfold failed errorExit printMarkup
  rw [if_neg Bool.false_ne_true, h]
  rfl

/-- A run ends with its code, unless the console takes the message for no
markup. -/
theorem failed_eq_or (c : Console) (w : Workspace) (code : Nat) (m : Text) :
    (∃ err, failed c w false code m = .printed ⟨code, [], err⟩ w)
      ∨ ∃ fault, failed c w false code m = .brokeOff (.console fault) := by
  cases h : c.markup (heading ++ m) with
  | ok text => exact .inl ⟨_, failed_of_ok w code h⟩
  | error fault => exact .inr ⟨fault, failed_of_error w code h⟩

/-- What is printed as it stands has an encoding. -/
theorem isEncodable_of_verbatim {w : Workspace} {code : Nat}
    (h : failed c w false code m = verbatim w code m) :
    m.isEncodable = true := by
  cases hmarkup : c.markup (heading ++ m) with
  | error fault =>
      rw [failed_of_error w code hmarkup] at h
      cases h
  | ok text =>
      rw [failed_of_ok w code hmarkup, printed_eq_verbatim_iff] at h
      have hencodable := Text.isEncodable_backslashed (c.printed text)
      rw [h, Text.isEncodable_append, Text.isEncodable_append,
        Bool.and_eq_true, Bool.and_eq_true] at hencodable
      exact hencodable.1.2

section Lawful

variable (hc : c.IsLawful) (w : Workspace) (code : Nat)

include hc

/-- A message in which styles nest is shown without their tags. -/
theorem failed_of_nests (h : Nests [] ps left)
    (howned : ∀ p ∈ ps, p.isEscaped = false) (hshown : IsOrdinary (shown ps)) :
    failed c w false code (c.written ps)
      = .printed ⟨code, [],
          (c.printed (Text.ofString "error: " ++ shown ps)).backslashed⟩ w := by
  have hcontrols : ∀ x ∈ Text.ofString "error: " ++ shown ps,
      isControl x = false :=
    List.forall_mem_append.2 ⟨by decide, hshown.noControl⟩
  have hmarkup := hc.shows (nests_heading h) (not_isEscaped_heading howned)
    (namesNothing_heading hshown.namesNothing) hcontrols
  rw [written_heading, shown_heading] at hmarkup
  exact failed_of_ok w code hmarkup

/-- An ordinary message is shown as it stands. -/
theorem failed_of_isOrdinary (hm : IsOrdinary m) :
    failed c w false code m
      = .printed ⟨code, [],
          (c.printed (Text.ofString "error: " ++ m)).backslashed⟩ w := by
  have hnests : Nests [] [.text m] [] := .text hm.plain .done
  have hshown : shown [.text m] = m := List.append_nil m
  have hwritten : c.written [.text m] = m := List.append_nil m
  have hfailed := failed_of_nests hc w code hnests
    (by simp [Part.isEscaped]) (hshown.symm ▸ hm)
  rwa [hwritten, hshown] at hfailed

/-- A message is printed as if it had no tags. -/
theorem failed_written (h : Nests [] ps left)
    (howned : ∀ p ∈ ps, p.isEscaped = false) (hshown : IsOrdinary (shown ps)) :
    failed c w false code (c.written ps) = failed c w false code (shown ps) :=
  (failed_of_nests hc w code h howned hshown).trans
    (failed_of_isOrdinary hc w code hshown).symm

/-- A message with a tag is never printed as it stands: the bracket of the tag
is not shown, and nothing brings it in again. -/
theorem failed_written_ne (h : Nests [] ps left)
    (howned : ∀ p ∈ ps, p.isEscaped = false) (hshown : IsOrdinary (shown ps))
    (htag : ∃ p ∈ ps, p.isTag = true) :
    failed c w false code (c.written ps) ≠ verbatim w code (c.written ps) := by
  rw [failed_of_nests hc w code h howned hshown, ne_eq,
    printed_eq_verbatim_iff]
  intro hline
  have hcount := congrArg (List.count (.scalar '[')) hline
  have hprinted := hc.adds (Text.ofString "error: " ++ shown ps)
    (x := .scalar '[') (by decide) (by decide)
  have hlost := Console.count_shown_lt (c := c) howned htag
  rw [Text.count_backslashed, List.count_append, List.count_append] at hcount
  rw [List.count_append] at hprinted
  omega

/-- An ordinary message that has room on a line is printed as it stands. -/
theorem failed_of_room (hm : IsOrdinary m) (hencodable : m.isEncodable = true)
    (htab : .scalar '\t' ∉ m) (hroom : 7 + room m ≤ c.width) :
    failed c w false code m = verbatim w code m := by
  have hhead : room "error: " = 7 := by decide
  have hkept := hc.keeps (t := Text.ofString "error: " ++ m)
    (List.forall_mem_append.2 ⟨by decide, fun x hx =>
      ⟨hm.noControl x hx, fun heq => htab (heq ▸ hx)⟩⟩)
    (by rw [Console.room_append, hhead]; exact hroom)
  have hline := hc.isEncodable_printed (t := Text.ofString "error: " ++ m)
    (by simp [hencodable])
  rw [failed_of_isOrdinary hc w code hm,
    Text.backslashed_of_isEncodable hline, printed_eq_verbatim_iff, hkept]

/-- An ordinary message of ASCII is printed as it stands exactly when the line
is long enough for it. -/
theorem failed_verbatim_iff (hm : IsOrdinary m)
    (hascii : ∀ x ∈ m, isAscii x = true) :
    failed c w false code m = verbatim w code m ↔ 7 + m.length ≤ c.width := by
  have hall : ∀ x ∈ Text.ofString "error: " ++ m, isAscii x = true :=
    List.forall_mem_append.2 ⟨by decide, hascii⟩
  constructor
  · intro hverbatim
    rw [failed_of_isOrdinary hc w code hm, printed_eq_verbatim_iff]
      at hverbatim
    have hencodable :=
      hc.isEncodable_printed (Console.isEncodable_of_isAscii hall)
    rw [Text.backslashed_of_isEncodable hencodable] at hverbatim
    have hnew : .scalar '\n' ∉ Text.ofString "error: " ++ m := fun hmem =>
      (Console.isControl_of_isAscii (hall _ hmem)).2.2 rfl
    have hfits := hc.fits hall (Text.ofString "error: " ++ m) (by
      rw [hverbatim, Text.splitOn_append_cons hnew]
      exact List.mem_cons_self ..)
    rwa [List.length_append] at hfits
  · intro hlong
    refine failed_of_room hc w code hm
      (Console.isEncodable_of_isAscii hascii) (fun hmem => ?_) ?_
    · exact (Console.isControl_of_isAscii (hascii _ hmem)).2.1 rfl
    · rwa [Console.room_eq_length hascii]

/-- A tag that closes no style breaks the run off, whatever comes after
it. -/
theorem failed_of_stray (h : Nests [] ps [])
    (howned : ∀ p ∈ ps, p.isEscaped = false) {name : Text}
    (isName : IsName name) (rest : Text) :
    ∃ reason, failed c w false code
        (c.written (ps ++ [.closing name]) ++ rest)
      = .brokeOff (.console (.markup reason)) := by
  obtain ⟨reason, hreason⟩ := hc.strays rest (nests_heading h)
    (not_isEscaped_heading howned) isName
  rw [List.append_assoc, written_heading, List.append_assoc] at hreason
  exact ⟨reason, failed_of_error w code hreason⟩

end Lawful

-- ===================================================== unknown kinds

/-- A name that is no kind of diagnostic ends the run with an error. -/
theorem lint_of_unknown {h : Host} {w : Workspace} {args : LintArgs}
    {s : Settings} {name : Text} {more : List Text}
    (hsettings : settings h w args.json = .ok s)
    (hnames : args.failOn = name :: more)
    (hname : Diagnostic.Kind.ofName? name = none) :
    lint h w args = .error (errorExit h.errors args.json usageCode
      (Diagnostic.Kind.unknownMessage name)) := by
  have hpolicy : policy h.errors s args.json args.failOn
      = .error (errorExit h.errors args.json usageCode
        (Diagnostic.Kind.unknownMessage name)) := by
    rw [hnames]
    unfold policy
    rw [List.isEmpty_cons, if_neg Bool.false_ne_true, List.mapM_cons, hname]
    rfl
  unfold lint
  rw [hsettings]
  show policy h.errors s args.json args.failOn >>= _ = _
  rw [hpolicy]
  rfl

/-- What stands in the message about a name that is no kind, up to the
name. -/
def beforeName : Text := Text.ofString "Unknown diagnostic kind: " ++ "'"

/-- The message about a name in brackets, which is the tag of a style. -/
def unknownBold : List Part :=
  [.text beforeName, .opening "bold", .text "'"]

theorem written_unknownBold : c.written unknownBold
    = Diagnostic.Kind.unknownMessage "[bold]" := by
  have hname : Text.quoted "[bold]" = Text.ofString "'[bold]'" := by decide
  unfold Diagnostic.Kind.unknownMessage
  rw [hname, unknownBold, Console.written_cons, Part.written, beforeName,
    List.append_assoc]
  rfl

theorem nests_beforeName (h : Nests [] ps left) :
    Nests [] (.text beforeName :: ps) left :=
  .text (by decide) h

theorem nests_unknownBold : Nests [] unknownBold ["bold"] :=
  nests_beforeName (.opening (by decide) (.text rfl .done))

theorem isOrdinary_shown_unknownBold : IsOrdinary (shown unknownBold) := by
  decide

/-- The message about a name that is a closing tag. -/
theorem written_unknownClosing :
    c.written ([.text beforeName] ++ [.closing "bold"]) ++ Text.ofString "'"
      = Diagnostic.Kind.unknownMessage "[/bold]" := by
  have hname : Text.quoted "[/bold]" = Text.ofString "'[/bold]'" := by decide
  unfold Diagnostic.Kind.unknownMessage
  rw [hname, List.singleton_append, Console.written_cons, Part.written,
    beforeName, List.append_assoc, List.append_assoc]
  rfl

-- ============================================================ reports

/-- How a message is reported that ends a run, on every lawful console. As JSON
it is the string of an object that is read back, unless halves of pairs stand
apart in it. As a line every message is printed with the code, or breaks the
run off for the fault that the console finds with it, and only one that has an
encoding comes out as it stands. An ordinary message is what is printed, and
comes out as it stands when it has an encoding and room on the line; of ASCII
it does so exactly then. A message in which styles nest is printed as if it had
no tags, and never as it stands if it has one. A message with a tag that closes
nothing breaks the run off. -/
theorem failed_reports {c : Console} (hc : c.IsLawful) (w : Workspace)
    (code : Nat) :
    (∀ m, ∃ out, failed c w true code m = .printed ⟨code, out, []⟩ w
        ∧ (Json.read out = .ok (.object [("error", .str m)])
          ↔ m.isJoined = true))
      ∧ (∀ m, (∃ err, failed c w false code m = .printed ⟨code, [], err⟩ w)
        ∨ ∃ fault, failed c w false code m = .brokeOff (.console fault))
      ∧ (∀ m, failed c w false code m = verbatim w code m →
        m.isEncodable = true)
      ∧ (∀ m, IsOrdinary m →
        failed c w false code m
            = .printed ⟨code, [],
              (c.printed (Text.ofString "error: " ++ m)).backslashed⟩ w
          ∧ (m.isEncodable = true → .scalar '\t' ∉ m →
            7 + room m ≤ c.width →
            failed c w false code m = verbatim w code m)
          ∧ ((∀ x ∈ m, isAscii x = true) →
            (failed c w false code m = verbatim w code m
              ↔ 7 + m.length ≤ c.width)))
      ∧ (∀ ps left, Nests [] ps left → (∀ p ∈ ps, p.isEscaped = false) →
        IsOrdinary (shown ps) →
        failed c w false code (c.written ps) = failed c w false code (shown ps)
          ∧ ((∃ p ∈ ps, p.isTag = true) →
            failed c w false code (c.written ps)
              ≠ verbatim w code (c.written ps)))
      ∧ ∀ ps name rest, Nests [] ps [] → (∀ p ∈ ps, p.isEscaped = false) →
        IsName name →
        ∃ reason, failed c w false code
            (c.written (ps ++ [.closing name]) ++ rest)
          = .brokeOff (.console (.markup reason)) := by
  refine ⟨fun m => ⟨_, rfl, Json.read_write_member_iff rfl (by decide)⟩,
    failed_eq_or c w code, fun m => isEncodable_of_verbatim,
    fun m hm => ⟨?_, ?_, ?_⟩,
    fun ps left h howned hshown => ⟨?_, ?_⟩,
    fun ps name rest h howned isName => ?_⟩
  · exact failed_of_isOrdinary hc w code hm
  · exact failed_of_room hc w code hm
  · exact failed_verbatim_iff hc w code hm
  · exact failed_written hc w code h howned hshown
  · exact failed_written_ne hc w code h howned hshown
  · exact failed_of_stray hc w code h howned isName rest

/-- The name of a kind that is asked for stands in the message in quotes. In
brackets, as the tag of a style, it is not there on the error stream; and with
a slash before it, as a closing tag, it ends the run without the code. -/
theorem failed_reports_garbled :
    let c := Display.console 80
    let host : Host := ⟨c, c, ⟨970, 975⟩, .none⟩
    let w : Workspace := ⟨.folder [], []⟩
    let asking (name : Text) : LintArgs :=
      ⟨[], [name], none, false, false, false, none, none⟩
    let ended (name : Text) := finish ((lint host w (asking name)).map (·, w)) w
    let message := Diagnostic.Kind.unknownMessage
    message "[bold]" = "Unknown diagnostic kind: '[bold]'"
      ∧ ended "[bold]" = failed c w false 2 (message "[bold]")
      ∧ failed c w false 2 (message "[bold]")
        = .printed ⟨2, [], "error: Unknown diagnostic kind: ''\n"⟩ w
      ∧ ∃ reason, ended "[/bold]" = .brokeOff (.console (.markup reason)) := by
  intro c host w asking ended message
  have hc : c.IsLawful := Display.isLawful_console 80
  have hended : ∀ name, Diagnostic.Kind.ofName? name = none →
      ended name = failed c w false 2 (message name) := by
    intro name hname
    have hlint : lint host w (asking name)
        = .error (errorExit c false usageCode (message name)) :=
      lint_of_unknown rfl rfl hname
    exact congrArg (fun r => finish (Except.map (·, w) r) w) hlint
  have hbold := failed_written hc w 2 nests_unknownBold (by decide)
    isOrdinary_shown_unknownBold
  have hprinted := failed_of_room hc w 2 isOrdinary_shown_unknownBold
    (by decide) (by decide) (by decide)
  rw [written_unknownBold] at hbold
  refine ⟨by decide, hended _ (by decide), ?_, ?_⟩
  · rw [hbold, hprinted]
    exact congrArg (fun line => Outcome.printed ⟨2, [], line⟩ w) (by decide)
  · obtain ⟨reason, hreason⟩ := failed_of_stray hc w 2
      (nests_beforeName .done) (by decide) (by decide : IsName "bold") "'"
    rw [written_unknownClosing] at hreason
    exact ⟨reason, (hended _ (by decide)).trans hreason⟩

/-- A message with a bracket and a colon that mean nothing is printed as it
stands, of another one the tag is lost, and a third breaks the run off. -/
theorem failed_reports_unknown :
    let c := Display.console 80
    let w : Workspace := ⟨.folder [], []⟩
    let message := Diagnostic.Kind.unknownMessage
    failed c w false 2 (message "a[0]: b")
        = verbatim w 2 (message "a[0]: b")
      ∧ failed c w false 2 (message "[bold]")
        = failed c w false 2 "Unknown diagnostic kind: ''"
      ∧ failed c w false 2 (message "[bold]")
        ≠ verbatim w 2 (message "[bold]")
      ∧ ∃ reason, failed c w false 2 (message "[/bold]")
        = .brokeOff (.console (.markup reason)) := by
  intro c w message
  obtain ⟨-, -, -, hordinary, hnests, hstray⟩ :=
    failed_reports (Display.isLawful_console 80) w 2
  obtain ⟨-, -, hascii⟩ := hordinary (message "a[0]: b") (by decide)
  obtain ⟨hlost, hne⟩ := hnests unknownBold _ nests_unknownBold (by decide)
    isOrdinary_shown_unknownBold
  obtain ⟨reason, hreason⟩ := hstray [.text beforeName] "bold" "'"
    (nests_beforeName .done) (by decide) (by decide)
  rw [written_unknownBold] at hlost hne
  rw [written_unknownClosing] at hreason
  exact ⟨(hascii (by decide)).2 (by decide), hlost, hne (by decide), reason,
    hreason⟩

end CommandLine

end Marginalia
