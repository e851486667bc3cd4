/-
The lines of a check. File names and messages are escaped before they go into
the markup of a line, and so a line has no other tags than its own: a lawful
console can print every finding, whatever the name of its file and its message
(`exists_lintLines`).
-/
import Marginalia.CommandLine.Lint
import Marginalia.Proofs.Console
import Marginalia.Proofs.Json.Written
import Marginalia.Proofs.Traverse

namespace Marginalia

open Console (Nests IsName isPlain)

namespace Console

/-- Text without brackets and backslashes is plain. -/
theorem isPlain_of_forall {t : Text}
    (h : ∀ c ∈ t, c ≠ .scalar '[' ∧ c ≠ .scalar '\\') : isPlain t = true := by
  induction t with
  | nil => rfl
  | cons c t ih =>
      obtain ⟨⟨hbracket, hslash⟩, ht⟩ := List.forall_mem_cons.1 h
      rw [isPlain, ih ht, standsAlone]
      simp [hbracket, hslash]

theorem isPlain_ofInt (n : Int) : isPlain (Text.ofInt n) = true := by
  refine isPlain_of_forall fun c hc => ?_
  rcases Json.mem_ofInt hc with rfl | hdigit
  · decide
  · constructor
    · rintro rfl
      cases hdigit
    · rintro rfl
      cases hdigit

end Console

namespace CommandLine

variable {c : Console}

theorem printMarkup_of_ok {t shown : Text} (h : c.markup t = .ok shown) :
    printMarkup c t = .ok (c.printed shown) := by
  rw [printMarkup, h]

variable (hc : c.IsLawful)

include hc

/-- The line of a finding can be printed. Its file is in bold type and its
code in a style. -/
theorem exists_findingLine {style : Text} {f : Lint.Finding}
    (hstyle : IsName style) (hcode : isPlain f.code = true) (file : Text) :
    ∃ line, findingLine c file style f = .ok line := by
  have hplace : isPlain (":" ++ (Text.ofInt f.line ++ ": ")) = true :=
    Console.isPlain_append rfl
      (Console.isPlain_append (Console.isPlain_ofInt f.line) rfl)
  have hnests : Nests [] [.text "  ", .opening "bold", .escaped file,
      .closing "bold", .text (":" ++ (Text.ofInt f.line ++ ": ")),
      .opening style, .text f.code, .closing style, .text ": ",
      .escaped f.message] [] :=
    .text rfl <| .opening (by decide) <| .escaped (by decide) <|
      .text hplace <| .opening hstyle <| .text hcode <|
      .closing hstyle <| .text rfl .escapedLast
  obtain ⟨shown, hshown⟩ := hc.accepts hnests
  refine ⟨c.printed shown, printMarkup_of_ok ?_⟩
  rw [← hshown]
  simp only [Console.written_cons, Console.written_nil, Console.Part.written,
    List.cons_append, List.append_assoc, List.nil_append, List.append_nil]
  rfl

/-- The lines of a file can be printed. -/
theorem exists_lintLines {l : Lint.FileLint}
    (herrors : ∀ f ∈ l.errors, isPlain f.code = true)
    (hwarnings : ∀ f ∈ l.warnings, isPlain f.code = true) (quiet : Bool) :
    ∃ lines, lintLines c quiet l = .ok lines := by
  obtain ⟨errors, herrors⟩ := Traverse.exists_mapM fun f hf =>
    exists_findingLine hc (by decide : IsName "red") (herrors f hf) l.file
  obtain ⟨warnings, hwarnings⟩ := Traverse.exists_mapM fun f hf =>
    exists_findingLine hc (by decide : IsName "yellow") (hwarnings f hf)
      l.file
  unfold lintLines
  rw [herrors]
  cases quiet with
  | true => exact ⟨_, rfl⟩
  | false =>
      refine ⟨errors.flatten ++ warnings.flatten, ?_⟩
      simp only [hwarnings]
      rfl

end CommandLine

end Marginalia
