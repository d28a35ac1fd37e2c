import SourceText.Command.Run
import SourceText.Proofs.Console.Page
import SourceText.Proofs.Success

/-!
# What commands print of a text

A command on the standard input ends well just when the service has something to report about the
text there and the console can print it. What the service made of the text is handed to the console
as a program (`run_prints`). A plain page changes it when there is a tabulator or a control
character in it.
-/

namespace SourceText.Command
open Console

section Prints

variable {α : Type} (w : Workplace) (settings : Option String)
  (operation : Service → Text → Recorded (Except Service.Failure α))

/-- What an operation reports about the text of the standard input, with the service of the
settings. -/
def Reports (outcome : α) : Prop :=
  ∃ text s service, readInput w = .ok text ∧ (prepare w settings).value = .ok (s, service) ∧
    (operation service text).value = .ok outcome

/-- What comes of a command that prints the text in a report, by the rules of the console. -/
structure Prints (made : α → RawText) (r : Result) : Prop where
  succeeds : r.exitCode = 0 ↔ ∃ outcome page, Reports w settings operation outcome ∧
    w.console.program (made outcome) = some page
  fails : r.exitCode = 0 ∨ r.exitCode = 1
  printed : ∀ outcome page, Reports w settings operation outcome →
    w.console.program (made outcome) = some page → r.printed = page
  /-- A text that the console puts on the page as it is stands there in the one way that there is.
  -/
  shown : ∀ outcome (text : Text), Reports w settings operation outcome → made outcome = text.raw →
    w.console.Renders text → ∀ page, Shown 0 text page ↔ r.printed = page
  /-- Such a text has not been altered just when all of its characters can stand on a page. -/
  unaltered : ∀ outcome (text : Text), Reports w settings operation outcome →
    made outcome = text.raw → w.console.Renders text →
    (r.printed = text ++ ['\n'] ↔ ∀ c ∈ text, isPlain c = true)

theorem readSource_dash : readSource w "-" = readInput w := if_pos rfl

theorem value_report_eq_ok {outcome : α} :
    (report w settings "-" operation).value = .ok outcome
      ↔ Reports w settings operation outcome := by
  rw [report, readSource_dash]
  constructor
  · intro h
    cases hinput : readInput w with
    | error fault =>
      rw [hinput] at h
      exact nomatch h
    | ok text =>
      rw [hinput] at h
      obtain ⟨⟨s, service⟩, hprepare, hvalue⟩ := exists_of_andThen h
      exact ⟨text, s, service, hinput, hprepare, eq_ok_of_mapError_eq_ok hvalue⟩
  · rintro ⟨text, s, service, hinput, hprepare, hvalue⟩
    rw [hinput]
    show ((prepare w settings).andThen _).value = _
    rw [value_andThen hprepare, Recorded.value_bind, hvalue]
    rfl

variable {w settings operation} in
/-- Nothing is printed without a report that the console has a page for. -/
theorem Prints.of_failure {made : α → RawText} {r : Result} (hcode : r.exitCode = 1)
    (hnone : ∀ o page, Reports w settings operation o → w.console.program (made o) ≠ some page) :
    Prints w settings operation made r := by
  have hrenders : ∀ o (text : Text), Reports w settings operation o → made o = text.raw →
      ¬ w.console.Renders text := by
    intro o text ho htext hrenders
    exact hnone o _ ho (htext ▸ (hrenders _).mpr (shown_program text))
  exact
    { succeeds := ⟨fun hzero => absurd (hcode.symm.trans hzero) Nat.one_ne_zero,
        fun ⟨o, page, ho, hpage⟩ => absurd hpage (hnone o page ho)⟩
      fails := .inr hcode
      printed := fun o page ho hpage => absurd hpage (hnone o page ho)
      shown := fun o text ho htext h => absurd h (hrenders o text ho htext)
      unaltered := fun o text ho htext h => absurd h (hrenders o text ho htext) }

theorem conclude_prints (made : α → RawText) :
    Prints w settings operation made
      (conclude w.console (fun console o => printed [console.program (made o)])
        (report w settings "-" operation).value) := by
  cases hreport : (report w settings "-" operation).value with
  | error fault =>
    refine .of_failure rfl fun o page ho => ?_
    rw [(value_report_eq_ok w settings operation).mpr ho] at hreport
    cases hreport
  | ok outcome =>
    have houtcome : ∀ o, Reports w settings operation o → o = outcome := by
      intro o ho
      rw [(value_report_eq_ok w settings operation).mpr ho] at hreport
      exact Except.ok.inj hreport
    have hreports := (value_report_eq_ok w settings operation).mp hreport
    rw [conclude]
    cases hpage : w.console.program (made outcome) with
    | none =>
      refine .of_failure rfl fun o page ho => ?_
      rw [houtcome o ho, hpage]
      exact (Option.some_ne_none page).symm
    | some page =>
      have hprinted : printed [some page] = ⟨0, page, none⟩ := by
        rw [printed, printed, List.append_nil]
      have hshown : ∀ o (text : Text), Reports w settings operation o → made o = text.raw →
          w.console.Renders text → Shown 0 text page := by
        intro o text ho htext hrenders
        rw [← hrenders, ← htext, houtcome o ho, hpage]
      rw [hprinted]
      exact
        { succeeds := ⟨fun _ => ⟨outcome, page, hreports, hpage⟩, fun _ => rfl⟩
          fails := .inl rfl
          printed := fun o other ho hprogram => by
            rw [houtcome o ho, hpage] at hprogram
            exact Option.some.inj hprogram
          shown := fun o text ho htext hrenders other => by
            have h := hshown o text ho htext hrenders
            exact ⟨fun hother => hother.unique h, fun heq => heq ▸ h⟩
          unaltered := fun o text ho htext hrenders =>
            (hshown o text ho htext hrenders).eq_iff }

end Prints

/-- Compact texts and texts that were laid out again are printed in the same way, whatever the
settings, the given language and the rules of the console are. -/
theorem run_prints (w : Workplace) (settings language : Option String) :
    Prints w settings (fun service text => service.compact text language)
        CompactOutcome.compactedText (run w ⟨settings, .compact "-" language⟩).value ∧
      Prints w settings Service.uncompact FormatOutcome.formattedText
        (run w ⟨settings, .uncompact "-"⟩).value :=
  ⟨conclude_prints w settings _ CompactOutcome.compactedText,
    conclude_prints w settings _ FormatOutcome.formattedText⟩

/-- A workplace with a text on its standard input, and otherwise as bare as can be: the document of
the defaults is empty, there are no lexers, and the remote formatter cannot be reached. -/
def bare (input : String) : Workplace where
  surroundings := { defaults := some [] }
  equipment := { lexers := {}, transport := fun _ => .error "refused" }
  input := Unicode.encodeUtf8 input.toList

/-- A tabulator in a literal is printed as spaces, so that the literal is another one. -/
theorem run_alters_tab :
    ∃ o, Reports (bare "s = \"a\tb\";") none
        (fun service text => service.compact text (some "java")) o ∧
      o.compactedText = .ofString "s = \"a\tb\";" ∧
      (run (bare "s = \"a\tb\";") ⟨none, .compact "-" (some "java")⟩).value.printed
        = "s = \"a  b\";\n".toList ∧
      "s = \"a  b\";\n".toList ≠ "s = \"a\tb\";".toList ++ ['\n'] := by
  obtain ⟨o, hreport, htext⟩ : ∃ o,
      (report (bare "s = \"a\tb\";") none "-" fun service text =>
        service.compact text (some "java")).value = .ok o ∧
      decide (o.compactedText = .ofString "s = \"a\tb\";") = true :=
    exists_of_any (by decide +kernel)
  have hcompact := of_decide_eq_true htext
  refine ⟨o, (value_report_eq_ok _ _ _).mp hreport, hcompact, ?_, by decide +kernel⟩
  show (conclude _ printCompact (report _ none "-" _).value).printed = _
  rw [hreport, conclude, printCompact, hcompact]
  decide +kernel

end SourceText.Command
