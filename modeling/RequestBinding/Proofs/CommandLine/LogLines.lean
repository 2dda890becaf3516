import RequestBinding.Proofs.CommandLine.Accepted
import RequestBinding.Proofs.CommandLine.Scan
import RequestBinding.Proofs.Messages

set_option autoImplicit false

namespace RequestBinding

def Record.content (r : Record) : Text :=
  r.level.name ++ ' ' :: r.source.name ++ ": ".toList ++ r.message

theorem Record.unbroken_content {r : Record} (unbroken : r.message.Unbroken) :
    r.content.Unbroken := by
  have level : r.level.name.Unbroken := by cases r.level <;> decide
  have source : r.source.name.Unbroken := by cases r.source <;> decide
  simp only [content, Text.unbroken_append, Text.unbroken_cons, level, source, unbroken, and_true]
  decide

namespace CommandLine

inductive Ending (tree : FileTree) : Plan → Outcome → Prop
  | usage {plan : Plan} : Ending tree plan { exit := 2, notice := Page.program.help }
  | help {plan : Plan} (page : Page) : Ending tree plan (.help page)
  | refused {plan : Plan} (page : Page) (refusal : Refusal) :
      Ending tree plan (.refused page refusal)
  | parsed {plan : Plan} (verbose : Bool) (format : Format) (directive : Text) :
      Ending tree plan (parseOutcome verbose format directive)
  | scanned {path : Text} {next : Node → Outcome} {bytes : List UInt8} (verbose : Bool)
      (marker : Text) (format : Format) : tree.find path = .file bytes →
        Ending tree (.lookUp path next)
          (scanOutcome verbose marker format ⟨shownPath path, bytes⟩)

section

variable (tree : FileTree)

theorem ending_unlessExtra {plan : Plan} {outcome : Outcome} (page : Page) (extra : List Text)
    (ending : Ending tree plan outcome) : Ending tree plan (outcome.unlessExtra page extra) := by
  cases extra with
  | nil => exact ending
  | cons first more => exact .refused page (.extraArguments first more)

theorem Idle.ending {plan : Plan} {outcome : Outcome} (idle : Idle outcome) :
    Ending tree plan outcome := by
  cases idle with
  | usage => exact .usage
  | help page => exact .help page
  | refused page refusal => exact .refused page refusal

theorem ending_commandPlan {page : Page} {next : Words → Format → Text → List Text → Plan}
    (each : ∀ words format argument extra, Ending tree (next words format argument extra)
      ((next words format argument extra).run tree)) (args : List Text) :
    Ending tree (commandPlan page args next) ((commandPlan page args next).run tree) := by
  rcases understood_or_idle page args with
    ⟨words, format, argument, extra, understood⟩ | ⟨outcome, idle, same⟩
  · rw [understood.commandPlan_eq]
    exact each words format argument extra
  · rw [same]
    exact idle.ending tree

theorem ending_parsePlan (verbose : Bool) (args : List Text) :
    Ending tree (parsePlan verbose args) ((parsePlan verbose args).run tree) := by
  apply ending_commandPlan
  intro words format directive extra
  exact ending_unlessExtra tree .parse extra (.parsed verbose format directive)

theorem ending_scanPlan (verbose : Bool) (setting? : Option Text) (args : List Text) :
    Ending tree (scanPlan verbose setting? args) ((scanPlan verbose setting? args).run tree) := by
  apply ending_commandPlan
  intro words format path extra
  simp only [Plan.run]
  cases stored : tree.find path with
  | missing => exact .refused .scan _
  | directory => exact .refused .scan _
  | file bytes =>
    exact ending_unlessExtra tree .scan extra
      (.scanned verbose (words.markerOr setting?) format stored)

theorem ending_run (setting? : Option Text) (args : List Text) :
    Ending tree (plan setting? args) (run tree setting? args) := by
  unfold run
  rcases calls_or_idle setting? args with
    ⟨program, command, rest, calls⟩ | ⟨outcome, idle, settled⟩
  · rw [calls.plan_eq, namedPlan]
    split
    · exact ending_parsePlan tree _ _
    · split
      · exact ending_scanPlan tree _ setting? _
      · exact (idle_unknownCommandPlan tree command rest).ending tree
  · rw [settled]
    exact idle.ending tree

end

theorem unbroken_shownPath {path : Text} (unbroken : path.Unbroken) :
    (shownPath path).Unbroken := by
  have names : ∀ name ∈ (path.splitOn '/').filter fun name => name ≠ [] ∧ name ≠ ['.'],
      Text.Unbroken name := by
    intro name member
    exact unbroken.of_subset fun _ inside =>
      Text.mem_of_mem_splitOn (List.mem_filter.mp member).1 inside
  have joined := Text.unbroken_intercalate (show Text.isLineBreak '/' = false from rfl) names
  let slashes := path.takeWhile (· = '/')
  have root : Text.Unbroken (if slashes.length = 2 then slashes else slashes.take 1) := by
    refine unbroken.of_subset fun c member => (List.takeWhile_prefix (· = '/')).subset ?_
    split at member
    · exact member
    · exact List.mem_of_mem_take member
  have orDot {t : Text} (unbroken : t.Unbroken) :
      Text.Unbroken (if t = [] then ['.'] else t) := by
    split
    · decide
    · exact unbroken
  exact orDot (Text.unbroken_append.mpr ⟨root, joined⟩)

theorem lines_stderr {outcome : Outcome} (unbroken : ∀ r ∈ outcome.log, r.message.Unbroken) :
    Text.lines outcome.stderr =
      (if outcome.verbose then outcome.log.map Record.content else []) ++
        Text.lines outcome.notice := by
  rw [Outcome.stderr]
  split
  · have written : outcome.log.flatMap Record.line =
        (outcome.log.map Record.content).flatMap (· ++ ['\n']) := by
      rw [List.flatMap_map]
      rfl
    have contents : ∀ t ∈ outcome.log.map Record.content, t.Unbroken := by
      rw [List.forall_mem_map]
      exact fun r member => Record.unbroken_content (unbroken r member)
    rw [written, Text.lines_flatMap_append contents]
  · rfl

theorem lines_echo {t : Text} (unbroken : t.Unbroken) :
    Text.lines (echo t) = [Text.removeControl t] :=
  Text.lines_append_newline unbroken.removeControl []

theorem Ending.unbroken_record {tree : FileTree} {plan : Plan} {outcome : Outcome}
    (ending : Ending tree plan outcome)
    (unbroken : ∀ path next, plan = .lookUp path next → path.Unbroken) :
    ∀ r ∈ outcome.log, r.message.Unbroken := by
  intro r member
  cases ending with
  | usage => simp at member
  | help page => simp [Outcome.help] at member
  | refused page refusal => simp [Outcome.refused] at member
  | parsed verbose format directive => exact Directive.unbroken_record member
  | @scanned path next bytes verbose marker format stored =>
    have path := unbroken_shownPath (unbroken path next rfl)
    exact SourceFile.unbroken_findings_record path member

-- Only a path could break a line of the error stream.
theorem no_line_is_forged :
    (∀ text : Text,
      (∀ e, (Directive.parse text).outcome = .error e → e.message.Unbroken) ∧
        ∀ r ∈ (Directive.parse text).log, r.message.Unbroken) ∧
    (∀ (file : SourceFile) (marker : Text), file.path.Unbroken →
      ∀ r ∈ (file.comments marker).log, r.message.Unbroken) ∧
    (∀ (tree : FileTree) (setting? : Option Text) (args : List Text),
      (∀ path next, plan setting? args = .lookUp path next → path.Unbroken) →
        let outcome := run tree setting? args
        Text.lines outcome.stderr =
          (if outcome.verbose then outcome.log.map Record.content else []) ++
            Text.lines outcome.notice) ∧
    ∀ (scan : ScanRun) (line : Int) (e : DirectiveError), scan.path.Unbroken →
      scan.findings = .error (.directive line e) →
        let shown := Text.removeControl ("Error: ".toList ++
          (shownPath scan.path ++ ':' :: Text.decimal line ++ ": ".toList ++ e.message))
        scan.outcome.notice = shown ++ ['\n'] ∧ Text.lines scan.outcome.notice = [shown] := by
  refine ⟨?_, ?_, ?_, ?_⟩
  · exact fun text => ⟨fun e failed => Directive.unbroken_message failed,
      fun r member => Directive.unbroken_record member⟩
  · exact fun file marker path r member => SourceFile.unbroken_comments_record path member
  · intro tree setting? args path
    exact lines_stderr ((ending_run tree setting? args).unbroken_record path)
  · intro scan line e path failed
    obtain ⟨text, parsed⟩ := SourceFile.findings_eq_directive_error failed
    have told := tells_scanOutcome_of_error failed (scan.program.has .verbose) scan.format
    rw [← scan.outcome_eq] at told
    have shown : Text.Unbroken ("Error: ".toList ++ (shownPath scan.path ++
        ':' :: Text.decimal line ++ ": ".toList ++ e.message)) := by
      simp only [Text.unbroken_append, Text.unbroken_cons, unbroken_shownPath path,
        Text.unbroken_decimal, Directive.unbroken_message parsed, and_true]
      decide
    rw [told.notice]
    exact ⟨rfl, lines_echo shown⟩

theorem no_line_is_forged_by_control_characters :
    let content : Text := "# ~ b;a in=\x1b[0m\x1f=\n#~\x0cINFO x: y".toList
    let tree : FileTree := .ofPaths [("s".toList, some (Utf8.encode content))]
    let args : List Text := ["-v", "scan", "--marker", "~", "s"].map String.toList
    let outcome := run tree none args
    let shown : Text := "Error: s:1: invalid location value:  (must be \"path\", ".toList ++
      "\"query\", \"header\" or \"request\")".toList
    (∀ path next, plan none args = .lookUp path next → path.Unbroken) ∧
      outcome.log.length = 4 ∧ outcome.notice = shown ++ ['\n'] ∧
      Text.lines outcome.stderr = outcome.log.map Record.content ++ [shown] := by
  intro content tree args outcome shown
  obtain ⟨-, -, printed, failing⟩ := no_line_is_forged
  have path : ∀ path next, plan none args = .lookUp path next → path.Unbroken := by
    intro path next planned
    obtain ⟨rfl, -⟩ := Plan.lookUp.inj planned
    decide
  have stored : tree.find "s".toList = .file (Utf8.encode content) := by decide
  let scan : ScanRun :=
    { tree, setting? := none, args, program := ⟨[(.verbose, [])], _⟩,
      words := ⟨[(.marker, "~".toList)], ["s".toList]⟩, rest := _, path := "s".toList,
      format := .json, bytes := Utf8.encode content, readProgram := rfl, noHelp := rfl,
      command := rfl, readWords := rfl, noScanHelp := rfl, formatIs := rfl, argument := rfl, stored }
  have refused : scan.findings = .error (.directive 1
      (.invalidLocation "\x1b[0m".toList Location.alternatives)) := rfl
  have kept : Text.removeControl ("Error: ".toList ++ (shownPath "s".toList ++ ':' ::
      Text.decimal 1 ++ ": ".toList ++ DirectiveError.message
        (.invalidLocation "\x1b[0m".toList Location.alternatives))) = shown := by decide
  obtain ⟨notice, oneLine⟩ := failing scan 1 _ (path _ _ rfl) refused
  rw [kept] at notice oneLine
  refine ⟨path, rfl, notice, ?_⟩
  rw [← oneLine]
  exact printed tree none args path

end CommandLine

end RequestBinding
