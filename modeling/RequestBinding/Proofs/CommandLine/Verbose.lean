import RequestBinding.Proofs.CommandLine.Accepted
import RequestBinding.Proofs.Comment.Extraction
import RequestBinding.Proofs.Outcome

set_option autoImplicit false

namespace RequestBinding

namespace SourceFile

variable {file : SourceFile} {marker : Text}

-- All comments are reported before the first of them is read.
def progress (file : SourceFile) (marker : Text) : List Record :=
  match (file.comments marker).outcome with
  | .error _ => [file.scanRecord marker]
  | .ok comments =>
    file.scanRecord marker :: comments.map file.commentRecord ++
      (tried (fun comment : Comment => (Directive.parse comment.text).outcome) comments).flatMap
        fun comment => (Directive.parse comment.text).log

theorem tried_finding (comments : List Comment) :
    tried (fun comment => (finding comment).outcome) comments =
      tried (fun comment : Comment => (Directive.parse comment.text).outcome) comments := by
  have same : (fun comment => (finding comment).outcome.isOk) =
      fun comment : Comment => (Directive.parse comment.text).outcome.isOk := by
    funext comment
    rw [finding, Logged.outcome_map, Logged.outcome_mapError]
    cases (Directive.parse comment.text).outcome <;> rfl
  rw [tried, tried, same]

theorem log_findings (file : SourceFile) (marker : Text) :
    (file.findings marker).log = file.progress marker := by
  have noted := log_comments file marker
  cases extracted : (file.comments marker).outcome with
  | error fault =>
    rw [extracted] at noted
    simp [findings, progress, Logged.andThen, extracted, noted, Except.mapError]
  | ok comments =>
    rw [extracted] at noted
    have each : (Logged.each finding comments).log =
        (tried (fun comment : Comment => (Directive.parse comment.text).outcome) comments).flatMap
          fun comment => (Directive.parse comment.text).log := by
      rw [Logged.log_each, tried_finding]
      rfl
    simp [findings, progress, Logged.andThen, extracted, noted, Except.mapError, each]

end SourceFile

namespace CommandLine

def Job.progress : Job → List Record
  | .parse _ directive => (Directive.parse directive).log
  | .scan _ marker file => file.progress marker

theorem Job.log_outcome (job : Job) (verbose : Bool) :
    (job.outcome verbose).log = job.progress := by
  cases job with
  | parse format directive => rfl
  | scan format marker file => exact file.log_findings marker

theorem Job.outcome_true (job : Job) :
    job.outcome true = { job.outcome false with verbose := true } := by
  cases job <;> rfl

theorem Job.stderr_outcome_true (job : Job) :
    (job.outcome true).stderr =
      job.progress.flatMap Record.line ++ (job.outcome false).stderr := by
  have quiet : (job.outcome false).stderr = (job.outcome false).notice := by cases job <;> rfl
  rw [job.outcome_true, quiet, ← job.log_outcome false]
  rfl

theorem Idle.log {outcome : Outcome} (idle : Idle outcome) : outcome.log = [] := by
  cases idle <;> rfl

theorem Asks.progress_unique {tree : FileTree} {setting? : Option Text} {command : Text}
    {args : List Text} {job job' : Job} (asks : Asks tree setting? command args job)
    (again : Asks tree setting? command args job') : job.progress = job'.progress := by
  have same : job.outcome true = job'.outcome true := by
    rw [← asks.run_eq true, again.run_eq true]
  rw [← job.log_outcome true, same, job'.log_outcome true]

-- Every record is one line: its level and the name of its source stand ahead of the message.
theorem verbose_only_adds_log (tree : FileTree) (setting? : Option Text) {command : Text}
    (known : command = "parse".toList ∨ command = "scan".toList) (rest : List Text) :
    let plain := run tree setting? (command :: rest)
    let loud := run tree setting? ("-v".toList :: command :: rest)
    ∃ shown : List Record,
      loud.exit = plain.exit ∧ loud.stdout = plain.stdout ∧ loud.fault? = plain.fault? ∧
        loud.stderr =
          (shown.flatMap fun record => record.level.name ++ ' ' :: record.source.name ++
            ": ".toList ++ record.message ++ ['\n']) ++ plain.stderr ∧
        (∀ job, Asks tree setting? command rest job → shown = job.progress) ∧
        ((¬ ∃ job, Asks tree setting? command rest job) → shown = [] ∧ Idle plain) := by
  intro plain loud
  have quiet : plain = (namedPlan false setting? command rest).run tree := by
    rcases known with rfl | rfl <;> rfl
  have voiced : loud = (namedPlan true setting? command rest).run tree := by
    rcases known with rfl | rfl <;> rfl
  rcases namedPlan_cases tree command rest with ⟨job, asks⟩ | ⟨outcome, idle, same⟩
  · rw [asks.run_eq] at quiet voiced
    rw [quiet, voiced]
    refine ⟨job.progress, ?_, ?_, ?_, job.stderr_outcome_true, ?_, ?_⟩
    · rw [job.outcome_true]
    · rw [job.outcome_true]
    · rw [job.outcome_true]
    · exact fun job' again => asks.progress_unique again
    · exact fun none => absurd ⟨job, asks⟩ none
  · rw [same] at quiet voiced
    rw [quiet, voiced]
    refine ⟨[], rfl, rfl, rfl, rfl, ?_, fun _ => ⟨rfl, idle⟩⟩
    intro job asks
    rw [← job.log_outcome true, ← asks.run_eq, same, idle.log]

-- The second directive fails behind its first binding, and the third is found but not read.
theorem verbose_scan_up_to_failure :
    let text : Text := "# http:param a\n# http:param b;c k\n# http:param d".toList
    let file : SourceFile := ⟨"s".toList, Utf8.encode text⟩
    let tree : FileTree := .ofPaths [("s".toList, some file.bytes)]
    let job : Job := .scan .json Comment.defaultMarker file
    let lines : List String :=
      ["INFO param_directive.parser.extract: Scanning s for 'http:param' directives",
        "DEBUG param_directive.parser.extract: s:1: a",
        "DEBUG param_directive.parser.extract: s:2: b;c k",
        "DEBUG param_directive.parser.extract: s:3: d",
        "DEBUG param_directive.parser.directive: Binding a: 0 option group(s)",
        "DEBUG param_directive.parser.directive: Parsed 1 binding(s) from 'a'",
        "DEBUG param_directive.parser.directive: Binding b: 0 option group(s)",
        "Error: s:2: invalid parameter pair: k"]
    Asks tree none "scan".toList ["./s".toList] job ∧
      (run tree none ["-v".toList, "scan".toList, "./s".toList]).stderr =
        lines.flatMap fun line => line.toList ++ ['\n'] := by
  intro text file tree job lines
  have understood : Understood .scan ["./s".toList] ⟨[], ["./s".toList]⟩ .json "./s".toList [] :=
    ⟨rfl, rfl, rfl, rfl⟩
  have stored : tree.find "./s".toList = .file file.bytes := by decide
  have asks : Asks tree none "scan".toList ["./s".toList] job := .scan understood stored
  have progress : job.progress =
      [file.scanRecord Comment.defaultMarker, file.commentRecord ⟨1, "a".toList⟩,
        file.commentRecord ⟨2, "b;c k".toList⟩, file.commentRecord ⟨3, "d".toList⟩,
        Binding.record ⟨"a".toList, []⟩, Directive.parsedRecord "a".toList 1,
        Binding.record ⟨"b".toList, []⟩] := rfl
  have plain : (run tree none ["scan".toList, "./s".toList]).stderr =
      "Error: s:2: invalid parameter pair: k\n".toList := by decide
  obtain ⟨shown, -, -, -, stderr, work, -⟩ :=
    verbose_only_adds_log tree none (.inr rfl) ["./s".toList]
  refine ⟨asks, ?_⟩
  rw [stderr, plain, work job asks, progress]
  decide +kernel

end CommandLine

end RequestBinding
