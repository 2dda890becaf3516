import RequestBinding.CommandLine.Program

set_option autoImplicit false

namespace RequestBinding.CommandLine

inductive Job where
  | parse (format : Format) (directive : Text)
  | scan (format : Format) (marker : Text) (file : SourceFile)

def Job.outcome (verbose : Bool) : Job → Outcome
  | .parse format directive => parseOutcome verbose format directive
  | .scan format marker file => scanOutcome verbose marker format file

-- The words of a command up to its argument. Those behind it are still to be refused.
structure Understood (page : Page) (args : List Text) (words : Words) (format : Format)
    (argument : Text) (extra : List Text) : Prop where
  readWords : Words.read page.switches none args = .ok words
  noHelp : words.has .help = false
  formatIs : words.format = .ok format
  arguments : words.arguments = argument :: extra

inductive Asks (tree : FileTree) (setting? : Option Text) :
    (command : Text) → (args : List Text) → Job → Prop
  | parse {args : List Text} {words : Words} {format : Format} {directive : Text} :
      Understood .parse args words format directive [] →
        Asks tree setting? "parse".toList args (.parse format directive)
  | scan {args : List Text} {words : Words} {format : Format} {path : Text} {bytes : List UInt8} :
      Understood .scan args words format path [] → tree.find path = .file bytes →
        Asks tree setting? "scan".toList args
          (.scan format (words.markerOr setting?) ⟨shownPath path, bytes⟩)

structure Calls (args : List Text) (program : Words) (command : Text) (rest : List Text) :
    Prop where
  readProgram : Words.read Page.program.switches none args = .ok program
  noHelp : program.has .help = false
  arguments : program.arguments = command :: rest

def Asked (tree : FileTree) (setting? : Option Text) (args : List Text) (verbose : Bool)
    (job : Job) : Prop :=
  ∃ program command rest, Calls args program command rest ∧ program.has .verbose = verbose ∧
    Asks tree setting? command rest job

inductive Idle : Outcome → Prop
  | usage : Idle { exit := 2, notice := Page.program.help }
  | help (page : Page) : Idle (.help page)
  | refused (page : Page) (refusal : Refusal) : Idle (.refused page refusal)

theorem Understood.commandPlan_eq {page : Page} {args : List Text} {words : Words} {format : Format}
    {argument : Text} {extra : List Text}
    (understood : Understood page args words format argument extra)
    (next : Words → Format → Text → List Text → Plan) :
    commandPlan page args next = next words format argument extra := by
  simp only [commandPlan, understood.readWords, understood.noHelp, Bool.false_eq_true, if_false,
    understood.formatIs, understood.arguments]

theorem understood_or_idle (page : Page) (args : List Text) :
    (∃ words format argument extra, Understood page args words format argument extra) ∨
      ∃ outcome, Idle outcome ∧ ∀ next, commandPlan page args next = .settled outcome := by
  cases read : Words.read page.switches none args with
  | error fault => exact .inr ⟨_, .refused page (.badSwitch fault), by simp [commandPlan, read]⟩
  | ok words =>
    cases asked : words.has .help with
    | true => exact .inr ⟨_, .help page, by simp [commandPlan, read, asked]⟩
    | false =>
      cases named : words.format with
      | error value =>
        exact .inr ⟨_, .refused page (.unknownFormat value),
          by simp [commandPlan, read, asked, named]⟩
      | ok format =>
        cases given : words.arguments with
        | nil =>
          exact .inr ⟨_, .refused page .missingArgument,
            by simp [commandPlan, read, asked, named, given]⟩
        | cons argument extra =>
          exact .inl ⟨words, format, argument, extra, read, asked, named, given⟩

variable {setting? : Option Text}

theorem parsePlan_cases (tree : FileTree) (args : List Text) :
    (∃ job, Asks tree setting? "parse".toList args job) ∨
      ∃ outcome, Idle outcome ∧ ∀ verbose, (parsePlan verbose args).run tree = outcome := by
  rcases understood_or_idle .parse args with
    ⟨words, format, directive, extra, understood⟩ | ⟨outcome, idle, same⟩
  · cases extra with
    | nil => exact .inl ⟨_, .parse understood⟩
    | cons first more =>
      refine .inr ⟨_, .refused .parse (.extraArguments first more), fun verbose => ?_⟩
      rw [parsePlan, understood.commandPlan_eq]
      rfl
  · refine .inr ⟨outcome, idle, fun verbose => ?_⟩
    rw [parsePlan, same]
    rfl

theorem scanPlan_cases (tree : FileTree) (args : List Text) :
    (∃ job, Asks tree setting? "scan".toList args job) ∨
      ∃ outcome, Idle outcome ∧ ∀ verbose, (scanPlan verbose setting? args).run tree = outcome := by
  rcases understood_or_idle .scan args with
    ⟨words, format, path, extra, understood⟩ | ⟨outcome, idle, same⟩
  · -- A path that leads nowhere is refused ahead of the words behind it.
    cases stored : tree.find path with
    | missing =>
      refine .inr ⟨_, .refused .scan (.missingFile path), fun verbose => ?_⟩
      rw [scanPlan, understood.commandPlan_eq, Plan.run, stored]
    | directory =>
      refine .inr ⟨_, .refused .scan (.directory path), fun verbose => ?_⟩
      rw [scanPlan, understood.commandPlan_eq, Plan.run, stored]
    | file bytes =>
      cases extra with
      | nil => exact .inl ⟨_, .scan understood stored⟩
      | cons first more =>
        refine .inr ⟨_, .refused .scan (.extraArguments first more), fun verbose => ?_⟩
        rw [scanPlan, understood.commandPlan_eq, Plan.run, stored]
        rfl
  · refine .inr ⟨outcome, idle, fun verbose => ?_⟩
    rw [scanPlan, same]
    rfl

theorem idle_unknownCommandPlan (tree : FileTree) (name : Text) (args : List Text) :
    Idle ((unknownCommandPlan name args).run tree) := by
  simp only [unknownCommandPlan, Plan.run]
  split
  · exact .refused .program _
  · split
    · exact .help .program
    · exact .refused .program _

def namedPlan (verbose : Bool) (setting? : Option Text) (command : Text) (args : List Text) :
    Plan :=
  if command = "parse".toList then parsePlan verbose args
  else if command = "scan".toList then scanPlan verbose setting? args
  else unknownCommandPlan command args

theorem namedPlan_cases (tree : FileTree) (command : Text) (args : List Text) :
    (∃ job, Asks tree setting? command args job) ∨
      ∃ outcome, Idle outcome ∧
        ∀ verbose, (namedPlan verbose setting? command args).run tree = outcome := by
  by_cases parse : command = "parse".toList
  · subst parse
    exact parsePlan_cases tree args
  by_cases scan : command = "scan".toList
  · subst scan
    exact scanPlan_cases tree args
  · refine .inr ⟨_, idle_unknownCommandPlan tree command args, fun verbose => ?_⟩
    rw [namedPlan, if_neg parse, if_neg scan]

theorem Asks.run_eq {tree : FileTree} {command : Text} {args : List Text} {job : Job}
    (asks : Asks tree setting? command args job) (verbose : Bool) :
    (namedPlan verbose setting? command args).run tree = job.outcome verbose := by
  cases asks with
  | parse understood => exact congrArg (Plan.run tree) (understood.commandPlan_eq _)
  | scan understood stored =>
    change (scanPlan verbose setting? args).run tree = _
    rw [scanPlan, understood.commandPlan_eq, Plan.run, stored]
    rfl

theorem Calls.plan_eq {args rest : List Text} {program : Words} {command : Text}
    (calls : Calls args program command rest) (setting? : Option Text) :
    plan setting? args = namedPlan (program.has .verbose) setting? command rest := by
  have given : args ≠ [] := by
    rintro rfl
    have arguments := calls.arguments
    rw [← Except.ok.inj calls.readProgram] at arguments
    nomatch arguments
  simp only [plan, given, if_false, calls.readProgram, calls.noHelp, Bool.false_eq_true,
    calls.arguments, namedPlan]

theorem calls_or_idle (setting? : Option Text) (args : List Text) :
    (∃ program command rest, Calls args program command rest) ∨
      ∃ outcome, Idle outcome ∧ plan setting? args = .settled outcome := by
  by_cases bare : args = []
  · exact .inr ⟨_, .usage, by simp [plan, bare]⟩
  cases read : Words.read Page.program.switches none args with
  | error fault => exact .inr ⟨_, .refused .program (.badSwitch fault), by simp [plan, bare, read]⟩
  | ok program =>
    cases asked : program.has .help with
    | true => exact .inr ⟨_, .help .program, by simp [plan, bare, read, asked]⟩
    | false =>
      cases given : program.arguments with
      | nil =>
        exact .inr ⟨_, .refused .program .missingCommand, by simp [plan, bare, read, asked, given]⟩
      | cons command rest => exact .inl ⟨program, command, rest, read, asked, given⟩

theorem Asked.run_eq {tree : FileTree} {args : List Text} {verbose : Bool} {job : Job}
    (asked : Asked tree setting? args verbose job) :
    run tree setting? args = job.outcome verbose := by
  obtain ⟨program, command, rest, calls, rfl, asks⟩ := asked
  rw [run, calls.plan_eq, asks.run_eq]

end RequestBinding.CommandLine
