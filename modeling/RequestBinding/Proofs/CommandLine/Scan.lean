import RequestBinding.Proofs.CommandLine.Request
import RequestBinding.Proofs.Comment.Extraction

set_option autoImplicit false

namespace RequestBinding

namespace SourceFile

theorem finding_eq_ok_iff {comment : Comment} {found : Finding} :
    (finding comment).outcome = .ok found ↔
      found.line = comment.line ∧ (Directive.parse comment.text).outcome = .ok found.bindings := by
  obtain ⟨line, bindings⟩ := found
  simp only [finding, Logged.outcome_map, Logged.outcome_mapError]
  cases (Directive.parse comment.text).outcome with
  | error e => simp [Except.mapError, Except.map]
  | ok read => simp [Except.mapError, Except.map, eq_comm]

theorem finding_eq_error_iff {comment : Comment} {e : SourceError} :
    (finding comment).outcome = .error e ↔
      ∃ error, e = .directive comment.line error ∧
        (Directive.parse comment.text).outcome = .error error := by
  simp only [finding, Logged.outcome_map, Logged.outcome_mapError]
  cases (Directive.parse comment.text).outcome with
  | error error => simp [Except.mapError, Except.map, eq_comm]
  | ok read => simp [Except.mapError, Except.map]

theorem outcome_findings (file : SourceFile) (marker : Text) :
    (file.findings marker).outcome =
      match (file.comments marker).outcome with
      | .ok comments => comments.mapM fun comment => (finding comment).outcome
      | .error fault => .error (.encoding fault) := by
  simp only [findings, Logged.outcome_andThen, Logged.outcome_mapError, Logged.outcome_each]
  cases (file.comments marker).outcome <;> rfl

theorem outcome_findings_encode (path text marker : Text) :
    (findings ⟨path, Utf8.encode text⟩ marker).outcome =
      (Comment.ofText marker text).mapM fun comment => (finding comment).outcome := by
  rw [outcome_findings, outcome_comments_encode]

theorem findings_eq_ok {file : SourceFile} {marker : Text} {found : List Finding}
    (read : (file.findings marker).outcome = .ok found) :
    ∃ comments, (file.comments marker).outcome = .ok comments ∧
      (comments.mapM fun comment => (finding comment).outcome) = .ok found := by
  rw [outcome_findings] at read
  cases extracted : (file.comments marker).outcome with
  | error fault => simp [extracted] at read
  | ok comments => exact ⟨comments, rfl, by simpa only [extracted] using read⟩

-- The bytes of a file come first, and then the first of its directives that cannot be read.
theorem findings_eq_error_iff {file : SourceFile} {marker : Text} {e : SourceError} :
    (file.findings marker).outcome = .error e ↔
      (∃ fault, Utf8.decode file.bytes = .error fault ∧ e = .encoding fault) ∨
        ∃ comments, (file.comments marker).outcome = .ok comments ∧
          (comments.mapM fun comment => (finding comment).outcome) = .error e := by
  rw [outcome_findings]
  simp only [← @comments_eq_error_iff file marker]
  cases (file.comments marker).outcome with
  | error fault => simp [eq_comm]
  | ok comments => simp

theorem findings_eq_directive_error {file : SourceFile} {marker : Text} {line : Int}
    {error : DirectiveError}
    (failed : (file.findings marker).outcome = .error (.directive line error)) :
    ∃ text, (Directive.parse text).outcome = .error error := by
  rcases findings_eq_error_iff.mp failed with ⟨_, -, impossible⟩ | ⟨comments, -, unread⟩
  · nomatch impossible
  · obtain ⟨-, comment, -, -, -, refused⟩ := mapM_eq_error_iff.mp unread
    obtain ⟨other, same, parsed⟩ := finding_eq_error_iff.mp refused
    obtain ⟨-, rfl⟩ := SourceError.directive.inj same
    exact ⟨comment.text, parsed⟩

theorem mapM_finding_eq_ok_iff {comments : List Comment} {found : List Finding} :
    (comments.mapM fun comment => (finding comment).outcome) = .ok found ↔
      List.Forall₂ (fun comment entry => entry.line = comment.line ∧
        (Directive.parse comment.text).outcome = .ok entry.bindings) comments found := by
  simp only [mapM_eq_ok_iff, finding_eq_ok_iff]

theorem findings_of_all_read {comments : List Comment}
    (read : ∀ comment ∈ comments, ∃ bindings, (Directive.parse comment.text).outcome = .ok bindings) :
    ∃ found : List Finding,
      (comments.mapM fun comment => (finding comment).outcome) = .ok found ∧
        List.Forall₂ (fun comment entry => entry.line = comment.line ∧
          (Directive.parse comment.text).outcome = .ok entry.bindings) comments found := by
  simp only [mapM_finding_eq_ok_iff, and_self]
  induction comments with
  | nil => exact ⟨[], .nil⟩
  | cons comment rest ih =>
    obtain ⟨here, later⟩ := List.forall_mem_cons.mp read
    obtain ⟨bindings, parsed⟩ := here
    obtain ⟨found, others⟩ := ih later
    exact ⟨⟨comment.line, bindings⟩ :: found, .cons ⟨rfl, parsed⟩ others⟩

theorem findings_of_first_failure {comments : List Comment} {k : Nat} {comment : Comment}
    {error : DirectiveError} (place : comments[k]? = some comment)
    (failed : (Directive.parse comment.text).outcome = .error error)
    (least : ∀ j < k, ∀ earlier : Comment, comments[j]? = some earlier →
      ∃ bindings, (Directive.parse earlier.text).outcome = .ok bindings) :
    (comments.mapM fun comment => (finding comment).outcome) =
      .error (.directive comment.line error) := by
  obtain ⟨inside, here⟩ := List.getElem?_eq_some_iff.mp place
  rw [mapM_eq_error_iff]
  refine ⟨comments.take k, comment, comments.drop (k + 1), ?_, ?_, ?_⟩
  · rw [← here, List.getElem_cons_drop, List.take_append_drop]
  · intro earlier member
    obtain ⟨j, bound, found⟩ := List.mem_take_iff_getElem.mp member
    obtain ⟨bindings, parsed⟩ := least j (by omega) earlier
      (List.getElem?_eq_some_iff.mpr ⟨by omega, found⟩)
    exact ⟨⟨earlier.line, bindings⟩, finding_eq_ok_iff.mpr ⟨rfl, parsed⟩⟩
  · exact finding_eq_error_iff.mpr ⟨error, rfl, failed⟩

end SourceFile

namespace CommandLine

def AsksToScan (setting? : Option Text) (args : List Text) (marker : Text) (format : Format)
    (path : Text) : Prop :=
  ∃ program words rest,
    Words.read Page.program.switches none args = .ok program ∧ program.has .help = false ∧
      program.has .verbose = false ∧ program.arguments = "scan".toList :: rest ∧
      Words.read Page.scan.switches none rest = .ok words ∧ words.has .help = false ∧
      words.markerOr setting? = marker ∧ words.format = .ok format ∧ words.arguments = [path]

theorem asksToScan_spelled_out (setting? : Option Text) (marker path : Text) (format : Format) :
    AsksToScan setting?
      ["scan".toList, "--marker".toList, marker, "--format".toList, format.name, "--".toList, path]
      marker format path := by
  refine ⟨⟨[], _⟩, ⟨[(.marker, marker), (.format, format.name)], [path]⟩, _, rfl, rfl, rfl, rfl,
    rfl, rfl, rfl, ?_, rfl⟩
  cases format <;> rfl

theorem AsksToScan.run_eq {tree : FileTree} {setting? : Option Text} {args : List Text}
    {marker path : Text} {format : Format} {bytes : List UInt8}
    (asked : AsksToScan setting? args marker format path)
    (stored : tree.find path = .file bytes) :
    run tree setting? args = scanOutcome false marker format ⟨shownPath path, bytes⟩ := by
  obtain ⟨program, words, rest, readProgram, noHelp, quiet, command, readWords, noScanHelp,
    markerIs, formatIs, argument⟩ := asked
  have scanned := ScanRun.outcome_eq
    { tree, setting?, args, program, words, rest, path, format, bytes, readProgram, noHelp, command,
      readWords, noScanHelp, formatIs, argument, stored }
  rw [quiet, markerIs] at scanned
  exact scanned

structure Outcome.Shows (outcome : Outcome) (exit : Nat) (stdout stderr : Text) : Prop where
  exit : outcome.exit = exit
  stdout : outcome.stdout = stdout
  stderr : outcome.stderr = stderr
  returns : outcome.fault? = none

structure Outcome.Tells (outcome : Outcome) (exit : Nat) (stdout notice : Text) : Prop where
  exit : outcome.exit = exit
  stdout : outcome.stdout = stdout
  notice : outcome.notice = notice
  returns : outcome.fault? = none

theorem Outcome.Tells.shows {outcome : Outcome} {exit : Nat} {stdout notice : Text}
    (tells : outcome.Tells exit stdout notice) (quiet : outcome.verbose = false) :
    outcome.Shows exit stdout notice := by
  refine ⟨tells.exit, tells.stdout, ?_, tells.returns⟩
  rw [stderr, quiet, tells.notice]
  rfl

theorem tells_scanOutcome_of_ok {file : SourceFile} {marker : Text} {found : List Finding}
    (read : (file.findings marker).outcome = .ok found) (verbose : Bool) (format : Format) :
    (scanOutcome verbose marker format file).Tells 0
      (format.render (.list (found.map Finding.toDatum)) ++ ['\n'])
      (if found = [] then noDirectivesLine marker file.path else []) := by
  constructor
  · simp [scanOutcome, Outcome.ofLogged, read, scanSuccess]
  · simpa [scanOutcome, Outcome.ofLogged, read, scanSuccess] using echo_render_findings format found
  · cases found <;> simp [scanOutcome, Outcome.ofLogged, read, scanSuccess]
  · simp [scanOutcome, Outcome.ofLogged, read, scanSuccess]

theorem tells_scanOutcome_of_error {file : SourceFile} {marker : Text} {line : Int}
    {error : DirectiveError}
    (failed : (file.findings marker).outcome = .error (.directive line error)) (verbose : Bool)
    (format : Format) :
    (scanOutcome verbose marker format file).Tells 1 []
      (errorLine (file.path ++ ':' :: Text.decimal line ++ ": ".toList ++ error.message)) := by
  constructor <;> simp [scanOutcome, Outcome.ofLogged, failed, scanFailure, Outcome.failed]

theorem scanOutcome_of_ok {file : SourceFile} {marker : Text} {found : List Finding}
    (read : (file.findings marker).outcome = .ok found) (format : Format) :
    (scanOutcome false marker format file).Shows 0
      (format.render (.list (found.map Finding.toDatum)) ++ ['\n'])
      (if found = [] then noDirectivesLine marker file.path else []) :=
  (tells_scanOutcome_of_ok read false format).shows rfl

theorem scanOutcome_of_error {file : SourceFile} {marker : Text} {line : Int}
    {error : DirectiveError}
    (failed : (file.findings marker).outcome = .error (.directive line error)) (format : Format) :
    (scanOutcome false marker format file).Shows 1 []
      (errorLine (file.path ++ ':' :: Text.decimal line ++ ": ".toList ++ error.message)) :=
  (tells_scanOutcome_of_error failed false format).shows rfl

theorem scan_all_or_first_error {tree : FileTree} {setting? : Option Text} {args : List Text}
    {marker path text : Text} {format : Format}
    (asked : AsksToScan setting? args marker format path)
    (stored : tree.find path = .file (Utf8.encode text)) :
    ∃ comments : List Comment,
      (SourceFile.comments ⟨shownPath path, Utf8.encode text⟩ marker).outcome = .ok comments ∧
      ((∀ comment ∈ comments, ∃ bindings,
          (Directive.parse comment.text).outcome = .ok bindings) →
        ∃ found : List Finding,
          List.Forall₂ (fun comment entry => entry.line = comment.line ∧
            (Directive.parse comment.text).outcome = .ok entry.bindings) comments found ∧
          (run tree setting? args).Shows 0
            (format.render
                (.list (found.map fun entry =>
                  .object
                    [("line".toList, .int entry.line),
                      ("bindings".toList, .list (entry.bindings.map Binding.toDatum))])) ++
              ['\n'])
            (if comments = [] then
              Text.removeControl ("No '".toList ++ marker ++ "' directives found in ".toList ++
                shownPath path ++ ['.']) ++ ['\n']
            else [])) ∧
      (∀ (k : Nat) (comment : Comment) (error : DirectiveError), comments[k]? = some comment →
        (Directive.parse comment.text).outcome = .error error →
        (∀ j < k, ∀ earlier : Comment, comments[j]? = some earlier →
          ∃ bindings, (Directive.parse earlier.text).outcome = .ok bindings) →
        (run tree setting? args).Shows 1 []
          (Text.removeControl ("Error: ".toList ++ (shownPath path ++ ':' ::
            Text.decimal comment.line ++ ": ".toList ++ error.message)) ++ ['\n'])) := by
  refine ⟨Comment.ofText marker text, SourceFile.outcome_comments_encode _ text marker, ?_, ?_⟩
  · intro read
    obtain ⟨found, run, entries⟩ := SourceFile.findings_of_all_read read
    refine ⟨found, entries, ?_⟩
    have empty : Comment.ofText marker text = [] ↔ found = [] := by
      rw [← List.length_eq_zero_iff, entries.length_eq, List.length_eq_zero_iff]
    simp only [asked.run_eq stored, empty]
    exact scanOutcome_of_ok ((SourceFile.outcome_findings_encode _ text marker).trans run) format
  · intro k comment error place failed least
    rw [asked.run_eq stored]
    exact scanOutcome_of_error ((SourceFile.outcome_findings_encode _ text marker).trans
      (SourceFile.findings_of_first_failure place failed least)) format

-- One file is read to its end, one up to its second directive, and one has no directive.
theorem scan_all_or_first_error_shown :
    let good : Text := "# http:param a in=path\n\n// http:param b".toList
    let bad : Text := "# http:param a\n// http:param b \x1b[1mk\n# http:param c".toList
    let tree : FileTree := .ofPaths
      [("good".toList, some (Utf8.encode good)), ("bad".toList, some (Utf8.encode bad)),
        ("none".toList, some [])]
    let args (format : Format) (path : Text) : List Text :=
      ["scan".toList, "--marker".toList, Comment.defaultMarker, "--format".toList, format.name,
        "--".toList, path]
    let written (lines : List String) : Text := lines.flatMap fun line => line.toList ++ ['\n']
    let json : Text := written
      ["[", "  \x7b", "    \"line\": 1,", "    \"bindings\": [", "      \x7b",
        "        \"arg_name\": \"a\",", "        \"options\": [", "          \x7b",
        "            \"location\": \"path\",", "            \"name\": \"\",",
        "            \"required\": true,", "            \"param_type\": \"\",",
        "            \"description\": \"\"", "          \x7d", "        ]", "      \x7d",
        "    ]", "  \x7d,", "  \x7b", "    \"line\": 3,", "    \"bindings\": [", "      \x7b",
        "        \"arg_name\": \"b\",", "        \"options\": []", "      \x7d", "    ]",
        "  \x7d", "]"]
    let yaml : Text := written
      ["- line: 1", "  bindings:", "  - arg_name: a", "    options:", "    - location: path",
        "      name: ''", "      required: true", "      param_type: ''",
        "      description: ''", "- line: 3", "  bindings:", "  - arg_name: b", "    options: []"]
    (∀ format path, AsksToScan none (args format path) Comment.defaultMarker format path) ∧
      (run tree none (args .json "good".toList)).Shows 0 json [] ∧
      (run tree none (args .yaml "good".toList)).Shows 0 yaml [] ∧
      (run tree none (args .json "none".toList)).Shows 0 "[]\n".toList
        "No 'http:param' directives found in none.\n".toList ∧
      (run tree none (args .json "bad".toList)).Shows 1 []
        "Error: bad:2: invalid parameter pair: k\n".toList := by
  intro good bad tree args written json yaml
  have asked (format : Format) (path : Text) :
      AsksToScan none (args format path) Comment.defaultMarker format path :=
    asksToScan_spelled_out none Comment.defaultMarker path format
  have inGood : tree.find "good".toList = .file (Utf8.encode good) := by decide
  have inNone : tree.find "none".toList = .file (Utf8.encode []) := by decide
  have inBad : tree.find "bad".toList = .file (Utf8.encode bad) := by decide
  let found : List Finding :=
    [⟨1, [⟨"a".toList, [{ location := .path, required := true }]⟩]⟩, ⟨3, [⟨"b".toList, []⟩]⟩]
  have whole (format : Format) :
      (run tree none (args format "good".toList)).Shows 0
        (format.render (.list (found.map Finding.toDatum)) ++ ['\n']) [] := by
    obtain ⟨comments, extracted, reading, -⟩ := scan_all_or_first_error (asked format _) inGood
    obtain rfl : comments = [⟨1, "a in=path".toList⟩, ⟨3, "b".toList⟩] :=
      (SourceFile.comments_encode_eq_ok_iff.mp extracted).symm.trans (by decide)
    obtain ⟨entries, read, shown⟩ := reading (by
      rw [List.forall_mem_cons, List.forall_mem_singleton]
      exact ⟨⟨_, rfl⟩, ⟨_, rfl⟩⟩)
    have parsed : ([⟨1, "a in=path".toList⟩, ⟨3, "b".toList⟩].mapM fun comment =>
        (SourceFile.finding comment).outcome) = .ok found := by decide
    obtain rfl : entries = found :=
      Except.ok.inj ((SourceFile.mapM_finding_eq_ok_iff.mpr read).symm.trans parsed)
    exact shown
  have inJson : Format.json.render (.list (found.map Finding.toDatum)) ++ ['\n'] = json := by
    decide +kernel
  have inYaml : Format.yaml.render (.list (found.map Finding.toDatum)) ++ ['\n'] = yaml := by
    decide +kernel
  refine ⟨asked, ?_, ?_, ?_, ?_⟩
  · rw [← inJson]
    exact whole .json
  · rw [← inYaml]
    exact whole .yaml
  · obtain ⟨comments, extracted, reading, -⟩ := scan_all_or_first_error (asked .json _) inNone
    obtain rfl : comments = [] :=
      (SourceFile.comments_encode_eq_ok_iff.mp extracted).symm.trans (by decide)
    obtain ⟨entries, read, shown⟩ := reading nofun
    cases read
    exact shown
  · obtain ⟨comments, extracted, -, failing⟩ := scan_all_or_first_error (asked .json _) inBad
    obtain rfl : comments = [⟨1, "a".toList⟩, ⟨2, "b \x1b[1mk".toList⟩, ⟨3, "c".toList⟩] :=
      (SourceFile.comments_encode_eq_ok_iff.mp extracted).symm.trans (by decide)
    refine failing 1 ⟨2, "b \x1b[1mk".toList⟩ (.invalidPair "\x1b[1mk".toList) rfl (by decide) ?_
    intro j before earlier found
    obtain rfl : j = 0 := by omega
    obtain rfl := Option.some.inj found
    exact ⟨[⟨"a".toList, []⟩], by decide⟩

end CommandLine

end RequestBinding
