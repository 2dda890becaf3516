import Mathlib.Data.List.Nodup
import RequestBinding.Proofs.CommandLine.Scan
import RequestBinding.Proofs.Directive.Segment

set_option autoImplicit false

namespace RequestBinding

namespace Comment

-- One line of a text, behind `n` others, is the only one to carry the marker.
structure Sole (marker text : Text) (n : Nat) (directive : Text) : Prop where
  written : ∃ before leader gap space, Text.Blank before ∧ leader ∈ leaders ∧ Text.Blank gap ∧
    Text.Blank space ∧ space ≠ [] ∧ (Text.lines (Text.unifyNewlines text))[n]? =
      some (before ++ leader ++ gap ++ marker ++ space ++ directive)
  others : ∀ m line rest, m ≠ n → (Text.lines (Text.unifyNewlines text))[m]? = some line →
    ¬ Marked marker line rest

variable {marker text directive : Text} {n : Nat}

theorem Sole.exists_line (sole : Sole marker text n directive) :
    ∃ line, (Text.lines (Text.unifyNewlines text))[n]? = some line ∧
      body? marker line = some directive.strip := by
  obtain ⟨before, leader, gap, space, blank, known, gapBlank, spaceBlank, filled, place⟩ :=
    sole.written
  refine ⟨_, place, body?_eq_some_iff.mpr ⟨space ++ directive, ?_, ?_⟩⟩
  · refine ⟨before, leader, gap, blank, known, gapBlank, by simp, .inr ?_⟩
    obtain ⟨c, rest, rfl⟩ := List.exists_cons_of_ne_nil filled
    exact spaceBlank c (by simp)
  · simpa using (Text.strip_between directive spaceBlank Text.blank_nil).symm

theorem Sole.ofText_eq (sole : Sole marker text n directive) :
    ofText marker text = [⟨n + 1, directive.strip⟩] := by
  obtain ⟨line, place, read⟩ := sole.exists_line
  have members : ∀ comment, comment ∈ ofText marker text ↔
      comment ∈ [(⟨n + 1, directive.strip⟩ : Comment)] := by
    intro comment
    rw [ofText, mem_ofLinesFrom_iff, List.mem_singleton]
    constructor
    · intro found
      obtain ⟨m, other, body, there, unstripped, rfl⟩ := found
      by_cases same : m = n
      · subst same
        obtain rfl := Option.some.inj (place.symm.trans there)
        obtain rfl := Option.some.inj (read.symm.trans unstripped)
        simp [Int.add_comm]
      · obtain ⟨rest, marked, -⟩ := body?_eq_some_iff.mp unstripped
        exact absurd marked (sole.others m other rest same there)
    · rintro rfl
      exact ⟨n, line, directive.strip, place, read, by simp [Int.add_comm]⟩
  have distinct : (ofText marker text).Nodup := by
    refine (pairwise_ofLinesFrom marker 1 _).imp ?_
    rintro a b before rfl
    omega
  exact List.perm_singleton.mp
    ((List.perm_ext_iff_of_nodup distinct (List.nodup_singleton _)).mpr members)

end Comment

namespace CommandLine

theorem tells_parseOutcome_of_ok {directive : Text} {bindings : List Binding}
    (read : (Directive.parse directive).outcome = .ok bindings) (verbose : Bool) (format : Format) :
    (parseOutcome verbose format directive).Tells 0
      (format.render (.list (bindings.map Binding.toDatum)) ++ ['\n']) [] := by
  have shown := stdout_parseOutcome read verbose format
  have keys := Datum.controlFree_keys_list bindings fun b _ => b.controlFree_keys
  rw [echo_of_controlFree (format.controlFree_render _ keys)] at shown
  constructor
  · simp [parseOutcome, Outcome.ofLogged, read]
  · exact shown
  · simp [parseOutcome, Outcome.ofLogged, read]
  · simp [parseOutcome, Outcome.ofLogged, read]

theorem tells_parseOutcome_of_error {directive : Text} {e : DirectiveError}
    (failed : (Directive.parse directive).outcome = .error e) (verbose : Bool) (format : Format) :
    (parseOutcome verbose format directive).Tells 1 [] (errorLine e.message) := by
  constructor <;> simp [parseOutcome, Outcome.ofLogged, failed, Outcome.failed]

theorem scan_agrees_with_parse (scan : ScanRun) {text directive : Text} {n : Nat}
    (stored : scan.bytes = Utf8.encode text)
    (sole : Comment.Sole (scan.words.markerOr scan.setting?) text n directive) :
    let alone := run scan.tree scan.setting? ["parse".toList, "--".toList, directive]
    (∀ bindings, (Directive.parse directive).outcome = .ok bindings →
      alone.Tells 0 (Format.json.render (.list (bindings.map Binding.toDatum)) ++ ['\n']) [] ∧
        scan.outcome.Tells 0
          (scan.format.render
              (.list
                [.object
                  [("line".toList, .int (n + 1)),
                    ("bindings".toList, .list (bindings.map Binding.toDatum))]]) ++ ['\n']) []) ∧
      ∀ e, (Directive.parse directive).outcome = .error e →
        alone.Tells 1 [] (errorLine e.message) ∧
          scan.outcome.Tells 1 [] (errorLine (shownPath scan.path ++ ':' ::
            Text.decimal (n + 1) ++ ": ".toList ++ e.message)) := by
  intro alone
  have findings : scan.findings =
      [(⟨n + 1, directive.strip⟩ : Comment)].mapM fun comment =>
        (SourceFile.finding comment).outcome := by
    rw [ScanRun.findings, stored, SourceFile.outcome_findings_encode, sole.ofText_eq]
  have same : Directive.parse directive.strip = Directive.parse directive :=
    Directive.parse_strip directive
  constructor
  · intro bindings read
    have found : scan.findings = .ok [⟨n + 1, bindings⟩] := by
      rw [findings, mapM_eq_ok_iff]
      exact .cons (SourceFile.finding_eq_ok_iff.mpr ⟨rfl, same ▸ read⟩) .nil
    refine ⟨tells_parseOutcome_of_ok read false .json, ?_⟩
    rw [scan.outcome_eq]
    exact tells_scanOutcome_of_ok found _ scan.format
  · intro e failed
    have refused : scan.findings = .error (.directive (n + 1) e) := by
      rw [findings]
      exact mapM_cons_error [] (SourceFile.finding_eq_error_iff.mpr ⟨e, rfl, same ▸ failed⟩)
    refine ⟨tells_parseOutcome_of_error failed false .json, ?_⟩
    rw [scan.outcome_eq]
    exact tells_scanOutcome_of_error refused _ scan.format

-- Both directives start with the marker itself, and the last line holds it in the wrong place.
theorem scan_agrees_with_parse_behind_marker :
    let text (directive : Text) : Text := "x\r\n\t//a\u2003".toList ++ directive ++ "\n# b a".toList
    let good : Text := "a in=header\u00a0".toList
    let bad : Text := "a // a".toList
    let tree : FileTree := .ofPaths [("s".toList, some (Utf8.encode (text good))),
      ("t".toList, some (Utf8.encode (text bad)))]
    let scan (format : Format) (path : Text) : Outcome := run tree none
      ["scan".toList, "--marker".toList, "a".toList, "--format".toList, format.name,
        "--".toList, path]
    let alone (directive : Text) : Outcome := run tree none
      ["parse".toList, "--".toList, directive]
    let written (lines : List String) : Text := lines.flatMap fun line => line.toList ++ ['\n']
    (∀ directive ∈ [good, bad], Comment.Sole "a".toList (text directive) 1 directive) ∧
      (alone good).Tells 0
        (written
          ["[", "  \x7b", "    \"arg_name\": \"a\",", "    \"options\": [", "      \x7b",
            "        \"location\": \"header\",", "        \"name\": \"\",",
            "        \"required\": false,", "        \"param_type\": \"\",",
            "        \"description\": \"\"", "      \x7d", "    ]", "  \x7d", "]"]) [] ∧
      (scan .json "s".toList).Tells 0
        (written
          ["[", "  \x7b", "    \"line\": 2,", "    \"bindings\": [", "      \x7b",
            "        \"arg_name\": \"a\",", "        \"options\": [", "          \x7b",
            "            \"location\": \"header\",", "            \"name\": \"\",",
            "            \"required\": false,", "            \"param_type\": \"\",",
            "            \"description\": \"\"", "          \x7d", "        ]", "      \x7d",
            "    ]", "  \x7d", "]"]) [] ∧
      (scan .yaml "s".toList).Tells 0
        (written
          ["- line: 2", "  bindings:", "  - arg_name: a", "    options:",
            "    - location: header", "      name: ''", "      required: false",
            "      param_type: ''", "      description: ''"]) [] ∧
      (alone bad).Tells 1 [] "Error: invalid parameter pair: //\n".toList ∧
      (scan .json "t".toList).Tells 1 [] "Error: t:2: invalid parameter pair: //\n".toList := by
  intro text good bad tree scan alone written
  have sole : ∀ directive ∈ [good, bad],
      Comment.Sole "a".toList (text directive) 1 directive := by
    intro directive member
    have place : (Text.lines (Text.unifyNewlines (text directive)))[1]? =
        some ("\t".toList ++ "//".toList ++ [] ++ "a".toList ++ "\u2003".toList ++ directive) := by
      revert directive
      decide
    have outer : ∀ directive ∈ [good, bad],
        ∀ line ∈ (Text.lines (Text.unifyNewlines (text directive))).eraseIdx 1,
          Comment.body? "a".toList line = none := by decide
    refine ⟨⟨_, _, _, _, by decide, by decide, by decide, by decide, by decide, place⟩, ?_⟩
    intro m line rest other found marked
    have unread := outer directive member line (List.mem_eraseIdx_iff_getElem?.mpr ⟨m, other, found⟩)
    exact Comment.body?_eq_none_iff.mp unread ⟨rest, marked⟩
  have inGood : tree.find "s".toList = .file (Utf8.encode (text good)) := by decide
  have inBad : tree.find "t".toList = .file (Utf8.encode (text bad)) := by decide
  let bindings : List Binding := [⟨"a".toList, [{ location := .header }]⟩]
  have read : (Directive.parse good).outcome = .ok bindings := by decide
  have failed : (Directive.parse bad).outcome = .error (.invalidPair "//".toList) := by decide
  let parsed : Datum := .list (bindings.map Binding.toDatum)
  let entries : Datum := .list [.object [("line".toList, .int 2), ("bindings".toList, parsed)]]
  have agreeing (format : Format) :
      (alone good).Tells 0 (Format.json.render parsed ++ ['\n']) [] ∧
        (scan format "s".toList).Tells 0 (format.render entries ++ ['\n']) [] :=
    (scan_agrees_with_parse (.spelledOut none "a".toList format inGood) rfl
      (sole good (by decide))).1 bindings read
  obtain ⟨badAlone, badScan⟩ :=
    (scan_agrees_with_parse (.spelledOut none "a".toList .json inBad) rfl
      (sole bad (by decide))).2 _ failed
  refine ⟨sole, ?_, ?_, ?_, badAlone, badScan⟩
  · convert (agreeing .json).1 using 1
    decide +kernel
  · convert (agreeing .json).2 using 1
    decide +kernel
  · convert (agreeing .yaml).2 using 1
    decide +kernel

end CommandLine

end RequestBinding
