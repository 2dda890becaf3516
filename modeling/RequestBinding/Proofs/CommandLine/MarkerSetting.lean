import RequestBinding.Proofs.CommandLine.Scan

set_option autoImplicit false

namespace RequestBinding.CommandLine

namespace Words

variable (marker : Text) (w : Words)

def addMarker : Words :=
  w.addSwitches [(.marker, marker)]

@[simp] theorem arguments_addMarker : (w.addMarker marker).arguments = w.arguments := rfl

@[simp] theorem has_help_addMarker : (w.addMarker marker).has .help = w.has .help := rfl

-- The last of several values counts, so one in front of the others gives way to them.
theorem value?_addMarker (s : Switch) :
    (w.addMarker marker).value? s = (w.value? s).or (if s = .marker then some marker else none) := by
  simp only [addMarker, addSwitches, value?, List.reverse_append, List.find?_append, Option.map_or]
  by_cases isMarker : s = .marker
  · simp [isMarker]
  · simp [isMarker, Ne.symm isMarker]

@[simp] theorem format_addMarker : (w.addMarker marker).format = w.format := by
  simp [format, value?_addMarker]

theorem markerOr_addMarker {marker : Text} (filled : marker ≠ []) (setting? : Option Text) :
    (w.addMarker marker).markerOr setting? = w.markerOr (some marker) := by
  have kept : (some marker).filter (!·.isEmpty) = some marker := by simp [Option.filter, filled]
  rw [markerOr, markerOr, value?_addMarker, kept]
  cases w.value? .marker <;> rfl

end Words

theorem scanPlan_marker (verbose : Bool) (setting? : Option Text) {marker : Text}
    (filled : marker ≠ []) (args : List Text) :
    scanPlan verbose setting? ("--marker".toList :: marker :: args) =
      scanPlan verbose (some marker) args := by
  -- The marker is the value of its switch, whatever it looks like.
  have read : Words.read Page.scan.switches none ("--marker".toList :: marker :: args) =
      (Words.read Page.scan.switches none args).map (Words.addMarker marker) := rfl
  rw [scanPlan, scanPlan, commandPlan, commandPlan, read]
  cases Words.read Page.scan.switches none args with
  | error fault => rfl
  | ok words =>
    simp only [Except.map, Words.has_help_addMarker, Words.format_addMarker,
      Words.arguments_addMarker, Words.markerOr_addMarker words filled]

-- The other words may be refused, or name another marker.
theorem scan_marker_or_setting (tree : FileTree) (setting? : Option Text) {marker : Text}
    (filled : marker ≠ []) (rest : List Text) :
    run tree setting? ("scan".toList :: "--marker".toList :: marker :: rest) =
      run tree (some marker) ("scan".toList :: rest) := by
  have option : plan setting? ("scan".toList :: "--marker".toList :: marker :: rest) =
      scanPlan false setting? ("--marker".toList :: marker :: rest) := rfl
  have setting : plan (some marker) ("scan".toList :: rest) = scanPlan false (some marker) rest :=
    rfl
  rw [run, run, option, setting, scanPlan_marker false setting? filled]

-- The marker looks like a terminator, and gives way to an empty one behind it.
theorem scan_marker_like_terminator :
    let marker : Text := "--".toList
    let file : SourceFile := ⟨"s".toList, Utf8.encode "#-- a\n# =".toList⟩
    let tree : FileTree := .ofPaths [(file.path, some file.bytes)]
    let optional (rest : List Text) : Outcome :=
      run tree (some "b".toList) ("scan".toList :: "--marker".toList :: marker :: rest)
    let set (rest : List Text) : Outcome := run tree (some marker) ("scan".toList :: rest)
    marker ≠ [] ∧ optional [file.path] = set [file.path] ∧
      optional [file.path, "--marker".toList, []] = set [file.path, "--marker".toList, []] ∧
      (set [file.path]).Tells 0
        (Format.json.render (.list [Finding.toDatum ⟨1, [⟨"a".toList, []⟩]⟩]) ++ ['\n']) [] ∧
      (set [file.path, "--marker".toList, []]).exit = 1 := by
  intro marker file tree optional set
  have filled : marker ≠ [] := by decide
  have same (rest : List Text) : optional rest = set rest :=
    scan_marker_or_setting tree (some "b".toList) filled rest
  have found : (file.findings marker).outcome = .ok [⟨1, [⟨"a".toList, []⟩]⟩] := by decide
  have scanned : set [file.path] = scanOutcome false marker .json file := rfl
  refine ⟨filled, same _, same _, ?_, ?_⟩
  · rw [scanned]
    exact tells_scanOutcome_of_ok found false .json
  · rfl

end RequestBinding.CommandLine
