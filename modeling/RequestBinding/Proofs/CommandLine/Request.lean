import RequestBinding.CommandLine.Program
import RequestBinding.Proofs.CommandLine.Accepted
import RequestBinding.Proofs.Datum.Controls
import RequestBinding.Proofs.Outcome

set_option autoImplicit false

namespace RequestBinding

namespace Datum

theorem mem_itemKeys {key : Text} {items : List Datum} (member : key ∈ itemKeys items) :
    ∃ item ∈ items, key ∈ item.keys := by
  induction items with
  | nil => simp [itemKeys] at member
  | cons item rest ih =>
    rw [itemKeys, List.mem_append] at member
    rcases member with here | later
    · exact ⟨item, by simp, here⟩
    · obtain ⟨other, present, inside⟩ := ih later
      exact ⟨other, List.mem_cons_of_mem _ present, inside⟩

theorem controlFree_keys_list {α : Type} {f : α → Datum} (xs : List α)
    (each : ∀ x ∈ xs, ∀ key ∈ (f x).keys, Text.ControlFree key) :
    ∀ key ∈ (Datum.list (xs.map f)).keys, Text.ControlFree key := by
  intro key member
  rw [keys] at member
  obtain ⟨item, present, inside⟩ := mem_itemKeys member
  obtain ⟨x, isElement, rfl⟩ := List.mem_map.mp present
  exact each x isElement key inside

end Datum

theorem Parameter.controlFree_keys (p : Parameter) :
    ∀ key ∈ p.toDatum.keys, Text.ControlFree key := by
  simp only [toDatum, Datum.keys, Datum.fieldKeys, List.nil_append, List.forall_mem_cons]
  decide

theorem Binding.controlFree_keys (b : Binding) :
    ∀ key ∈ b.toDatum.keys, Text.ControlFree key := by
  have options := Datum.controlFree_keys_list b.options fun p _ => p.controlFree_keys
  simp only [toDatum, Datum.keys, Datum.fieldKeys, List.nil_append, List.append_nil,
    List.forall_mem_cons] at options ⊢
  exact ⟨by decide, by decide, options⟩

theorem Finding.controlFree_keys (f : Finding) :
    ∀ key ∈ f.toDatum.keys, Text.ControlFree key := by
  have bindings := Datum.controlFree_keys_list f.bindings fun b _ => b.controlFree_keys
  simp only [toDatum, Datum.keys, Datum.fieldKeys, List.nil_append, List.append_nil,
    List.forall_mem_cons] at bindings ⊢
  exact ⟨by decide, by decide, bindings⟩

namespace CommandLine

theorem echo_of_controlFree {t : Text} (free : Text.ControlFree t) : echo t = t ++ ['\n'] := by
  rw [echo, Text.removeControl_of_controlFree free]

theorem echo_render_findings (format : Format) (found : List Finding) :
    echo (format.render (.list (found.map Finding.toDatum))) =
      format.render (.list (found.map Finding.toDatum)) ++ ['\n'] :=
  echo_of_controlFree <|
    format.controlFree_render _ <| Datum.controlFree_keys_list found fun f _ => f.controlFree_keys

theorem run_parse_yaml (tree : FileTree) (setting? : Option Text) (directive : Text) :
    run tree setting?
        ["parse".toList, "--format".toList, "yaml".toList, "--".toList, directive] =
      parseOutcome false .yaml directive := rfl

theorem stdout_parseOutcome {directive : Text} {bindings : List Binding}
    (accepted : (Directive.parse directive).outcome = .ok bindings) (verbose : Bool)
    (format : Format) :
    (parseOutcome verbose format directive).stdout =
      echo (format.render (.list (bindings.map Binding.toDatum))) := by
  simp [parseOutcome, Outcome.ofLogged, accepted]

structure ScanRun where
  tree : FileTree
  setting? : Option Text
  args : List Text
  program : Words
  words : Words
  rest : List Text
  path : Text
  format : Format
  bytes : List UInt8
  readProgram : Words.read Page.program.switches none args = .ok program
  noHelp : program.has .help = false
  command : program.arguments = "scan".toList :: rest
  readWords : Words.read Page.scan.switches none rest = .ok words
  noScanHelp : words.has .help = false
  formatIs : words.format = .ok format
  argument : words.arguments = [path]
  stored : tree.find path = .file bytes

namespace ScanRun

variable (scan : ScanRun)

def outcome : Outcome :=
  run scan.tree scan.setting? scan.args

def findings : Except SourceError (List Finding) :=
  (SourceFile.findings ⟨shownPath scan.path, scan.bytes⟩
    (scan.words.markerOr scan.setting?)).outcome

theorem asked :
    Asked scan.tree scan.setting? scan.args (scan.program.has .verbose)
      (.scan scan.format (scan.words.markerOr scan.setting?) ⟨shownPath scan.path, scan.bytes⟩) :=
  ⟨scan.program, "scan".toList, scan.rest, ⟨scan.readProgram, scan.noHelp, scan.command⟩, rfl,
    .scan ⟨scan.readWords, scan.noScanHelp, scan.formatIs, scan.argument⟩ scan.stored⟩

theorem outcome_eq :
    scan.outcome = scanOutcome (scan.program.has .verbose) (scan.words.markerOr scan.setting?)
      scan.format ⟨shownPath scan.path, scan.bytes⟩ :=
  scan.asked.run_eq

theorem stdout_of_success (success : scan.outcome.exit = 0) :
    ∃ found, scan.findings = .ok found ∧
      scan.outcome.stdout = echo (scan.format.render (.list (found.map Finding.toDatum))) := by
  simp only [findings, outcome_eq, scanOutcome, Outcome.ofLogged] at success ⊢
  split at success
  next found read => exact ⟨found, read, rfl⟩
  next e failed => cases e <;> simp [scanFailure, Outcome.failed] at success

def spelledOut {tree : FileTree} {path : Text} {bytes : List UInt8} (setting? : Option Text)
    (marker : Text) (format : Format) (stored : tree.find path = .file bytes) : ScanRun where
  tree := tree
  setting? := setting?
  args :=
    ["scan".toList, "--marker".toList, marker, "--format".toList, format.name, "--".toList, path]
  program := ⟨[], _⟩
  words := ⟨[(.marker, marker), (.format, format.name)], [path]⟩
  rest := _
  path := path
  format := format
  bytes := bytes
  readProgram := rfl
  noHelp := rfl
  command := rfl
  readWords := rfl
  noScanHelp := rfl
  formatIs := by cases format <;> rfl
  argument := rfl
  stored := stored

end ScanRun

end CommandLine

end RequestBinding
