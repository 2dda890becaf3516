import RequestBinding.Proofs.CommandLine.Scan
import RequestBinding.Proofs.Datum.YamlBlock
import RequestBinding.Proofs.Directive.WellFormed
import RequestBinding.Proofs.Schema.Stability

set_option autoImplicit false

namespace RequestBinding

open Datum

theorem Text.Inert.solid {t : Text} (inert : t.Inert) : t.Solid :=
  fun c member => (Text.isInert_iff.mp (inert c member)).1

theorem Datum.alike_list {α : Type} {write : α → Datum} {xs ys : List α}
    (each : ∀ x ∈ xs, ∀ y ∈ ys, Alike (write x) (write y)) :
    Alike (.list (xs.map write)) (.list (ys.map write)) := by
  have pairs : ∀ d ∈ xs.map write, ∀ e ∈ ys.map write, Alike d e := by
    simpa only [List.forall_mem_map] using each
  exact .list pairs

theorem Parameter.Canonical.alike {p q : Parameter} (canonical : p.Canonical)
    (canonical' : q.Canonical) : Alike p.toDatum q.toDatum :=
  .field (by decide) (.text p.location.inert_name.solid q.location.inert_name.solid) <|
    .field (by decide) (.text canonical.name.solid canonical'.name.solid) <|
      .field (by decide) (.bool p.required q.required) <|
        .field (by decide) (.text canonical.paramType.solid canonical'.paramType.solid) <|
          .field (by decide) (.text canonical.description.solid canonical'.description.solid)
            .noField

theorem Binding.Canonical.alike {b c : Binding} (canonical : b.Canonical)
    (canonical' : c.Canonical) : Alike b.toDatum c.toDatum := by
  have name {b : Binding} (canonical : b.Canonical) : b.argName.Solid :=
    Text.solid_of_nameChars canonical.nameChars
  have options : Alike (.list (b.options.map Parameter.toDatum))
      (.list (c.options.map Parameter.toDatum)) :=
    alike_list fun p member q member' =>
      (canonical.options p member).alike (canonical'.options q member')
  exact .field (by decide) (.text (name canonical) (name canonical')) <|
    .field (by decide) options .noField

theorem Directive.Canonical.alike {bs cs : List Binding} (canonical : Directive.Canonical bs)
    (canonical' : Directive.Canonical cs) :
    Alike (.list (bs.map Binding.toDatum)) (.list (cs.map Binding.toDatum)) :=
  alike_list fun b member c member' =>
    (canonical.bindings b member).alike (canonical'.bindings c member')

theorem Finding.alike {f g : Finding} (canonical : Directive.Canonical f.bindings)
    (canonical' : Directive.Canonical g.bindings) : Alike f.toDatum g.toDatum :=
  .field (by decide) (.int f.line g.line) <|
    .field (by decide) (canonical.alike canonical') .noField

theorem SourceFile.canonical_of_findings {file : SourceFile} {marker : Text} {found : List Finding}
    (read : (file.findings marker).outcome = .ok found) :
    ∀ entry ∈ found, Directive.Canonical entry.bindings := by
  obtain ⟨comments, -, entries⟩ := findings_eq_ok read
  intro entry member
  obtain ⟨comment, -, here⟩ := exists_of_mem_right (mapM_eq_ok_iff.mp entries) member
  exact Directive.canonical_of_parse (finding_eq_ok_iff.mp here).2

namespace CommandLine

-- As if neither the end had been stripped nor any control sequence been looked for.
structure Outcome.ShowsYaml (outcome : Outcome) (d : Datum) : Prop where
  stdout : outcome.stdout = echo (Text.stripEnd d.yamlDocument)
  kept : echo (Text.stripEnd d.yamlDocument) = d.yamlDocument

theorem Outcome.showsYaml {outcome : Outcome} {d : Datum} (alike : Alike d d)
    (keys : ∀ key ∈ d.keys, Text.ControlFree key)
    (echoed : outcome.stdout = echo (Format.yaml.render d)) : outcome.ShowsYaml d := by
  have stripped := alike.stripEnd_yamlDocument
  constructor
  · rw [echoed, stripped]
  · rw [stripped, echo_of_controlFree (Format.yaml.controlFree_render d keys)]
    rfl

theorem Outcome.ShowsYaml.unique {outcome outcome' : Outcome} {d e : Datum} (alike : Alike d e)
    (shown : outcome.ShowsYaml d) (shown' : outcome'.ShowsYaml e)
    (same : outcome.stdout = outcome'.stdout) : d = e := by
  have documents : d.yamlDocument = e.yamlDocument := by
    rw [← shown.kept, ← shown.stdout, same, shown'.stdout, shown'.kept]
  exact alike.render_injective (List.append_cancel_right documents)

theorem showsYaml_of_parse (tree : FileTree) (setting? : Option Text) {directive : Text}
    {bindings : List Binding} (accepted : (Directive.parse directive).outcome = .ok bindings) :
    (run tree setting?
      ["parse".toList, "--format".toList, "yaml".toList, "--".toList, directive]).ShowsYaml
        (.list (bindings.map Binding.toDatum)) := by
  have canonical := Directive.canonical_of_parse accepted
  refine Outcome.showsYaml (canonical.alike canonical) ?_ ?_
  · exact controlFree_keys_list bindings fun b _ => b.controlFree_keys
  · rw [run_parse_yaml]
    exact stdout_parseOutcome accepted false .yaml

theorem ScanRun.alike_findings {scan scan' : ScanRun} {found found' : List Finding}
    (read : scan.findings = .ok found) (read' : scan'.findings = .ok found') :
    Alike (.list (found.map Finding.toDatum)) (.list (found'.map Finding.toDatum)) :=
  alike_list fun entry member entry' member' =>
    Finding.alike (SourceFile.canonical_of_findings read entry member)
      (SourceFile.canonical_of_findings read' entry' member')

theorem ScanRun.showsYaml {scan : ScanRun} (inYaml : scan.format = .yaml)
    (success : scan.outcome.exit = 0) :
    ∃ found, scan.findings = .ok found ∧
      scan.outcome.ShowsYaml (.list (found.map Finding.toDatum)) := by
  obtain ⟨found, read, echoed⟩ := scan.stdout_of_success success
  rw [inYaml] at echoed
  refine ⟨found, read, Outcome.showsYaml (alike_findings read read) ?_ echoed⟩
  exact controlFree_keys_list found fun entry _ => entry.controlFree_keys

theorem yaml_output_loses_nothing :
    (∀ (tree tree' : FileTree) (setting? setting?' : Option Text) (directive directive' : Text)
      (bindings bindings' : List Binding),
      (Directive.parse directive).outcome = .ok bindings →
        (Directive.parse directive').outcome = .ok bindings' →
        let outcome := run tree setting?
          ["parse".toList, "--format".toList, "yaml".toList, "--".toList, directive]
        let outcome' := run tree' setting?'
          ["parse".toList, "--format".toList, "yaml".toList, "--".toList, directive']
        outcome.ShowsYaml (.list (bindings.map Binding.toDatum)) ∧
          (outcome.stdout = outcome'.stdout → bindings = bindings')) ∧
      ∀ scan scan' : ScanRun, scan.format = .yaml → scan'.format = .yaml →
        scan.outcome.exit = 0 → scan'.outcome.exit = 0 →
        ∃ found found', scan.findings = .ok found ∧ scan'.findings = .ok found' ∧
          scan.outcome.ShowsYaml (.list (found.map Finding.toDatum)) ∧
          (scan.outcome.stdout = scan'.outcome.stdout → found = found') := by
  constructor
  · intro tree tree' setting? setting?' directive directive' bindings bindings' accepted accepted'
    have shown := showsYaml_of_parse tree setting? accepted
    have shown' := showsYaml_of_parse tree' setting?' accepted'
    have alike :=
      (Directive.canonical_of_parse accepted).alike (Directive.canonical_of_parse accepted')
    refine ⟨shown, fun same => ?_⟩
    exact Binding.toDatum_injective.list_map (Datum.list.inj (shown.unique alike shown' same))
  · intro scan scan' inYaml inYaml' success success'
    obtain ⟨found, read, shown⟩ := ScanRun.showsYaml inYaml success
    obtain ⟨found', read', shown'⟩ := ScanRun.showsYaml inYaml' success'
    have alike := ScanRun.alike_findings read read'
    refine ⟨found, found', read, read', shown, fun same => ?_⟩
    exact Finding.toDatum_injective.list_map (Datum.list.inj (shown.unique alike shown' same))

theorem yaml_output_of_overwritten_name :
    let directive : Text := "a name=\x1b[31m".toList
    let directive' : Text := "a name=x name=\x1b[31m".toList
    let bindings : List Binding := [⟨"a".toList, [{ name := "\x1b[31m".toList }]⟩]
    let tree : FileTree := .ofPaths
      [("s".toList, some (Utf8.encode ("# ~ ".toList ++ directive))),
        ("t".toList, some (Utf8.encode ("//~ ".toList ++ directive')))]
    (run tree none
      ["parse".toList, "--format".toList, "yaml".toList, "--".toList, directive]).ShowsYaml
        (.list (bindings.map Binding.toDatum)) ∧
      ∃ scan scan' : ScanRun, scan.tree = tree ∧ scan.path = "s".toList ∧
        scan'.tree = tree ∧ scan'.path = "t".toList ∧
        scan.outcome.stdout = scan'.outcome.stdout ∧
        ∃ found, scan.findings = .ok found ∧ scan'.findings = .ok found := by
  intro directive directive' bindings tree
  obtain ⟨parsed, scanned⟩ := yaml_output_loses_nothing
  have accepted : (Directive.parse directive).outcome = .ok bindings := by decide
  have accepted' : (Directive.parse directive').outcome = .ok bindings := by decide
  obtain ⟨shown, -⟩ := parsed tree tree none none directive directive' _ _ accepted accepted'
  have stored : tree.find "s".toList = .file (Utf8.encode ("# ~ ".toList ++ directive)) := by decide
  have stored' : tree.find "t".toList = .file (Utf8.encode ("//~ ".toList ++ directive')) := by
    decide
  let scan := ScanRun.spelledOut none "~".toList .yaml stored
  let scan' := ScanRun.spelledOut none "~".toList .yaml stored'
  have one : scan.findings = .ok [⟨1, bindings⟩] := rfl
  have one' : scan'.findings = .ok [⟨1, bindings⟩] := rfl
  have same : scan.outcome.stdout = scan'.outcome.stdout := by
    obtain ⟨found, read, echoed⟩ := scan.stdout_of_success rfl
    obtain ⟨found', read', echoed'⟩ := scan'.stdout_of_success rfl
    rw [echoed, echoed', Except.ok.inj (read.symm.trans one), Except.ok.inj (read'.symm.trans one')]
    rfl
  obtain ⟨found, found', read, read', -, told⟩ := scanned scan scan' rfl rfl rfl rfl
  exact ⟨shown, scan, scan', rfl, rfl, rfl, rfl, same, found, read, told same ▸ read'⟩

end CommandLine

end RequestBinding
