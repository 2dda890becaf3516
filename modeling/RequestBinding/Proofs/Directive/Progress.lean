import RequestBinding.Proofs.Directive.Segment

set_option autoImplicit false

namespace RequestBinding.Directive

variable {text segment : Text} {b : Binding} {bindings : List Binding} {e : DirectiveError}

def readSegment (segment : Text) : Logged DirectiveError Binding :=
  (Logged.ofExcept (Binding.ofSegment segment)).noting fun b => [b.record]

theorem readSegment_ok (read : Binding.ofSegment segment = .ok b) :
    readSegment segment = ⟨[b.record], .ok b⟩ := by
  rw [readSegment, read]
  rfl

theorem readSegment_error (failed : Binding.ofSegment segment = .error e) :
    readSegment segment = ⟨[], .error e⟩ := by
  rw [readSegment, failed]
  rfl

theorem parse_eq (visible : text.strip ≠ []) :
    parse text = (Logged.each readSegment (text.strip.splitOn ';')).noting fun bindings =>
      [parsedRecord text.strip bindings.length] :=
  if_neg visible

theorem parse_of_all_read (visible : text.strip ≠ [])
    (read : List.Forall₂ (fun segment b => Binding.ofSegment segment = .ok b)
      (text.strip.splitOn ';') bindings) :
    parse text =
      ⟨bindings.map Binding.record ++ [parsedRecord text.strip bindings.length],
        .ok bindings⟩ := by
  have run := Logged.each_of_all_done (read.imp fun _ _ => readSegment_ok)
  rw [parse_eq visible, run, List.map_eq_flatMap]
  rfl

theorem parse_of_failure {before after : List Text} (visible : text.strip ≠ [])
    (segments : text.strip.splitOn ';' = before ++ segment :: after)
    (read : List.Forall₂ (fun segment b => Binding.ofSegment segment = .ok b) before bindings)
    (failed : Binding.ofSegment segment = .error e) :
    parse text = ⟨bindings.map Binding.record, .error e⟩ := by
  have run := Logged.each_of_failure (read.imp fun _ _ => readSegment_ok)
    (readSegment_error failed) after
  rw [parse_eq visible, segments, run, List.map_eq_flatMap]
  rfl

theorem splitOn_strip_of_not_mem (single : ';' ∉ segment) :
    segment.strip.splitOn ';' = [segment.strip] :=
  List.splitOn_eq_singleton fun member => single (Text.mem_of_mem_strip member)

theorem ofSegment_strip (segment : Text) :
    Binding.ofSegment segment.strip = Binding.ofSegment segment := by
  rw [Binding.ofSegment, Binding.ofSegment, Text.strip_strip]

theorem parse_of_segment_read (single : ';' ∉ segment)
    (read : Binding.ofSegment segment = .ok b) :
    parse segment = ⟨[b.record, parsedRecord segment.strip 1], .ok [b]⟩ := by
  have visible : segment.strip ≠ [] := by
    intro blank
    rw [Binding.ofSegment_of_blank blank] at read
    exact nomatch read
  have readAlone : List.Forall₂ (fun segment b => Binding.ofSegment segment = .ok b)
      (segment.strip.splitOn ';') [b] := by
    rw [splitOn_strip_of_not_mem single]
    exact .cons ((ofSegment_strip segment).trans read) .nil
  exact parse_of_all_read visible readAlone

-- A blank segment fails alone too, as a directive that is empty.
theorem exists_error_of_segment (single : ';' ∉ segment)
    (failed : Binding.ofSegment segment = .error e) :
    ∃ d, (parse segment).outcome = .error d := by
  by_cases blank : segment.strip = []
  · exact ⟨_, outcome_parse_of_blank blank⟩
  · have alone : segment.strip.splitOn ';' = [] ++ segment.strip :: [] :=
      splitOn_strip_of_not_mem single
    have run := parse_of_failure blank alone .nil ((ofSegment_strip segment).trans failed)
    exact ⟨e, by rw [run]⟩

theorem parse_log_exact (text : Text) :
    (∀ bindings, (parse text).outcome = .ok bindings →
      (parse text).log =
        bindings.map Binding.record ++ [parsedRecord text.strip bindings.length]) ∧
    ∀ e, (parse text).outcome = .error e →
      ∃ (before : List Text) (failing : Text) (after : List Text) (bindings : List Binding),
        text.strip.splitOn ';' = before ++ failing :: after ∧
        List.Forall₂
          (fun segment b => parse segment = ⟨[b.record, parsedRecord segment.strip 1], .ok [b]⟩)
          before bindings ∧
        (∃ d, (parse failing).outcome = .error d) ∧
        (parse text).log = bindings.map Binding.record := by
  by_cases blank : text.strip = []
  · have refused : parse text = .fail .emptyInput := if_pos blank
    rw [refused, blank]
    constructor
    · exact fun _ done => nomatch done
    · exact fun _ _ => ⟨[], [], [], [], rfl, .nil, ⟨.emptyInput, rfl⟩, rfl⟩
  · have outcome : (parse text).outcome = (text.strip.splitOn ';').mapM Binding.ofSegment := by
      rw [← parse_strip, outcome_parse (by rwa [Text.strip_strip])]
    rw [outcome]
    constructor
    · intro bindings done
      rw [parse_of_all_read blank (mapM_eq_ok_iff.mp done)]
    · intro e failed
      obtain ⟨before, failing, after, segments, done, here⟩ := mapM_eq_error_iff.mp failed
      have single : ∀ segment ∈ before ++ failing :: after, ';' ∉ segment := by
        rw [← segments]
        exact fun _ present => Text.not_mem_of_mem_splitOn present
      have parts : ∀ segment ∈ before, ∃ b, ';' ∉ segment ∧ Binding.ofSegment segment = .ok b := by
        intro segment member
        obtain ⟨b, read⟩ := done segment member
        exact ⟨b, single segment (by simp [member]), read⟩
      obtain ⟨bindings, read⟩ := exists_forall₂ parts
      refine ⟨before, failing, after, bindings, segments, ?_, ?_, ?_⟩
      · exact read.imp fun _ _ part => parse_of_segment_read part.1 part.2
      · exact exists_error_of_segment (single failing (by simp)) here
      · rw [parse_of_failure blank segments (read.imp fun _ _ part => part.2) here]

-- The first group of the failing segment is read before the second is refused.
theorem parse_log_exact_up_to_failure :
    let whole : Text := "b;c in=path,\t".toList
    let read : List Binding :=
      [⟨"b".toList, []⟩, ⟨"c".toList, [{ location := .path, required := true }, {}]⟩]
    let broken : Text := " b;c in=path, k;d".toList
    (parse whole).outcome = .ok read ∧
      (parse whole).log = read.map Binding.record ++ [parsedRecord whole.strip 2] ∧
      (parse whole).log.map Record.message =
        ["Binding b: 0 option group(s)".toList, "Binding c: 2 option group(s)".toList,
          "Parsed 2 binding(s) from 'b;c in=path,'".toList] ∧
      (parse broken).outcome = .error (.invalidPair "k".toList) ∧
      (parse broken).log.map Record.message = ["Binding b: 0 option group(s)".toList] ∧
      ∃ (before : List Text) (failing : Text) (after : List Text) (bindings : List Binding),
        broken.strip.splitOn ';' = before ++ failing :: after ∧
        List.Forall₂
          (fun segment b => parse segment = ⟨[b.record, parsedRecord segment.strip 1], .ok [b]⟩)
          before bindings ∧
        (∃ d, (parse failing).outcome = .error d) ∧
        (parse broken).log = bindings.map Binding.record := by
  intro whole read broken
  have done : (parse whole).outcome = .ok read := by decide
  have failed : (parse broken).outcome = .error (.invalidPair "k".toList) := by decide
  exact ⟨done, (parse_log_exact whole).1 read done, by decide +kernel, failed, rfl,
    (parse_log_exact broken).2 _ failed⟩

end RequestBinding.Directive
