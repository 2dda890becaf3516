import RequestBinding.Directive
import RequestBinding.Proofs.Directive.Group
import RequestBinding.Proofs.Text.Split

set_option autoImplicit false

namespace RequestBinding

structure SegmentParts (segment name rest : Text) : Prop where
  around : ∃ before after, Text.Blank before ∧ Text.Blank after ∧
    segment = before ++ name ++ rest ++ after
  named : name ≠ []
  nameChars : ∀ c ∈ name, Text.isNameChar c = true
  oneLine : '\n' ∉ rest
  first : ∀ c ∈ rest.head?, Text.isNameChar c = false
  last : ∀ c ∈ rest.getLast?, Text.isBlank c = false

theorem Parameter.ofGroups_strip (argName text : Text) :
    ofGroups argName text.strip = ofGroups argName text :=
  Text.mapM_splitOn_strip (ofGroup_between argName) rfl text

theorem Binding.ofSegment_between {before after : Text} (segment : Text)
    (blankBefore : Text.Blank before) (blankAfter : Text.Blank after) :
    ofSegment (before ++ segment ++ after) = ofSegment segment := by
  rw [ofSegment, ofSegment, Text.strip_between segment blankBefore blankAfter]

theorem SegmentParts.trimmed {segment name rest : Text} (parts : SegmentParts segment name rest) :
    Text.Trimmed (name ++ rest) := by
  constructor
  · intro c found
    obtain ⟨head, tail, rfl⟩ := List.exists_cons_of_ne_nil parts.named
    obtain rfl : head = c := by simpa using found
    exact Text.isBlank_eq_false_of_isNameChar (parts.nameChars head (by simp))
  · intro c found
    cases final : rest.getLast? with
    | none =>
      rw [List.getLast?_append, final] at found
      exact Text.isBlank_eq_false_of_isNameChar
        (parts.nameChars c (List.mem_of_mem_getLast? found))
    | some d =>
      rw [List.getLast?_append, final] at found
      obtain rfl : d = c := by simpa using found
      exact parts.last d final

theorem SegmentParts.strip_eq {segment name rest : Text} (parts : SegmentParts segment name rest) :
    segment.strip = name ++ rest := by
  obtain ⟨before, after, blankBefore, blankAfter, rfl⟩ := parts.around
  rw [List.append_assoc before]
  exact Text.strip_blank_append blankBefore blankAfter parts.trimmed

theorem SegmentParts.takeWhile_eq {segment name rest : Text}
    (parts : SegmentParts segment name rest) :
    (name ++ rest).takeWhile Text.isNameChar = name :=
  Text.takeWhile_append_stop parts.nameChars parts.first

theorem SegmentParts.dropWhile_eq {segment name rest : Text}
    (parts : SegmentParts segment name rest) :
    (name ++ rest).dropWhile Text.isNameChar = rest :=
  Text.dropWhile_append_stop parts.nameChars parts.first

theorem SegmentParts.strip_rest_eq_nil_iff {segment name rest : Text}
    (parts : SegmentParts segment name rest) : rest.strip = [] ↔ rest = [] := by
  constructor
  · intro nothing
    by_contra filled
    obtain ⟨c, final⟩ := Option.ne_none_iff_exists'.mp (List.getLast?_eq_none_iff.not.mpr filled)
    have blank := Text.strip_eq_nil_iff.mp nothing c (List.mem_of_mem_getLast? final)
    simp [parts.last c final] at blank
  · rintro rfl
    rfl

theorem Binding.ofSegment_of_parts {segment name rest : Text}
    (parts : SegmentParts segment name rest) :
    ofSegment segment =
      if rest = [] then .ok { argName := name }
      else (Parameter.ofGroups name rest).map (Binding.mk name) := by
  rw [ofSegment]
  simp only [parts.strip_eq, parts.takeWhile_eq, parts.dropWhile_eq, parts.named, parts.oneLine,
    parts.strip_rest_eq_nil_iff, Parameter.ofGroups_strip, or_self, if_false]

theorem segmentParts_of_strip {segment : Text}
    (named : segment.strip.takeWhile Text.isNameChar ≠ [])
    (oneLine : '\n' ∉ segment.strip.dropWhile Text.isNameChar) :
    SegmentParts segment (segment.strip.takeWhile Text.isNameChar)
      (segment.strip.dropWhile Text.isNameChar) := by
  have body : segment.strip.takeWhile Text.isNameChar ++ segment.strip.dropWhile Text.isNameChar =
      segment.strip := List.takeWhile_append_dropWhile
  refine ⟨?_, named, ?_, oneLine, Text.head?_dropWhile, ?_⟩
  · obtain ⟨before, after, blankBefore, blankAfter, whole, -⟩ := Text.exists_strip segment
    refine ⟨before, after, blankBefore, blankAfter, ?_⟩
    rw [List.append_assoc before, body]
    exact whole
  · exact fun c member => List.all_eq_true.mp List.all_takeWhile c member
  · intro c final
    apply (Text.trimmed_strip segment).last c
    rw [← body, List.getLast?_append, Option.mem_def.mp final]
    rfl

theorem Binding.ofSegment_of_no_parts {segment : Text}
    (broken : ¬ ∃ name rest, SegmentParts segment name rest) :
    ofSegment segment = .error (.invalidDirective segment.strip) := by
  have refused : segment.strip.takeWhile Text.isNameChar = [] ∨
      '\n' ∈ segment.strip.dropWhile Text.isNameChar := by
    by_contra fine
    rw [not_or] at fine
    exact broken ⟨_, _, segmentParts_of_strip fine.1 fine.2⟩
  rw [ofSegment]
  exact if_pos refused

theorem Binding.ofSegment_of_blank {segment : Text} (blank : segment.strip = []) :
    ofSegment segment = .error (.invalidDirective []) := by
  simp [ofSegment, blank]

theorem Directive.outcome_parse_of_blank {text : Text} (blank : text.strip = []) :
    (parse text).outcome = .error .emptyInput := by
  simp [parse, blank]

theorem Directive.parse_strip (text : Text) : parse text.strip = parse text := by
  simp only [parse, Text.strip_strip]

theorem Directive.outcome_parse {text : Text} (visible : text.strip ≠ []) :
    (parse text).outcome = (text.splitOn ';').mapM Binding.ofSegment := by
  simp only [parse, visible, if_false, Logged.outcome_noting, Logged.outcome_each,
    Logged.outcome_ofExcept]
  exact Text.mapM_splitOn_strip Binding.ofSegment_between rfl text

theorem Directive.mapM_ofSegment_of_blank {text : Text} (blank : text.strip = []) :
    (text.splitOn ';').mapM Binding.ofSegment = .error (.invalidDirective []) := by
  have single : text.splitOn ';' = [text] :=
    List.splitOn_eq_singleton ((Text.strip_eq_nil_iff.mp blank).not_mem rfl)
  rw [single]
  exact mapM_cons_error [] (Binding.ofSegment_of_blank blank)

theorem Directive.outcome_parse_eq_ok_iff {text : Text} {bindings : List Binding} :
    (parse text).outcome = .ok bindings ↔
      (text.splitOn ';').mapM Binding.ofSegment = .ok bindings := by
  by_cases blank : text.strip = []
  · rw [outcome_parse_of_blank blank, mapM_ofSegment_of_blank blank]
    constructor
    · exact fun same => nomatch same
    · exact fun same => nomatch same
  · rw [outcome_parse blank]

end RequestBinding
