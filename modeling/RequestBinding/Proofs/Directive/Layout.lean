import RequestBinding.Proofs.Directive.Segment
import RequestBinding.Proofs.Directive.Violations
import RequestBinding.Proofs.Text.Padding

set_option autoImplicit false

namespace RequestBinding

-- A part of a directive that is blank is a segment without a name.
def DirectiveError.asSegment : DirectiveError → DirectiveError
  | .emptyInput => .invalidDirective []
  | e => e

theorem DirectiveError.InSegment.asSegment_eq {e : DirectiveError} (inside : e.InSegment) :
    e.asSegment = e := by
  cases inside <;> rfl

namespace Directive

theorem mapM_ofSegment_eq (text : Text) :
    (text.splitOn ';').mapM Binding.ofSegment =
      (parse text).outcome.mapError DirectiveError.asSegment := by
  by_cases blank : text.strip = []
  · rw [mapM_ofSegment_of_blank blank, outcome_parse_of_blank blank]
    rfl
  · rw [outcome_parse blank]
    cases read : (text.splitOn ';').mapM Binding.ofSegment with
    | ok bindings => rfl
    | error e =>
      have failed : (parse text).outcome = .error e := (outcome_parse blank).trans read
      rcases emptyInput_or_inSegment failed with ⟨-, nothing⟩ | inside
      · exact absurd nothing blank
      · exact congrArg Except.error inside.asSegment_eq.symm

theorem visible_of_semicolon (a b : Text) : (a ++ ';' :: b).strip ≠ [] := by
  intro blank
  exact (Text.strip_eq_nil_iff.mp blank).not_mem (show Text.isBlank ';' = false from rfl) (by simp)

theorem parse_semicolon (a b : Text) :
    (parse (a ++ ';' :: b)).outcome = do
      let bindings ← (parse a).outcome.mapError DirectiveError.asSegment
      let more ← (parse b).outcome.mapError DirectiveError.asSegment
      return bindings ++ more := by
  rw [outcome_parse (visible_of_semicolon a b), List.splitOn_append_cons_self, List.mapM_append,
    mapM_ofSegment_eq, mapM_ofSegment_eq]

end Directive

open Text (Padded)

variable {text text' : Text}

-- A refused segment is shown with the blanks inside it.
def DirectiveError.blurred : DirectiveError → DirectiveError
  | .invalidDirective _ => .invalidDirective []
  | e => e

theorem DirectiveError.eq_or_of_blurred_eq {e e' : DirectiveError} (same : e'.blurred = e.blurred) :
    e' = e ∨ ∃ segment segment', e = .invalidDirective segment ∧ e' = .invalidDirective segment' := by
  cases e <;> cases e' <;> simp_all [blurred]

theorem Parameter.ofGroup_padded (argName : Text) (padded : Padded true text text')
    (noComma : ',' ∉ text) (noSemicolon : ';' ∉ text) :
    ofGroup argName text' = ofGroup argName text := by
  have onlyBlanks : ∀ c ∈ text, Text.isLoose c = true → Text.isBlank c = true := by
    intro c member isLoose
    have notComma : c ≠ ',' := fun same => noComma (same ▸ member)
    have notSemicolon : c ≠ ';' := fun same => noSemicolon (same ▸ member)
    simpa [Text.isLoose, notComma, notSemicolon] using isLoose
  rw [ofGroup, ofGroup, padded.words_eq onlyBlanks]

theorem Parameter.ofGroups_padded (argName : Text) (padded : Padded true text text')
    (noSemicolon : ';' ∉ text) : ofGroups argName text' = ofGroups argName text := by
  have pieces := padded.splitOn (show Text.isLoose ',' = true from rfl) rfl
  have plain : ∀ group ∈ text.splitOn ',', ',' ∉ group ∧ ';' ∉ group := by
    exact fun group member => ⟨Text.not_mem_of_mem_splitOn member,
      fun inside => noSemicolon (Text.mem_of_mem_splitOn member inside)⟩
  apply mapM_congr_of_forall₂
  have each := (List.forall₂_and_left _ _).mpr ⟨plain, pieces⟩
  exact each.imp fun group group' h => ofGroup_padded argName h.2 h.1.1 h.1.2

theorem Binding.ofSegment_padded (padded : Padded true text text') (oneSegment : ';' ∉ text) :
    (ofSegment text').mapError DirectiveError.blurred =
      (ofSegment text).mapError DirectiveError.blurred := by
  have body := padded.trim
  obtain ⟨names, behind⟩ := body.behindName
  rw [ofSegment, ofSegment]
  simp only [names, Parameter.ofGroups_strip, Text.strip_eq_nil_iff, behind.blank_iff,
    behind.newline_mem_iff]
  have plain : ';' ∉ text.strip.dropWhile Text.isNameChar := fun member =>
    oneSegment (Text.mem_of_mem_strip ((List.dropWhile_suffix _).subset member))
  rw [Parameter.ofGroups_padded _ behind plain]
  split
  · rfl
  · rfl

namespace Directive

theorem outcome_parse_padded (padded : Padded true text text') :
    (parse text').outcome.mapError DirectiveError.blurred =
      (parse text).outcome.mapError DirectiveError.blurred := by
  have sameBlank : text'.strip = [] ↔ text.strip = [] := by
    rw [Text.strip_eq_nil_iff, Text.strip_eq_nil_iff, padded.blank_iff]
  by_cases blank : text.strip = []
  · rw [outcome_parse_of_blank blank, outcome_parse_of_blank (sameBlank.mpr blank)]
  · rw [outcome_parse blank, outcome_parse (sameBlank.not.mpr blank), mapError_mapM, mapError_mapM]
    have segments := padded.splitOn (show Text.isLoose ';' = true from rfl) rfl
    have plain : ∀ segment ∈ text.splitOn ';', ';' ∉ segment :=
      fun _ member => Text.not_mem_of_mem_splitOn member
    apply mapM_congr_of_forall₂
    have each := (List.forall₂_and_left _ _).mpr ⟨plain, segments⟩
    exact each.imp fun segment segment' h => Binding.ofSegment_padded h.2 h.1

theorem parse_padded (padded : Padded true text text') :
    (∀ bindings, (parse text').outcome = .ok bindings ↔ (parse text).outcome = .ok bindings) ∧
      ∀ e, (parse text).outcome = .error e → ∃ e', (parse text').outcome = .error e' ∧
        (e' = e ∨
          ∃ segment segment', e = .invalidDirective segment ∧ e' = .invalidDirective segment') := by
  have same := outcome_parse_padded padded
  constructor
  · intro bindings
    rw [← mapError_eq_ok_iff (g := DirectiveError.blurred), same, mapError_eq_ok_iff]
  · intro e failed
    have viewed : (parse text').outcome.mapError DirectiveError.blurred = .error e.blurred := by
      rw [same, failed]
      rfl
    obtain ⟨e', failed', alike⟩ := mapError_eq_error_iff.mp viewed
    exact ⟨e', failed', DirectiveError.eq_or_of_blurred_eq alike⟩

theorem parse_padded_unusual_blanks :
    let text : Text := "a,;b".toList
    let text' : Text := "\ta ,\x1c; \x85b\x0b".toList
    Padded true text text' ∧
      (parse text').outcome = .ok [⟨"a".toList, [{}, {}]⟩, ⟨"b".toList, []⟩] := by
  intro text text'
  have spelled : text' = "\t".toList ++ 'a' :: (" ".toList ++ ',' :: ("\x1c".toList ++ ';' ::
      (" \x85".toList ++ 'b' :: "\x0b".toList))) := by decide
  have padded : Padded true text text' := by
    rw [spelled]
    refine .cons ⟨by decide, by decide⟩ (.inr (.inl rfl)) ?_
    refine .cons ⟨by decide, by decide⟩ (.inr (.inr rfl)) ?_
    refine .cons ⟨by decide, by decide⟩ (.inr (.inr rfl)) ?_
    refine .cons ⟨by decide, by decide⟩ (.inr (.inl rfl)) ?_
    exact .nil ⟨by decide, by decide⟩
  exact ⟨padded, ((parse_padded padded).1 _).mpr (by decide)⟩

end Directive

end RequestBinding
