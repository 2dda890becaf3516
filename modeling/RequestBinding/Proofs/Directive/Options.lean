import RequestBinding.Proofs.Directive.Segment

set_option autoImplicit false

namespace RequestBinding

variable {name behind text : Text}

theorem Parameter.ofGroups_between {before after : Text} (argName text : Text)
    (blankBefore : Text.Blank before) (blankAfter : Text.Blank after) :
    ofGroups argName (before ++ text ++ after) = ofGroups argName text := by
  rw [← ofGroups_strip, Text.strip_between text blankBefore blankAfter, ofGroups_strip]

-- The name ends where the text behind it starts, and that text may be glued to it.
theorem segmentParts_append (named : name ≠ [])
    (nameChars : ∀ c ∈ name, Text.isNameChar c = true)
    (stop : ∀ c ∈ behind.head?, Text.isNameChar c = false) (oneLine : '\n' ∉ behind.stripEnd) :
    SegmentParts (name ++ behind) name behind.stripEnd := by
  obtain ⟨after, blank, whole, last⟩ := Text.exists_stripEnd behind
  have around : name ++ behind = [] ++ name ++ behind.stripEnd ++ after := by
    rw [List.nil_append, List.append_assoc, ← whole]
  have first : ∀ c ∈ behind.stripEnd.head?, Text.isNameChar c = false := by
    intro c found
    apply stop c
    rw [whole, List.head?_append, Option.mem_def.mp found]
    rfl
  exact ⟨⟨[], after, Text.blank_nil, blank, around⟩, named, nameChars, oneLine, first, last⟩

theorem Binding.ofSegment_append (named : name ≠ [])
    (nameChars : ∀ c ∈ name, Text.isNameChar c = true)
    (stop : ∀ c ∈ behind.head?, Text.isNameChar c = false) (visible : ¬ Text.Blank behind)
    (oneLine : '\n' ∉ behind.stripEnd) :
    ofSegment (name ++ behind) = (Parameter.ofGroups name behind).map (Binding.mk name) := by
  obtain ⟨after, blank, whole, -⟩ := Text.exists_stripEnd behind
  have filled : behind.stripEnd ≠ [] := by
    intro nothing
    rw [nothing, List.nil_append] at whole
    exact visible (whole ▸ blank)
  have sameGroups :
      Parameter.ofGroups name behind.stripEnd = Parameter.ofGroups name behind := by
    have padded := Parameter.ofGroups_between name behind.stripEnd Text.blank_nil blank
    rw [List.nil_append, ← whole] at padded
    exact padded.symm
  rw [ofSegment_of_parts (segmentParts_append named nameChars stop oneLine), if_neg filled,
    sameGroups]

namespace Directive

theorem outcome_parse_segment (visible : ¬ Text.Blank text) (oneSegment : ';' ∉ text) :
    (parse text).outcome = (Binding.ofSegment text).map fun b => [b] := by
  have shown : text.strip ≠ [] := fun nothing => visible (Text.strip_eq_nil_iff.mp nothing)
  rw [outcome_parse shown, List.splitOn_eq_singleton oneSegment]
  cases read : Binding.ofSegment text with
  | error e => exact mapM_cons_error [] read
  | ok b => exact mapM_cons_ok read

theorem outcome_parse_append (named : name ≠ [])
    (nameChars : ∀ c ∈ name, Text.isNameChar c = true)
    (stop : ∀ c ∈ behind.head?, Text.isNameChar c = false) (visible : ¬ Text.Blank behind)
    (oneSegment : ';' ∉ behind) (oneLine : '\n' ∉ behind.stripEnd) :
    (parse (name ++ behind)).outcome =
      (Parameter.ofGroups name behind).map fun options => [⟨name, options⟩] := by
  have noSemicolon : ';' ∉ name ++ behind := by
    rw [List.mem_append, not_or]
    exact ⟨fun member => absurd (nameChars _ member) (by decide), oneSegment⟩
  have shown : ¬ Text.Blank (name ++ behind) := by
    rw [Text.blank_append]
    exact fun both => visible both.2
  rw [outcome_parse_segment shown noSemicolon,
    Binding.ofSegment_append named nameChars stop visible oneLine]
  cases Parameter.ofGroups name behind <;> rfl

theorem parse_name_options (named : name ≠ [])
    (nameChars : ∀ c ∈ name, Text.isNameChar c = true) (visible : ¬ Text.Blank text)
    (oneSegment : ';' ∉ text) :
    (∀ gap : Text, Text.Blank gap → gap ≠ [] → '\n' ∉ gap ++ text.stripEnd →
      (parse (name ++ gap ++ text)).outcome =
        (Parameter.ofGroups name text).map fun options => [⟨name, options⟩]) ∧
    ((∀ c ∈ text.head?, Text.isNameChar c = false ∧ Text.isBlank c = false) →
      '\n' ∉ text.stripEnd →
      (parse (name ++ text)).outcome =
        (Parameter.ofGroups name text).map fun options => [⟨name, options⟩]) := by
  constructor
  · intro gap blank filled oneLine
    have sameGroups : Parameter.ofGroups name (gap ++ text) = Parameter.ofGroups name text := by
      simpa using Parameter.ofGroups_between name text blank Text.blank_nil
    have stop : ∀ c ∈ (gap ++ text).head?, Text.isNameChar c = false := by
      obtain ⟨d, rest, rfl⟩ := List.exists_cons_of_ne_nil filled
      intro c found
      obtain rfl : d = c := by simpa using found
      exact Text.isNameChar_eq_false_of_isBlank (blank d (by simp))
    have shown : ¬ Text.Blank (gap ++ text) := by simp [blank, visible]
    have noSemicolon : ';' ∉ gap ++ text := by
      simp [blank.not_mem (show Text.isBlank ';' = false from rfl), oneSegment]
    rw [← sameGroups, List.append_assoc]
    apply outcome_parse_append named nameChars stop shown noSemicolon
    rwa [Text.stripEnd_append visible]
  · intro first oneLine
    exact outcome_parse_append named nameChars (fun c found => (first c found).1) visible oneSegment
      oneLine

-- The first group is empty, and a newline behind the last one does no harm.
theorem parse_name_options_glued :
    let name : Text := "id".toList
    let text : Text := ",in=path \n".toList
    let read : List Binding := [⟨name, [{}, { location := .path, required := true }]⟩]
    '\n' ∈ text ∧ '\n' ∉ text.stripEnd ∧
      (parse (name ++ "\u2003".toList ++ text)).outcome = .ok read ∧
      (parse (name ++ text)).outcome = .ok read ∧
      (parse (name ++ "-k=1".toList)).outcome =
        .error (.unknownOption "-k".toList "-k=1".toList) := by
  intro name text read
  have named : name ≠ [] := by decide
  have nameChars : ∀ c ∈ name, Text.isNameChar c = true :=
    List.all_eq_true.mp (show name.all Text.isNameChar = true from rfl)
  obtain ⟨apart, glued⟩ :=
    parse_name_options named nameChars (show ¬ text.Blank by decide) (by decide)
  obtain ⟨-, wrong⟩ :=
    parse_name_options named nameChars (show ¬ Text.Blank "-k=1".toList by decide) (by decide)
  have options : Parameter.ofGroups name text =
      .ok [{}, { location := .path, required := true }] := by decide
  have refused : Parameter.ofGroups name "-k=1".toList =
      .error (.unknownOption "-k".toList "-k=1".toList) := by decide
  have comma : ∀ c ∈ text.head?, Text.isNameChar c = false ∧ Text.isBlank c = false := by
    intro c found
    obtain rfl : ',' = c := Option.some.inj found
    exact ⟨rfl, rfl⟩
  have dash : ∀ c ∈ "-k=1".toList.head?, Text.isNameChar c = false ∧ Text.isBlank c = false := by
    intro c found
    obtain rfl : '-' = c := Option.some.inj found
    exact ⟨rfl, rfl⟩
  refine ⟨by decide, by decide, ?_, ?_, ?_⟩
  · rw [apart "\u2003".toList (by decide) (by decide) (by decide), options]
    rfl
  · rw [glued comma (by decide), options]
    rfl
  · rw [wrong dash (by decide), refused]
    rfl

end Directive

end RequestBinding
