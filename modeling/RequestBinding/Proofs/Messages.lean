import RequestBinding.Proofs.Comment.Extraction
import RequestBinding.Proofs.Directive.Violations
import RequestBinding.Proofs.Directive.WellFormed
import RequestBinding.Proofs.Text.Line

set_option autoImplicit false

namespace RequestBinding

open Text (unbroken_quoted)

theorem Text.unbroken_decimal (n : Int) : (decimal n).Unbroken :=
  (solid_decimal n).unbroken

namespace DirectiveError

theorem InSegment.unbroken_message {e : DirectiveError} (inside : e.InSegment) :
    e.message.Unbroken := by
  unfold message
  cases inside with
  | invalidDirective segment =>
    simp only [Text.unbroken_append, unbroken_quoted, and_true]
    decide
  | invalidPair token =>
    simp only [Text.unbroken_append, token.unbroken, and_true]
    decide
  | unknownOption key token =>
    simp only [Text.unbroken_append, unbroken_quoted, token.unbroken, and_true]
    decide
  | invalidLocation value =>
    simp only [Text.unbroken_append, value.unbroken, and_true]
    decide
  | unsupportedRequestField argName field =>
    simp only [Text.unbroken_append, argName.unbroken, field.unbroken, and_true]
    decide

end DirectiveError

namespace Directive

variable {text : Text}

theorem unbroken_message {e : DirectiveError} (failed : (parse text).outcome = .error e) :
    e.message.Unbroken := by
  rcases emptyInput_or_inSegment failed with ⟨rfl, -⟩ | inside
  · decide
  · exact inside.unbroken_message

theorem unbroken_record {r : Record} (member : r ∈ (parse text).log) : r.message.Unbroken := by
  unfold parse at member
  simp only at member
  split at member
  · simp at member
  · rcases Logged.mem_log_noting.mp member with ofSegment | ofAll
    · obtain ⟨segment, present, inside⟩ := Logged.exists_of_mem_log_each ofSegment
      rcases Logged.mem_log_noting.mp inside with nothing | noted
      · simp at nothing
      · obtain ⟨b, read, same⟩ := noted
        obtain rfl := List.mem_singleton.mp same
        have plain : ';' ∉ segment := Text.not_mem_of_mem_splitOn present
        have canonical := (Binding.inSegment_iff.mpr ⟨plain, read⟩).canonical
        have named := (Text.solid_of_nameChars canonical.nameChars).unbroken
        simp only [Binding.record, Text.unbroken_append, named, Text.unbroken_decimal, and_true]
        decide
    · obtain ⟨bindings, -, same⟩ := ofAll
      obtain rfl := List.mem_singleton.mp same
      simp only [parsedRecord, Text.unbroken_append, unbroken_quoted, Text.unbroken_decimal,
        and_true]
      decide

end Directive

namespace Comment

theorem Marked.unbroken_rest {marker line rest : Text} (marked : Marked marker line rest)
    (unbroken : line.Unbroken) : rest.Unbroken := by
  obtain ⟨before, leader, gap, -, -, -, rfl, -⟩ := marked
  exact (Text.unbroken_append.mp unbroken).2

theorem unbroken_text {marker text : Text} {comment : Comment}
    (member : comment ∈ ofText marker text) : comment.text.Unbroken := by
  obtain ⟨n, line, rest, place, marked, rfl⟩ := exists_marked_of_mem member
  have unbroken := Text.unbroken_of_mem_lines (List.mem_of_getElem? place)
  exact (marked.unbroken_rest unbroken).of_subset fun _ inside => Text.mem_of_mem_strip inside

end Comment

namespace SourceFile

variable {file : SourceFile} {marker : Text} {r : Record}

theorem unbroken_comments_record (path : file.path.Unbroken)
    (member : r ∈ (file.comments marker).log) : r.message.Unbroken := by
  rw [log_comments] at member
  rcases List.mem_cons.mp member with rfl | noted
  · simp only [scanRecord, Text.unbroken_append, path, unbroken_quoted, and_true]
    decide
  · cases extracted : (file.comments marker).outcome with
    | error fault => simp [extracted] at noted
    | ok comments =>
      obtain ⟨text, rfl⟩ := exists_ofText_of_comments_eq_ok extracted
      simp only [extracted] at noted
      obtain ⟨comment, present, rfl⟩ := List.mem_map.mp noted
      simp only [commentRecord, Text.unbroken_append, Text.unbroken_cons, path,
        Text.unbroken_decimal, Comment.unbroken_text present, and_true]
      decide

theorem unbroken_findings_record (path : file.path.Unbroken)
    (member : r ∈ (file.findings marker).log) : r.message.Unbroken := by
  rw [findings, Logged.mem_log_andThen, Logged.log_mapError] at member
  rcases member with ofComments | ofFindings
  · exact unbroken_comments_record path ofComments
  · obtain ⟨comments, -, inEach⟩ := ofFindings
    obtain ⟨comment, -, ofDirective⟩ := Logged.exists_of_mem_log_each inEach
    rw [finding, Logged.log_map, Logged.log_mapError] at ofDirective
    exact Directive.unbroken_record ofDirective

end SourceFile

end RequestBinding
