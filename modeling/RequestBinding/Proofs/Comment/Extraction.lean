import Mathlib.Data.List.Pairwise
import RequestBinding.Comment
import RequestBinding.Proofs.Comment.MarkedLine
import RequestBinding.Proofs.Outcome
import RequestBinding.Proofs.Text.Utf8

set_option autoImplicit false

namespace RequestBinding

namespace Comment

variable {marker : Text}

theorem ofLinesFrom_cons (marker : Text) (first : Nat) (line : Text) (rest : List Text) :
    ofLinesFrom marker first (line :: rest) =
      ((body? marker line).map (Comment.mk first)).toList ++
        ofLinesFrom marker (first + 1) rest := by
  rw [ofLinesFrom]
  cases body? marker line <;> rfl

theorem mem_ofLinesFrom_iff {first : Nat} {lines : List Text} {comment : Comment} :
    comment ∈ ofLinesFrom marker first lines ↔
      ∃ n line text, lines[n]? = some line ∧ body? marker line = some text ∧
        comment = ⟨(first + n : Nat), text⟩ := by
  induction lines generalizing first with
  | nil => simp [ofLinesFrom]
  | cons line rest ih =>
    rw [ofLinesFrom_cons, List.mem_append, Option.mem_toList, Option.map_eq_some_iff, ih]
    constructor
    · intro member
      rcases member with here | later
      · obtain ⟨text, read, rfl⟩ := here
        exact ⟨0, line, text, rfl, read, rfl⟩
      · obtain ⟨n, other, text, place, read, rfl⟩ := later
        exact ⟨n + 1, other, text, place, read, by simp [Nat.add_assoc, Nat.add_comm 1]⟩
    · intro found
      obtain ⟨n, other, text, place, read, rfl⟩ := found
      cases n with
      | zero =>
        obtain rfl := Option.some.inj place
        exact .inl ⟨text, read, rfl⟩
      | succ n => exact .inr ⟨n, other, text, place, read, by simp [Nat.add_assoc, Nat.add_comm 1]⟩

theorem le_line_of_mem {first : Nat} {lines : List Text} {comment : Comment}
    (member : comment ∈ ofLinesFrom marker first lines) : (first : Int) ≤ comment.line := by
  obtain ⟨n, line, text, -, -, rfl⟩ := mem_ofLinesFrom_iff.mp member
  simp only
  omega

theorem exists_marked_of_mem {text : Text} {comment : Comment} (member : comment ∈ ofText marker text) :
    ∃ n line rest, (Text.lines (Text.unifyNewlines text))[n]? = some line ∧
      Marked marker line rest ∧ comment = ⟨(1 + n : Nat), rest.strip⟩ := by
  obtain ⟨n, line, body, place, read, rfl⟩ := mem_ofLinesFrom_iff.mp member
  obtain ⟨rest, marked, rfl⟩ := body?_eq_some_iff.mp read
  exact ⟨n, line, rest, place, marked, rfl⟩

theorem pairwise_ofLinesFrom (marker : Text) (first : Nat) (lines : List Text) :
    (ofLinesFrom marker first lines).Pairwise fun a b => a.line < b.line := by
  induction lines generalizing first with
  | nil => exact .nil
  | cons line rest ih =>
    have later : ∀ comment ∈ ofLinesFrom marker (first + 1) rest, (first : Int) < comment.line := by
      intro comment member
      have bound := le_line_of_mem member
      omega
    rw [ofLinesFrom_cons]
    cases body? marker line with
    | none => exact ih (first + 1)
    | some text => exact .cons later (ih (first + 1))

end Comment

namespace SourceFile

theorem outcome_comments (file : SourceFile) (marker : Text) :
    (file.comments marker).outcome = (Utf8.decode file.bytes).map (Comment.ofText marker) := by
  simp [comments]

theorem outcome_comments_encode (path text marker : Text) :
    (comments ⟨path, Utf8.encode text⟩ marker).outcome = .ok (Comment.ofText marker text) := by
  rw [outcome_comments, Utf8.decode_encode]
  rfl

theorem comments_encode_eq_ok_iff {path text marker : Text} {found : List Comment} :
    (comments ⟨path, Utf8.encode text⟩ marker).outcome = .ok found ↔
      Comment.ofText marker text = found := by
  rw [outcome_comments_encode, Except.ok.injEq]

theorem log_comments (file : SourceFile) (marker : Text) :
    (file.comments marker).log = file.scanRecord marker ::
      match (file.comments marker).outcome with
      | .error _ => []
      | .ok comments => comments.map file.commentRecord := by
  cases decoded : Utf8.decode file.bytes with
  | error fault => simp [comments, Logged.noting, Logged.andThen, decoded, Except.map]
  | ok text => simp [comments, Logged.noting, Logged.andThen, decoded, Except.map]

theorem exists_ofText_of_comments_eq_ok {file : SourceFile} {marker : Text}
    {comments : List Comment} (extracted : (file.comments marker).outcome = .ok comments) :
    ∃ text, comments = Comment.ofText marker text := by
  rw [outcome_comments] at extracted
  cases decoded : Utf8.decode file.bytes with
  | error fault => simp [decoded, Except.map] at extracted
  | ok text => exact ⟨text, by simpa [decoded, Except.map, eq_comm] using extracted⟩

theorem comments_eq_error_iff {file : SourceFile} {marker : Text} {fault : Utf8.Fault} :
    (file.comments marker).outcome = .error fault ↔ Utf8.decode file.bytes = .error fault := by
  rw [outcome_comments, map_eq_error_iff]

theorem comments_exactly_marked_lines (path text marker : Text) :
    ∃ comments : List Comment,
      (SourceFile.comments ⟨path, Utf8.encode text⟩ marker).outcome = .ok comments ∧
      comments.Pairwise (fun earlier later => earlier.line < later.line) ∧
      (∀ comment : Comment, comment ∈ comments ↔
        ∃ (n : Nat) (line rest : Text), (Text.lines (Text.unifyNewlines text))[n]? = some line ∧
          Comment.Marked marker line rest ∧ comment.line = n + 1 ∧ comment.text = rest.strip) ∧
      (∀ line rest other : Text, Comment.Marked marker line rest →
        Comment.Marked marker line other → rest.strip = other.strip) := by
  refine ⟨Comment.ofText marker text, outcome_comments_encode path text marker,
    Comment.pairwise_ofLinesFrom marker 1 _, ?_, fun _ _ _ marked again => marked.strip_eq again⟩
  intro comment
  rw [Comment.ofText, Comment.mem_ofLinesFrom_iff]
  constructor
  · intro found
    obtain ⟨n, line, body, place, read, rfl⟩ := found
    obtain ⟨rest, marked, rfl⟩ := Comment.body?_eq_some_iff.mp read
    exact ⟨n, line, rest, place, marked, by simp [Int.add_comm], rfl⟩
  · intro written
    obtain ⟨n, line, rest, place, marked, number, body⟩ := written
    refine ⟨n, line, rest.strip, place, Comment.body?_eq_some_iff.mpr ⟨rest, marked, rfl⟩, ?_⟩
    obtain ⟨lineNumber, commentText⟩ := comment
    simp only at number body
    simp [number, body, Int.add_comm]

-- A marker that is a blank itself is found at two places of the line, with one text.
theorem comments_of_blank_marker :
    let line : Text := "\t//   a in=path ".toList
    Comment.Marked " ".toList line "  a in=path ".toList ∧
      Comment.Marked " ".toList line " a in=path ".toList ∧
      Text.strip "  a in=path ".toList = Text.strip " a in=path ".toList ∧
      ∃ comments : List Comment,
        (SourceFile.comments ⟨"s.go".toList, Utf8.encode ("x\r\n".toList ++ line)⟩
          " ".toList).outcome = .ok comments ∧
        ⟨2, "a in=path".toList⟩ ∈ comments := by
  intro line
  have early : Comment.Marked " ".toList line "  a in=path ".toList :=
    ⟨"\t".toList, "//".toList, [], by decide, by decide, by decide, by decide, by decide⟩
  have late : Comment.Marked " ".toList line " a in=path ".toList :=
    ⟨"\t".toList, "//".toList, " ".toList, by decide, by decide, by decide, by decide, by decide⟩
  obtain ⟨found, extracted, -, members, unique⟩ :=
    comments_exactly_marked_lines "s.go".toList ("x\r\n".toList ++ line) " ".toList
  refine ⟨early, late, unique line _ _ early late, found, extracted, (members _).mpr ?_⟩
  exact ⟨1, line, _, by decide, early, rfl, by decide⟩

end SourceFile

end RequestBinding
