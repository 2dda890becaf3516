import RequestBinding.Proofs.Comment.Extraction
import RequestBinding.Proofs.Text.Line

set_option autoImplicit false

namespace RequestBinding

namespace Text

-- What an editor counts: a newline, a carriage return, and the two together as one.
def lineEnds : Text → Nat
  | [] => 0
  | '\r' :: '\n' :: rest => lineEnds rest + 1
  | '\r' :: rest => lineEnds rest + 1
  | '\n' :: rest => lineEnds rest + 1
  | _ :: rest => lineEnds rest

-- A character that ends a line of `lines` but none that an editor counts.
def isSoftBreak (c : Char) : Bool :=
  isLineBreak c && c ≠ '\r' && c ≠ '\n'

theorem unifyNewlines_return {t : Text} (alone : t.head? ≠ some '\n') :
    unifyNewlines ('\r' :: t) = '\n' :: unifyNewlines t := by
  cases t with
  | nil => rfl
  | cons c t =>
    have kept : c ≠ '\n' := fun same => alone (by rw [same]; rfl)
    simp [unifyNewlines, unifyNewlinesFrom, kept]

theorem unifyNewlines_other {c : Char} (carriage : c ≠ '\r') (t : Text) :
    unifyNewlines (c :: t) = c :: unifyNewlines t := by
  simp [unifyNewlines, unifyNewlinesFrom, carriage]

theorem countP_unifyNewlines (t : Text) :
    (unifyNewlines t).countP isLineBreak = lineEnds t + t.countP isSoftBreak := by
  have newline : isLineBreak '\n' = true := by decide
  have hardReturn : ¬ isSoftBreak '\r' = true := by decide
  have hardNewline : ¬ isSoftBreak '\n' = true := by decide
  fun_induction lineEnds t with
  | case1 => rfl
  | case2 rest ih =>
    have joined : unifyNewlines ('\r' :: '\n' :: rest) = '\n' :: unifyNewlines rest := rfl
    rw [joined, List.countP_cons_of_pos newline, List.countP_cons_of_neg hardReturn,
      List.countP_cons_of_neg hardNewline, ih]
    omega
  | case3 rest alone ih =>
    have returned : unifyNewlines ('\r' :: rest) = '\n' :: unifyNewlines rest := by
      apply unifyNewlines_return
      intro first
      obtain ⟨more, same⟩ := List.head?_eq_some_iff.mp first
      exact alone more same
    rw [returned, List.countP_cons_of_pos newline, List.countP_cons_of_neg hardReturn, ih]
    omega
  | case4 rest ih =>
    rw [unifyNewlines_other (by decide), List.countP_cons_of_pos newline,
      List.countP_cons_of_neg hardNewline, ih]
    omega
  | case5 c rest _ notReturn notNewline ih =>
    have other : c ≠ '\r' ∧ c ≠ '\n' := ⟨notReturn, notNewline⟩
    have soft : isSoftBreak c = isLineBreak c := by simp [isSoftBreak, other]
    rw [unifyNewlines_other other.1, List.countP_cons, List.countP_cons, ih, soft, Nat.add_assoc]

end Text

namespace SourceFile

-- An editor shows that number only if no soft break stands ahead of the line.
theorem comments_line_number (path text marker : Text) :
    ∃ comments : List Comment,
      (SourceFile.comments ⟨path, Utf8.encode text⟩ marker).outcome = .ok comments ∧
      ∀ comment ∈ comments, ∃ ahead line behind rest : Text,
        text = ahead ++ line ++ behind ∧ Text.IsLine ahead line behind ∧
        Comment.Marked marker line rest ∧ comment.text = rest.strip ∧
        comment.line = Text.lineEnds ahead + ahead.countP Text.isSoftBreak + 1 ∧
        (comment.line = Text.lineEnds ahead + 1 ↔ ∀ c ∈ ahead, Text.isSoftBreak c = false) := by
  refine ⟨Comment.ofText marker text, outcome_comments_encode path text marker, ?_⟩
  intro comment member
  obtain ⟨n, line, body, place, read, rfl⟩ := Comment.mem_ofLinesFrom_iff.mp member
  obtain ⟨rest, marked, rfl⟩ := Comment.body?_eq_some_iff.mp read
  obtain ⟨ahead, behind, rfl, whole, count⟩ :=
    Text.exists_of_getElem?_lines_unifyNewlines marked.ne_nil place
  rw [Text.countP_unifyNewlines] at count
  have number : ((1 + n : Nat) : Int) =
      Text.lineEnds ahead + ahead.countP Text.isSoftBreak + 1 := by
    omega
  refine ⟨ahead, line, behind, rest, rfl, whole, marked, rfl, number, ?_⟩
  have same : ((1 + n : Nat) : Int) = Text.lineEnds ahead + 1 ↔
      ahead.countP Text.isSoftBreak = 0 := by
    omega
  rw [same, List.countP_eq_zero]
  simp

-- A carriage return and a newline are one line end, the form feed is a soft break.
theorem comment_line_number_behind_form_feed :
    let text : Text := "x\r\n\x0c\r# http:param a\n".toList
    ∃ ahead line behind rest : Text,
      text = ahead ++ line ++ behind ∧ Text.IsLine ahead line behind ∧
      Comment.Marked "http:param".toList line rest ∧ "a".toList = rest.strip ∧
      (4 : Int) = Text.lineEnds ahead + ahead.countP Text.isSoftBreak + 1 ∧
      ((4 : Int) = Text.lineEnds ahead + 1 ↔ ∀ c ∈ ahead, Text.isSoftBreak c = false) := by
  intro text
  obtain ⟨comments, extracted, stands⟩ :=
    comments_line_number "s.py".toList text "http:param".toList
  have only : comments = [⟨4, "a".toList⟩] := by
    rw [← comments_encode_eq_ok_iff.mp extracted]
    decide
  exact stands ⟨4, "a".toList⟩ (by simp [only])

-- The text has two lines in an editor, and its comment is reported at a third one.
theorem comment_line_beyond_text :
    let ahead : Text := "\x0c\n".toList
    let text : Text := ahead ++ "# http:param a".toList
    (comments ⟨"input.txt".toList, Utf8.encode text⟩ "http:param".toList).outcome =
        .ok [⟨3, "a".toList⟩] ∧
      Text.lineEnds ahead + 1 = 2 ∧ Text.lineEnds text + 1 = 2 := by
  refine ⟨comments_encode_eq_ok_iff.mpr ?_, ?_, ?_⟩ <;> decide

end SourceFile

namespace Comment

variable {marker : Text}

def movedDown (count : Nat) (comment : Comment) : Comment :=
  { comment with line := comment.line + count }

theorem ofLinesFrom_append (marker : Text) (first : Nat) (ls more : List Text) :
    ofLinesFrom marker first (ls ++ more) =
      ofLinesFrom marker first ls ++ ofLinesFrom marker (first + ls.length) more := by
  induction ls generalizing first with
  | nil => rfl
  | cons line ls ih =>
    rw [List.cons_append, ofLinesFrom_cons, ofLinesFrom_cons, ih, List.append_assoc,
      List.length_cons, Nat.add_assoc, Nat.add_comm 1]

theorem ofLinesFrom_add (marker : Text) (first count : Nat) (ls : List Text) :
    ofLinesFrom marker (first + count) ls =
      (ofLinesFrom marker first ls).map (movedDown count) := by
  induction ls generalizing first with
  | nil => rfl
  | cons line ls ih =>
    rw [ofLinesFrom_cons, ofLinesFrom_cons, List.map_append, ← ih, Nat.add_right_comm]
    cases body? marker line <;> simp [movedDown]

theorem ofLinesFrom_concat_nil (marker : Text) (first : Nat) (ls : List Text) :
    ofLinesFrom marker first (ls ++ [[]]) = ofLinesFrom marker first ls := by
  rw [ofLinesFrom_append]
  exact List.append_nil _

theorem ofText_concat_newline (marker s : Text) :
    ofText marker (s ++ ['\n']) = ofText marker s := by
  obtain ⟨u, whole, joined | separate⟩ := Text.unifyNewlines_concat_newline s
  · rw [ofText, ofText, whole, joined]
    rcases Text.lines_concat_newline u with ended | alone
    · rw [ended]
    · rw [alone, ofLinesFrom_concat_nil]
  · rw [ofText, ofText, whole, separate]

theorem ofText_append_newline (marker s t : Text) :
    ofText marker (s ++ '\n' :: t) = ofText marker s ++ (ofText marker t).map
      (movedDown (Text.lines (Text.unifyNewlines (s ++ ['\n']))).length) := by
  have cut : Text.lines (Text.unifyNewlines (s ++ '\n' :: t)) =
      Text.lines (Text.unifyNewlines (s ++ ['\n'])) ++ Text.lines (Text.unifyNewlines t) := by
    obtain ⟨u, whole, -⟩ := Text.unifyNewlines_concat_newline s
    rw [Text.unifyNewlines_append_newline, whole, List.append_assoc]
    exact Text.lines_append_break (by decide) u (Text.unifyNewlines t)
  rw [← ofText_concat_newline marker s, ofText, ofText, ofText, cut, ofLinesFrom_append,
    ofLinesFrom_add]

-- The newline of the seam completes a line end that is there already.
example : ofText "p".toList ("# p a\r".toList ++ '\n' :: "# p b".toList) =
    [⟨1, "a".toList⟩, ⟨2, "b".toList⟩] := by
  decide

end Comment

namespace SourceFile

theorem comments_of_joined_texts (path s t marker : Text) :
    ∃ first second : List Comment,
      (SourceFile.comments ⟨path, Utf8.encode s⟩ marker).outcome = .ok first ∧
      (SourceFile.comments ⟨path, Utf8.encode t⟩ marker).outcome = .ok second ∧
      (SourceFile.comments ⟨path, Utf8.encode (s ++ '\n' :: t)⟩ marker).outcome =
        .ok (first ++ second.map fun comment =>
          { comment with
            line := comment.line + (Text.lines (Text.unifyNewlines (s ++ ['\n']))).length }) := by
  refine ⟨Comment.ofText marker s, Comment.ofText marker t, outcome_comments_encode path s marker,
    outcome_comments_encode path t marker, ?_⟩
  rw [outcome_comments_encode, Comment.ofText_append_newline]
  rfl

end SourceFile

end RequestBinding
