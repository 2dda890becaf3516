import RequestBinding.Proofs.Comment.Extraction
import RequestBinding.Proofs.Text.Utf8Fault

set_option autoImplicit false

namespace RequestBinding

namespace SourceFile

theorem comments_fail_exactly_on_ill_formed (file : SourceFile) (marker : Text) :
    ((∃ fault, (file.comments marker).outcome = .error fault) ↔
        ¬ Utf8.WellFormed file.bytes) ∧
      (∀ fault, (file.comments marker).outcome = .error fault →
        Utf8.WellFormed (file.bytes.take fault.start) ∧
          fault.Tells (file.bytes.drop fault.start) ∧
          (file.comments marker).log = [file.scanRecord marker]) ∧
      ∀ text, file.bytes = Utf8.encode text →
        (file.comments marker).outcome = .ok (Comment.ofText marker text) ∧
          (file.comments marker).log =
            file.scanRecord marker :: (Comment.ofText marker text).map file.commentRecord := by
  refine ⟨?_, ?_, ?_⟩
  · simp only [comments_eq_error_iff, Utf8.exists_decode_eq_error_iff, Utf8.wellFormed_iff,
      not_exists, ne_eq]
  · intro fault failed
    obtain ⟨ahead, rest, whole, wellFormed, start, tells⟩ :=
      Utf8.faultFrom_of_decode (comments_eq_error_iff.mp failed)
    rw [Nat.zero_add] at start
    refine ⟨?_, ?_, ?_⟩
    · rwa [whole, start, List.take_left]
    · rwa [whole, start, List.drop_left]
    · rw [log_comments, failed]
  · intro text written
    have found : (file.comments marker).outcome = .ok (Comment.ofText marker text) := by
      rw [outcome_comments, written, Utf8.decode_encode]
      rfl
    exact ⟨found, by rw [log_comments, found]⟩

-- Three bytes of a sequence of four are followed by a newline, behind a directive in good order.
theorem comments_fail_behind_directive :
    let marker : Text := "http:param".toList
    let bytes : List UInt8 := Utf8.encode "# http:param a\n".toList ++ [0xF0, 0x9F, 0x98, 0x0A]
    let file : SourceFile := ⟨"s.py".toList, bytes⟩
    let fault : Utf8.Fault := ⟨15, 3, 0xF0, .invalidContinuation⟩
    let text : Text := "# http:param \u00e9".toList
    ¬ Utf8.WellFormed bytes ∧ (file.comments marker).outcome = .error fault ∧
      Utf8.WellFormed (bytes.take 15) ∧ fault.Tells [0xF0, 0x9F, 0x98, 0x0A] ∧
      (file.comments marker).log = [file.scanRecord marker] ∧
      (comments ⟨"s.py".toList, Utf8.encode text⟩ marker).outcome = .ok [⟨1, "\u00e9".toList⟩] := by
  intro marker bytes file fault text
  obtain ⟨fails, told, -⟩ := comments_fail_exactly_on_ill_formed file marker
  have failed : (file.comments marker).outcome = .error fault :=
    comments_eq_error_iff.mpr (by decide)
  obtain ⟨ahead, tells, log⟩ := told fault failed
  obtain ⟨-, -, reads⟩ :=
    comments_fail_exactly_on_ill_formed ⟨"s.py".toList, Utf8.encode text⟩ marker
  refine ⟨fails.mp ⟨fault, failed⟩, failed, ahead, tells, log, ?_⟩
  rw [(reads text rfl).1]
  decide

end SourceFile

namespace Text

variable {ending t : Text}

def lineEndings : List Text :=
  [['\n'], ['\r', '\n'], ['\r']]

def withLineEnding (ending t : Text) : Text :=
  t.flatMap fun c => if c = '\n' then ending else [c]

theorem withLineEnding_cons_newline (ending t : Text) :
    withLineEnding ending ('\n' :: t) = ending ++ withLineEnding ending t := by
  simp [withLineEnding]

theorem withLineEnding_cons {c : Char} (kept : c ≠ '\n') (ending t : Text) :
    withLineEnding ending (c :: t) = c :: withLineEnding ending t := by
  simp [withLineEnding, kept]

-- With carriage returns alone no newline is left that could be taken for a part of the one before.
theorem unifyNewlinesFrom_withLineEnding (known : ending ∈ lineEndings) (plain : '\r' ∉ t)
    (returned : Bool) (settled : returned = true → ending = ['\r']) :
    unifyNewlinesFrom returned (withLineEnding ending t) = t := by
  induction t generalizing returned with
  | nil => rfl
  | cons c t ih =>
    rw [List.mem_cons, not_or] at plain
    have rest := ih plain.2
    by_cases newline : c = '\n'
    · rw [newline, withLineEnding_cons_newline]
      simp only [lineEndings, List.mem_cons, List.not_mem_nil, or_false] at known
      rcases known with rfl | rfl | rfl
      · have fresh : returned = false := by simpa using settled
        simp [unifyNewlinesFrom, fresh, rest]
      · simp [unifyNewlinesFrom, rest]
      · simp [unifyNewlinesFrom, rest]
    · rw [withLineEnding_cons newline]
      simp [unifyNewlinesFrom, newline, Ne.symm plain.1, rest]

theorem unifyNewlines_withLineEnding (known : ending ∈ lineEndings) (plain : '\r' ∉ t) :
    unifyNewlines (withLineEnding ending t) = t :=
  unifyNewlinesFrom_withLineEnding known plain false (by simp)

theorem withLineEnding_newline (t : Text) : withLineEnding ['\n'] t = t := by
  have kept : (fun c : Char => if c = '\n' then ['\n'] else [c]) = fun c => [c] := by
    funext c
    split <;> simp [*]
  rw [withLineEnding, kept, List.flatMap_singleton']

end Text

namespace SourceFile

theorem comments_of_unifyNewlines {s t : Text} (path marker : Text)
    (same : Text.unifyNewlines s = Text.unifyNewlines t) :
    comments ⟨path, Utf8.encode s⟩ marker = comments ⟨path, Utf8.encode t⟩ marker := by
  have found : Comment.ofText marker s = Comment.ofText marker t := by
    rw [Comment.ofText, Comment.ofText, same]
  simp only [comments, Utf8.decode_encode, Logged.map, Logged.ofExcept, Except.map, found]
  rfl

theorem comments_of_line_endings (path text marker : Text) (plain : '\r' ∉ text) :
    let onText := comments ⟨path, Utf8.encode text⟩ marker
    (∃ found, onText.outcome = .ok found) ∧
      ∀ ending ∈ Text.lineEndings,
        comments ⟨path, Utf8.encode (Text.withLineEnding ending text)⟩ marker = onText := by
  intro onText
  constructor
  · exact ⟨_, outcome_comments_encode path text marker⟩
  · intro ending known
    have newline : ['\n'] ∈ Text.lineEndings := by decide
    have unchanged : text.unifyNewlines = text := by
      have unified := Text.unifyNewlines_withLineEnding newline plain
      rwa [Text.withLineEnding_newline] at unified
    apply comments_of_unifyNewlines
    rw [Text.unifyNewlines_withLineEnding known plain, unchanged]

-- Two line ends in a row, soft breaks on both sides of a line end, and none behind the last line.
theorem comments_of_line_endings_and_soft_breaks :
    let text : Text := "\x0c\n\n# p a\x0b// p b\u2028\n#p".toList
    let found : List Comment := [⟨4, "a".toList⟩, ⟨5, "b".toList⟩, ⟨7, []⟩]
    let scan (content : Text) := comments ⟨"s.go".toList, Utf8.encode content⟩ "p".toList
    '\r' ∉ text ∧ (scan text).outcome = .ok found ∧ (scan text).log.length = 4 ∧
      scan "\x0c\r\n\r\n# p a\x0b// p b\u2028\r\n#p".toList = scan text ∧
      scan "\x0c\r\r# p a\x0b// p b\u2028\r#p".toList = scan text := by
  intro text found scan
  have plain : '\r' ∉ text := by decide
  have onText : (scan text).outcome = .ok found :=
    comments_encode_eq_ok_iff.mpr (by decide)
  have records : (scan text).log.length = 4 := by
    rw [log_comments, onText]
    rfl
  have pairs : Text.withLineEnding ['\r', '\n'] text =
      "\x0c\r\n\r\n# p a\x0b// p b\u2028\r\n#p".toList := by decide
  have returns : Text.withLineEnding ['\r'] text =
      "\x0c\r\r# p a\x0b// p b\u2028\r#p".toList := by decide
  obtain ⟨-, same⟩ := comments_of_line_endings "s.go".toList text "p".toList plain
  refine ⟨plain, onText, records, ?_, ?_⟩
  · rw [← pairs]
    exact same ['\r', '\n'] (by decide)
  · rw [← returns]
    exact same ['\r'] (by decide)

end SourceFile

end RequestBinding
