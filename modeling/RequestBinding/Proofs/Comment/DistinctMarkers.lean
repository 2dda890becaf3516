import RequestBinding.Proofs.Comment.Extraction

set_option autoImplicit false

namespace RequestBinding

namespace Comment

variable {marker marker' line rest rest' : Text}

theorem StandsApart.stop (apart : StandsApart rest) : ∀ c ∈ rest.head?, (!Text.isBlank c) = false := by
  intro c first
  rcases apart with rfl | blank
  · simp at first
  · cases rest with
    | nil => simp at first
    | cons d rest =>
      obtain rfl : d = c := Option.some.inj first
      simpa [Text.startsBlank] using blank

-- The gap ends where the marker starts, and the marker where the next blank stands.
theorem Marked.marker_unique (filled : marker ≠ []) (filled' : marker' ≠ []) (solid : marker.Solid)
    (solid' : marker'.Solid) (marked : Marked marker line rest)
    (again : Marked marker' line rest') : marker = marker' := by
  have shown {m : Text} (filled : m ≠ []) (solid : m.Solid) (t : Text) :
      ∀ c ∈ (m ++ t).head?, Text.isBlank c = false := by
    intro c first
    cases m with
    | nil => exact absurd rfl filled
    | cons d m =>
      obtain rfl : d = c := Option.some.inj first
      exact solid d (by simp)
  have visible {m : Text} (solid : m.Solid) : ∀ c ∈ m, (!Text.isBlank c) = true := by
    intro c member
    simp [solid c member]
  obtain ⟨gap, gap', blank, blank', behind⟩ := marked.behind_leader_eq again
  rw [List.append_assoc, List.append_assoc] at behind
  have words := Text.stop_cancel blank blank' (shown filled solid rest) (shown filled' solid' rest')
    behind
  obtain ⟨-, -, -, -, -, -, -, apart⟩ := marked
  obtain ⟨-, -, -, -, -, -, -, apart'⟩ := again
  exact (Text.stop_cancel (visible solid) (visible solid') apart.stop apart'.stop words.2).1

theorem line_ne_of_mem {text : Text} {a b : Comment} (distinct : marker ≠ marker')
    (filled : marker ≠ []) (filled' : marker' ≠ []) (solid : marker.Solid) (solid' : marker'.Solid)
    (member : a ∈ ofText marker text) (member' : b ∈ ofText marker' text) : a.line ≠ b.line := by
  obtain ⟨n, line, rest, place, marked, rfl⟩ := exists_marked_of_mem member
  obtain ⟨m, line', rest', place', marked', rfl⟩ := exists_marked_of_mem member'
  intro same
  have index : n = m := by
    simp only [Int.natCast_inj] at same
    omega
  rw [index, place', Option.some.injEq] at place
  rw [place] at marked'
  exact distinct (marked.marker_unique filled filled' solid solid' marked')

end Comment

namespace SourceFile

theorem comments_of_distinct_markers (file : SourceFile) {marker marker' : Text}
    (distinct : marker ≠ marker') (filled : marker ≠ []) (filled' : marker' ≠ [])
    (solid : marker.Solid) (solid' : marker'.Solid) :
    (∃ fault, (file.comments marker).outcome = .error fault ∧
        (file.comments marker').outcome = .error fault) ∨
      ∃ comments comments' : List Comment, (file.comments marker).outcome = .ok comments ∧
        (file.comments marker').outcome = .ok comments' ∧
        ∀ a ∈ comments, ∀ b ∈ comments', a.line ≠ b.line := by
  rw [outcome_comments, outcome_comments]
  cases Utf8.decode file.bytes with
  | error fault => exact .inl ⟨fault, rfl, rfl⟩
  | ok text =>
    refine .inr ⟨Comment.ofText marker text, Comment.ofText marker' text, rfl, rfl, ?_⟩
    intro a member b member'
    exact Comment.line_ne_of_mem distinct filled filled' solid solid' member member'

-- The longer marker takes a line whose leader would be found further on without it.
theorem comments_of_marker_like_leader :
    let text : Text := "///x a\n//x b\n# /x c".toList
    let file : SourceFile := ⟨"s.go".toList, Utf8.encode text⟩
    let found : List Comment := [⟨2, "b".toList⟩]
    let found' : List Comment := [⟨1, "a".toList⟩, ⟨3, "c".toList⟩]
    (file.comments "x".toList).outcome = .ok found ∧
      (file.comments "/x".toList).outcome = .ok found' ∧
      ∀ a ∈ found, ∀ b ∈ found', a.line ≠ b.line := by
  intro text file found found'
  have extracted : (file.comments "x".toList).outcome = .ok found :=
    comments_encode_eq_ok_iff.mpr (by decide)
  have extracted' : (file.comments "/x".toList).outcome = .ok found' :=
    comments_encode_eq_ok_iff.mpr (by decide)
  refine ⟨extracted, extracted', ?_⟩
  rcases comments_of_distinct_markers file (show "x".toList ≠ "/x".toList by decide) (by decide)
    (by decide) (by decide) (by decide) with ⟨fault, failed, -⟩ | ⟨cs, cs', is, is', apart⟩
  · exact nomatch extracted.symm.trans failed
  · obtain rfl := Except.ok.inj (extracted.symm.trans is)
    obtain rfl := Except.ok.inj (extracted'.symm.trans is')
    exact apart

end SourceFile

end RequestBinding
