import RequestBinding.Proofs.Text.Unbroken

set_option autoImplicit false

namespace RequestBinding.Text

section Newlines

variable {returned : Bool} {t u v : Text}

-- Whether a newline behind the text would end no line of its own.
def endsReturned (returned : Bool) : Text → Bool
  | [] => returned
  | c :: rest => endsReturned (c = '\r') rest

theorem endsReturned_concat (returned : Bool) (t : Text) (c : Char) :
    endsReturned returned (t ++ [c]) = decide (c = '\r') := by
  induction t generalizing returned with
  | nil => rfl
  | cons d t ih => exact ih (d = '\r')

theorem unifyNewlinesFrom_append (returned : Bool) (s t : Text) :
    unifyNewlinesFrom returned (s ++ t) =
      unifyNewlinesFrom returned s ++ unifyNewlinesFrom (endsReturned returned s) t := by
  induction s generalizing returned with
  | nil => rfl
  | cons c s ih =>
    rw [List.cons_append, unifyNewlinesFrom, unifyNewlinesFrom, endsReturned, ih, ih]
    split_ifs with carriage <;> simp [carriage]

theorem unifyNewlines_append_newline (s t : Text) :
    unifyNewlines (s ++ '\n' :: t) = unifyNewlines (s ++ ['\n']) ++ unifyNewlines t := by
  rw [List.append_cons, unifyNewlines, unifyNewlinesFrom_append, endsReturned_concat]
  rfl

-- A newline behind a carriage return belongs to it, and any other is a break of its own.
theorem unifyNewlines_concat_newline (t : Text) :
    ∃ u, unifyNewlines (t ++ ['\n']) = u ++ ['\n'] ∧
      (unifyNewlines t = u ∨ unifyNewlines t = u ++ ['\n']) := by
  rcases t.eq_nil_or_concat' with rfl | ⟨s, c, rfl⟩
  · exact ⟨[], rfl, .inl rfl⟩
  · by_cases carriage : c = '\r'
    · subst carriage
      have before : unifyNewlines (s ++ ['\r']) = unifyNewlines s ++ ['\n'] :=
        unifyNewlinesFrom_append false s ['\r']
      refine ⟨unifyNewlines s, ?_, .inr before⟩
      rw [← before, unifyNewlines, unifyNewlinesFrom_append, endsReturned_concat]
      exact List.append_nil _
    · refine ⟨unifyNewlines (s ++ [c]), ?_, .inl rfl⟩
      rw [unifyNewlines, unifyNewlinesFrom_append, endsReturned_concat]
      simp [carriage, unifyNewlinesFrom, unifyNewlines]

theorem exists_of_unifyNewlinesFrom_eq {c : Char} (shown : c ≠ '\n')
    (whole : unifyNewlinesFrom returned t = u ++ c :: v) :
    ∃ before behind, t = before ++ c :: behind ∧ unifyNewlinesFrom returned before = u ∧
      unifyNewlines behind = v := by
  induction t generalizing returned u with
  | nil => simp [unifyNewlinesFrom] at whole
  | cons d t ih =>
    rw [unifyNewlinesFrom] at whole
    split_ifs at whole with carriage joined
    · cases u with
      | nil => exact absurd (List.cons.inj whole).1.symm shown
      | cons x u =>
        obtain ⟨rfl, rest⟩ := List.cons.inj whole
        obtain ⟨before, behind, rfl, same, later⟩ := ih rest
        exact ⟨d :: before, behind, rfl, by simp [unifyNewlinesFrom, carriage, same], later⟩
    · obtain ⟨before, behind, rfl, same, later⟩ := ih whole
      exact ⟨d :: before, behind, rfl, by simp [unifyNewlinesFrom, carriage, joined, same], later⟩
    · cases u with
      | nil =>
        obtain ⟨rfl, rest⟩ := List.cons.inj whole
        exact ⟨[], t, rfl, rfl, rest⟩
      | cons x u =>
        obtain ⟨rfl, rest⟩ := List.cons.inj whole
        obtain ⟨before, behind, rfl, same, later⟩ := ih rest
        refine ⟨d :: before, behind, rfl, ?_, later⟩
        rw [unifyNewlinesFrom, if_neg carriage, if_neg joined, same]

theorem eq_nil_of_unifyNewlines (nothing : unifyNewlines t = []) : t = [] := by
  cases t with
  | nil => rfl
  | cons c t =>
    rw [unifyNewlines, unifyNewlinesFrom] at nothing
    split_ifs at nothing with carriage joined
    simp at joined

theorem exists_of_unifyNewlines_eq_append {w : Text} (oneLine : '\n' ∉ w)
    (whole : unifyNewlines t = w ++ v) : ∃ behind, t = w ++ behind ∧ unifyNewlines behind = v := by
  induction w generalizing t with
  | nil => exact ⟨t, rfl, whole⟩
  | cons c w ih =>
    rw [List.mem_cons, not_or] at oneLine
    obtain ⟨before, behind, rfl, nothing, rest⟩ :=
      exists_of_unifyNewlinesFrom_eq (u := []) (Ne.symm oneLine.1) whole
    obtain ⟨behind, rfl, later⟩ := ih oneLine.2 rest
    obtain rfl := eq_nil_of_unifyNewlines nothing
    exact ⟨behind, rfl, later⟩

theorem exists_of_unifyNewlines_eq {w : Text} (filled : w ≠ []) (oneLine : '\n' ∉ w)
    (whole : unifyNewlines t = u ++ w ++ v) :
    ∃ before behind, t = before ++ w ++ behind ∧ unifyNewlines before = u ∧
      unifyNewlines behind = v := by
  obtain ⟨c, w, rfl⟩ := List.exists_cons_of_ne_nil filled
  rw [List.mem_cons, not_or] at oneLine
  rw [List.append_assoc] at whole
  obtain ⟨before, rest, rfl, same, later⟩ :=
    exists_of_unifyNewlinesFrom_eq (Ne.symm oneLine.1) whole
  obtain ⟨behind, rfl, after⟩ := exists_of_unifyNewlines_eq_append oneLine.2 later
  exact ⟨before, behind, by simp, same, after⟩

theorem breaks_of_head?_unifyNewlines
    (breaks : ∀ c ∈ (unifyNewlines t).head?, isLineBreak c = true) :
    ∀ c ∈ t.head?, isLineBreak c = true := by
  cases t with
  | nil => simp
  | cons c t =>
    by_cases carriage : c = '\r'
    · simp [carriage, isLineBreak_iff]
    · simpa [unifyNewlines, unifyNewlinesFrom, carriage] using breaks

theorem breaks_of_getLast?_unifyNewlines
    (breaks : ∀ c ∈ (unifyNewlines t).getLast?, isLineBreak c = true) :
    ∀ c ∈ t.getLast?, isLineBreak c = true := by
  rcases t.eq_nil_or_concat' with rfl | ⟨s, c, rfl⟩
  · simp
  · by_cases newline : c = '\r' ∨ c = '\n'
    · rcases newline with rfl | rfl <;> simp [isLineBreak_iff]
    · rw [not_or] at newline
      rw [unifyNewlines, unifyNewlinesFrom_append] at breaks
      simpa [unifyNewlinesFrom, newline] using breaks

end Newlines

section Lines

variable {c : Char} {t line : Text}

-- Of the text made of the three parts, the one in the middle is a line from end to end.
structure IsLine (ahead line behind : Text) : Prop where
  unbroken : Unbroken line
  fresh : ∀ c ∈ ahead.getLast?, isLineBreak c = true
  ended : ∀ c ∈ behind.head?, isLineBreak c = true

theorem consFirst_append (c : Char) {ls : List Text} (some : ls ≠ []) (more : List Text) :
    consFirst c (ls ++ more) = consFirst c ls ++ more := by
  cases ls with
  | nil => exact absurd rfl some
  | cons first rest => rfl

theorem lines_eq_nil_iff : lines t = [] ↔ t = [] := by
  cases t with
  | nil => simp [lines]
  | cons c t =>
    rw [lines]
    split
    · simp
    · cases lines t <;> simp [consFirst]

theorem lines_append_break (breaks : isLineBreak c = true) (s t : Text) :
    lines (s ++ c :: t) = lines (s ++ [c]) ++ lines t := by
  induction s with
  | nil => simp [lines, breaks]
  | cons d s ih =>
    rw [List.cons_append, List.cons_append, lines, lines, ih]
    split
    · rfl
    · exact consFirst_append d (lines_eq_nil_iff.not.mpr (by simp)) (lines t)

-- A newline ends the last line, if that has not ended, and is an empty line of its own otherwise.
theorem lines_concat_newline (t : Text) :
    lines (t ++ ['\n']) = lines t ∨ lines (t ++ ['\n']) = lines t ++ [[]] := by
  induction t with
  | nil => exact .inr rfl
  | cons c t ih =>
    rw [List.cons_append, lines, lines]
    split
    · simpa using ih
    · rcases ih with ended | alone
      · exact .inl (by rw [ended])
      · by_cases nothing : t = []
        · exact .inl (by simp [nothing, lines, consFirst, isLineBreak_iff])
        · right
          rw [alone, consFirst_append c (lines_eq_nil_iff.not.mpr nothing)]

theorem exists_of_head?_lines (first : (lines t).head? = some line) :
    ∃ behind, t = line ++ behind ∧ IsLine [] line behind := by
  induction t generalizing line with
  | nil => simp [lines] at first
  | cons c t ih =>
    rw [lines] at first
    split at first
    next breaks =>
      obtain rfl : [] = line := Option.some.inj first
      exact ⟨c :: t, rfl, ⟨unbroken_nil, by simp, by simpa using breaks⟩⟩
    next plain =>
      rw [Bool.not_eq_true] at plain
      cases more : lines t with
      | nil =>
        obtain rfl : [c] = line := by simpa [more, consFirst] using first
        obtain rfl := lines_eq_nil_iff.mp more
        exact ⟨[], rfl, ⟨by simp [plain], by simp, by simp⟩⟩
      | cons next rest =>
        obtain rfl : c :: next = line := by simpa [more, consFirst] using first
        obtain ⟨behind, rfl, whole⟩ := ih (by rw [more]; rfl)
        exact ⟨behind, rfl, ⟨by simp [plain, whole.unbroken], by simp, whole.ended⟩⟩

theorem exists_of_getElem?_lines_succ {n : Nat} (place : (lines t)[n + 1]? = some line) :
    ∃ first c rest, t = first ++ c :: rest ∧ Unbroken first ∧ isLineBreak c = true ∧
      (lines rest)[n]? = some line := by
  induction t with
  | nil => simp [lines] at place
  | cons c t ih =>
    rw [lines] at place
    split at place
    next breaks => exact ⟨[], c, t, rfl, unbroken_nil, breaks, place⟩
    next plain =>
      have later : (lines t)[n + 1]? = some line := by
        cases more : lines t with
        | nil => simp [more, consFirst] at place
        | cons next rest => simpa [more, consFirst] using place
      obtain ⟨first, d, rest, rfl, unbroken, breaks, found⟩ := ih later
      exact ⟨c :: first, d, rest, rfl, by simp [plain, unbroken], breaks, found⟩

theorem Unbroken.countP_eq_zero (unbroken : t.Unbroken) : t.countP isLineBreak = 0 := by
  apply List.countP_eq_zero.mpr
  intro c member
  simp [unbroken c member]

theorem IsLine.behind_break {first ahead behind : Text} (whole : IsLine ahead line behind)
    (breaks : isLineBreak c = true) : IsLine (first ++ c :: ahead) line behind := by
  refine ⟨whole.unbroken, ?_, whole.ended⟩
  rcases ahead.eq_nil_or_concat' with rfl | ⟨more, d, rfl⟩
  · simpa using breaks
  · rw [← List.cons_append, ← List.append_assoc, List.getLast?_concat]
    simpa using whole.fresh

theorem exists_of_getElem?_lines {n : Nat} (place : (lines t)[n]? = some line) :
    ∃ ahead behind, t = ahead ++ line ++ behind ∧ IsLine ahead line behind ∧
      ahead.countP isLineBreak = n := by
  induction n generalizing t with
  | zero =>
    obtain ⟨behind, rfl, whole⟩ := exists_of_head?_lines (List.head?_eq_getElem?.trans place)
    exact ⟨[], behind, rfl, whole, rfl⟩
  | succ n ih =>
    obtain ⟨first, c, rest, rfl, unbroken, breaks, later⟩ := exists_of_getElem?_lines_succ place
    obtain ⟨ahead, behind, rfl, whole, count⟩ := ih later
    refine ⟨first ++ c :: ahead, behind, by simp, whole.behind_break breaks, ?_⟩
    rw [List.countP_append, unbroken.countP_eq_zero, List.countP_cons_of_pos breaks, count,
      Nat.zero_add]

theorem unbroken_of_mem_lines (member : line ∈ lines t) : Unbroken line := by
  obtain ⟨n, place⟩ := List.getElem?_of_mem member
  obtain ⟨ahead, behind, -, whole, -⟩ := exists_of_getElem?_lines place
  exact whole.unbroken

theorem IsLine.of_unifyNewlines {ahead behind : Text}
    (whole : IsLine (unifyNewlines ahead) line (unifyNewlines behind)) :
    IsLine ahead line behind :=
  ⟨whole.unbroken, breaks_of_getLast?_unifyNewlines whole.fresh,
    breaks_of_head?_unifyNewlines whole.ended⟩

theorem exists_of_getElem?_lines_unifyNewlines {n : Nat} (filled : line ≠ [])
    (place : (lines (unifyNewlines t))[n]? = some line) :
    ∃ ahead behind, t = ahead ++ line ++ behind ∧ IsLine ahead line behind ∧
      (unifyNewlines ahead).countP isLineBreak = n := by
  obtain ⟨u, v, parts, whole, count⟩ := exists_of_getElem?_lines place
  have oneLine : '\n' ∉ line := by
    intro member
    exact absurd (whole.unbroken '\n' member) (by decide)
  obtain ⟨ahead, behind, rfl, rfl, rfl⟩ := exists_of_unifyNewlines_eq filled oneLine parts
  exact ⟨ahead, behind, rfl, whole.of_unifyNewlines, count⟩

end Lines

end RequestBinding.Text
