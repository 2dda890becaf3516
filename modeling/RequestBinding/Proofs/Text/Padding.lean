import RequestBinding.Proofs.Text.Split
import RequestBinding.Proofs.Text.Words

set_option autoImplicit false

namespace RequestBinding.Text

-- A line break is no padding: it would end the text of an argument's options.
structure Padding (gap : Text) : Prop where
  blank : Blank gap
  oneLine : '\n' ∉ gap

def isLoose (c : Char) : Bool :=
  c = ',' || c = ';' || isBlank c

-- Whether a loose character stands in front of the text itself is said by `loose`.
inductive Padded : (loose : Bool) → Text → Text → Prop
  | nil {loose : Bool} {gap : Text} : Padding gap → Padded loose [] gap
  | cons {loose : Bool} {c : Char} {gap t t' : Text} : Padding gap →
      (gap = [] ∨ loose = true ∨ isLoose c = true) → Padded (isLoose c) t t' →
        Padded loose (c :: t) (gap ++ c :: t')

theorem padding_nil : Padding [] :=
  ⟨blank_nil, by simp⟩

theorem Padding.unnamed {gap rest : Text} (padding : Padding gap)
    (first : ∀ c ∈ rest.head?, isNameChar c = false) :
    ∀ c ∈ (gap ++ rest).head?, isNameChar c = false := by
  cases gap with
  | nil => exact first
  | cons d gap =>
    intro c found
    obtain rfl : d = c := by simpa using found
    exact isNameChar_eq_false_of_isBlank (padding.blank d (by simp))

theorem isLoose_eq_false_of_isNameChar {c : Char} (named : isNameChar c = true) :
    isLoose c = false := by
  have comma : c ≠ ',' := by
    rintro rfl
    exact absurd named (by decide)
  have semicolon : c ≠ ';' := by
    rintro rfl
    exact absurd named (by decide)
  simp [isLoose, comma, semicolon, isBlank_eq_false_of_isNameChar named]

variable {loose : Bool} {t t' : Text}

theorem Padded.behindLoose (padded : Padded loose t t') : Padded true t t' := by
  cases padded with
  | nil padding => exact .nil padding
  | cons padding _ rest => exact .cons padding (.inr (.inl rfl)) rest

theorem Padded.blank_iff (padded : Padded loose t t') : Blank t' ↔ Blank t := by
  induction padded with
  | nil padding => simp [padding.blank]
  | cons padding _ _ ih => simp [padding.blank, ih]

theorem Padded.newline_mem_iff (padded : Padded loose t t') : '\n' ∈ t' ↔ '\n' ∈ t := by
  induction padded with
  | nil padding => simp [padding.oneLine]
  | cons padding _ _ ih => simp [padding.oneLine, ih]

theorem Padded.dropBlank (padded : Padded loose t t') :
    Padded false (t.dropWhile isBlank) (t'.dropWhile isBlank) := by
  induction padded with
  | nil padding =>
    rw [List.dropWhile_eq_nil_iff.mpr padding.blank]
    exact .nil padding_nil
  | @cons loose c gap t t' padding _ rest ih =>
    rw [List.dropWhile_append_of_pos padding.blank]
    by_cases blank : isBlank c = true
    · simpa only [List.dropWhile_cons, blank, if_true] using ih
    · simp only [List.dropWhile_cons, blank]
      exact .cons padding_nil (.inl rfl) rest

theorem Padded.trimEnd (padded : Padded loose t t') : Padded loose t.stripEnd t'.stripEnd := by
  induction padded with
  | nil padding =>
    rw [stripEnd_of_blank padding.blank]
    exact .nil padding_nil
  | @cons loose c gap t t' padding place rest ih =>
    have same : Blank (c :: t') ↔ Blank (c :: t) := by simp [rest.blank_iff]
    by_cases blank : Blank (c :: t)
    · rw [stripEnd_of_blank blank, stripEnd_of_blank]
      · exact .nil padding_nil
      · simp [padding.blank, same.mpr blank]
    · have shown : ¬ Blank (c :: t') := same.not.mpr blank
      rw [stripEnd_append shown, stripEnd_cons shown, stripEnd_cons blank]
      exact .cons padding place ih

theorem Padded.trim (padded : Padded loose t t') : Padded false t.strip t'.strip :=
  padded.dropBlank.trimEnd

theorem Padded.behindName (padded : Padded false t t') :
    t'.takeWhile isNameChar = t.takeWhile isNameChar ∧
      Padded true (t.dropWhile isNameChar) (t'.dropWhile isNameChar) := by
  have bare {loose : Bool} {s s' : Text} (first : ∀ c ∈ s.head?, isNameChar c = false)
      (first' : ∀ c ∈ s'.head?, isNameChar c = false) (padded : Padded loose s s') :
      s'.takeWhile isNameChar = s.takeWhile isNameChar ∧
        Padded true (s.dropWhile isNameChar) (s'.dropWhile isNameChar) := by
    rw [takeWhile_eq_nil first, takeWhile_eq_nil first', dropWhile_eq_self first,
      dropWhile_eq_self first']
    exact ⟨rfl, padded.behindLoose⟩
  generalize front : false = loose at padded
  induction padded with
  | @nil loose gap padding =>
    have unnamed : ∀ c ∈ gap.head?, isNameChar c = false := by
      simpa using @Padding.unnamed gap [] padding
    exact bare (by simp) unnamed (@Padded.nil loose gap padding)
  | @cons loose c gap t t' padding place rest ih =>
    by_cases named : isNameChar c = true
    · have tight := isLoose_eq_false_of_isNameChar named
      obtain rfl : gap = [] := by simpa [← front, tight] using place
      obtain ⟨names, behind⟩ := ih tight.symm
      simpa [named, names] using behind
    · have unnamed : ∀ d ∈ some c, isNameChar d = false := by simpa using named
      exact bare unnamed (padding.unnamed unnamed) (.cons padding place rest)

-- Only the first piece stands where the text itself stood. The others stand behind the separator.
theorem Padded.exists_splitOn {sep : Char} (looseSep : isLoose sep = true)
    (visible : isBlank sep = false) (padded : Padded loose t t') :
    ∃ piece pieces piece' pieces', t.splitOn sep = piece :: pieces ∧
      t'.splitOn sep = piece' :: pieces' ∧ Padded loose piece piece' ∧
      List.Forall₂ (Padded true) pieces pieces' := by
  induction padded with
  | @nil loose gap padding =>
    have alone : gap.splitOn sep = [gap] :=
      List.splitOn_eq_singleton (padding.blank.not_mem visible)
    exact ⟨[], [], gap, [], List.splitOn_nil sep, alone, .nil padding, .nil⟩
  | @cons loose c gap t t' padding place _ ih =>
    obtain ⟨piece, pieces, piece', pieces', cut, cut', first, others⟩ := ih
    have opened : (gap ++ c :: t').splitOn sep = ((c :: t').splitOn sep).modifyHead (gap ++ ·) :=
      splitOn_append_first (padding.blank.not_mem visible) (c :: t')
    rw [opened, List.splitOn_cons_eq_if_modifyHead, List.splitOn_cons_eq_if_modifyHead, cut, cut']
    by_cases same : c = sep
    · subst same
      refine ⟨[], piece :: pieces, gap, piece' :: pieces', by simp, by simp, .nil padding, ?_⟩
      exact .cons (looseSep ▸ first) others
    · exact ⟨c :: piece, pieces, gap ++ c :: piece', pieces', by simp [same], by simp [same],
        .cons padding place first, others⟩

theorem Padded.splitOn {sep : Char} (looseSep : isLoose sep = true)
    (visible : isBlank sep = false) (padded : Padded loose t t') :
    List.Forall₂ (Padded true) (t.splitOn sep) (t'.splitOn sep) := by
  obtain ⟨piece, pieces, piece', pieces', cut, cut', first, others⟩ :=
    padded.exists_splitOn looseSep visible
  rw [cut, cut']
  exact .cons first.behindLoose others

theorem Padded.words_append {begun : Text} (padded : Padded loose t t')
    (onlyBlanks : ∀ c ∈ t, isLoose c = true → isBlank c = true)
    (visible : ∀ c ∈ begun, isBlank c = false) (fresh : loose = true → begun = []) :
    words (begun ++ t') = words (begun ++ t) := by
  -- A word that has begun goes on until the first loose character, which is a blank.
  have closed (begun : Text) {gap : Text} (padding : Padding gap) :
      words (begun ++ gap) = words begun := by
    simpa using words_between begun blank_nil padding.blank
  induction padded generalizing begun with
  | @nil loose gap padding => simpa using closed begun padding
  | @cons loose c gap t t' padding place _ ih =>
    obtain ⟨here, later⟩ := List.forall_mem_cons.mp onlyBlanks
    by_cases blank : isBlank c = true
    · have tail : words ([] ++ t') = words ([] ++ t) := ih later (by simp) fun _ => rfl
      rw [← List.append_assoc, words_append_cons_blank _ _ blank, words_append_cons_blank _ _ blank,
        closed begun padding]
      exact congrArg _ tail
    · have tight : isLoose c = false := by simpa [blank] using here
      have goesOn : words (begun ++ c :: t') = words (begun ++ c :: t) := by
        have grown : ∀ d ∈ begun ++ [c], isBlank d = false := by
          simpa [or_imp, forall_and, blank] using visible
        simpa using ih later grown (by simp [tight])
      rcases place with rfl | front | impossible
      · exact goesOn
      · obtain rfl := fresh front
        rw [List.nil_append, words_blank_append _ padding.blank]
        exact goesOn
      · simp [tight] at impossible

theorem Padded.words_eq (padded : Padded true t t')
    (onlyBlanks : ∀ c ∈ t, isLoose c = true → isBlank c = true) : words t' = words t := by
  have started : words ([] ++ t') = words ([] ++ t) :=
    padded.words_append onlyBlanks (by simp) fun _ => rfl
  exact started

end RequestBinding.Text
