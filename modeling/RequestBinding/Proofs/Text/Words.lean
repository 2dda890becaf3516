import RequestBinding.Proofs.Text.Trim

set_option autoImplicit false

namespace RequestBinding.Text

inductive Spaced : List Text → Text → Prop
  | nil {gap : Text} : Blank gap → Spaced [] gap
  | cons {gap token rest : Text} {tokens : List Text} :
      Blank gap → token ≠ [] → (∀ c ∈ token, isBlank c = false) →
        (rest = [] ∨ startsBlank rest = true) → Spaced tokens rest →
          Spaced (token :: tokens) (gap ++ token ++ rest)

theorem words_cons_blank {c : Char} (t : Text) (blank : isBlank c = true) :
    words (c :: t) = words t := by
  simp [words, List.splitOnP_cons_eq_if_modifyHead, blank]

theorem words_blank_append {gap : Text} (t : Text) (blank : Blank gap) :
    words (gap ++ t) = words t := by
  induction gap with
  | nil => rfl
  | cons c rest ih =>
    rw [blank_cons] at blank
    rw [List.cons_append, words_cons_blank _ blank.1, ih blank.2]

theorem words_token_append {token rest : Text} (filled : token ≠ [])
    (visible : ∀ c ∈ token, isBlank c = false) (apart : rest = [] ∨ startsBlank rest = true) :
    words (token ++ rest) = token :: words rest := by
  cases rest with
  | nil => simp [words, List.splitOnP_eq_singleton visible, filled]
  | cons c rest =>
    have blank : isBlank c = true := by simpa [startsBlank] using apart
    rw [words_cons_blank _ blank]
    simp [words, List.splitOnP_append_cons_of_forall_mem visible c blank, filled]

theorem words_append_cons_blank {c : Char} (s t : Text) (blank : isBlank c = true) :
    words (s ++ c :: t) = words s ++ words t := by
  rw [words, List.splitOnP_append_cons s t blank, List.filter_append]
  rfl

theorem words_of_spaced {tokens : List Text} {t : Text} (spaced : Spaced tokens t) :
    words t = tokens := by
  induction spaced with
  | nil blank => simpa [words] using words_blank_append [] blank
  | cons blank filled visible apart _ ih =>
    rw [List.append_assoc, words_blank_append _ blank, words_token_append filled visible apart, ih]

theorem blank_takeWhile (t : Text) : Blank (t.takeWhile isBlank) :=
  fun c member => List.all_eq_true.mp List.all_takeWhile c member

theorem startsBlank_dropWhile (t : Text) :
    t.dropWhile (!isBlank ·) = [] ∨ startsBlank (t.dropWhile (!isBlank ·)) = true := by
  have stopped := head?_dropWhile (p := (!isBlank ·)) (t := t)
  cases behind : t.dropWhile (!isBlank ·) with
  | nil => exact .inl rfl
  | cons c rest =>
    rw [behind] at stopped
    exact .inr (by simpa [startsBlank] using stopped)

theorem spaced_words (t : Text) : Spaced (words t) t := by
  have kept : t.takeWhile isBlank ++ t.dropWhile isBlank = t := List.takeWhile_append_dropWhile
  cases opened : t.dropWhile isBlank with
  | nil =>
    rw [opened, List.append_nil] at kept
    rw [← kept, words_of_spaced (.nil (blank_takeWhile t))]
    exact .nil (blank_takeWhile t)
  | cons c inner =>
    have visible : isBlank c = false := head?_dropWhile c (by rw [opened]; rfl)
    generalize tokenIs : (c :: inner).takeWhile (!isBlank ·) = token
    generalize restIs : (c :: inner).dropWhile (!isBlank ·) = rest
    have joined : token ++ rest = c :: inner := by
      rw [← tokenIs, ← restIs, List.takeWhile_append_dropWhile]
    have filled : token ≠ [] := by simp [← tokenIs, visible]
    have shorter : rest.length < t.length := by
      have whole := congrArg List.length kept
      have parts := congrArg List.length joined
      have taken := List.length_pos_iff.mpr filled
      rw [opened] at whole
      simp only [List.length_append] at whole parts
      omega
    have tokenVisible : ∀ d ∈ token, isBlank d = false := by
      intro d member
      rw [← tokenIs] at member
      simpa using List.all_eq_true.mp List.all_takeWhile d member
    have spaced : Spaced (token :: words rest) (t.takeWhile isBlank ++ token ++ rest) :=
      .cons (blank_takeWhile t) filled tokenVisible (restIs ▸ startsBlank_dropWhile _)
        (spaced_words rest)
    rw [List.append_assoc, joined, ← opened, kept] at spaced
    rw [words_of_spaced spaced]
    exact spaced
termination_by t.length

theorem words_eq_iff {t : Text} {tokens : List Text} : words t = tokens ↔ Spaced tokens t :=
  ⟨fun same => same ▸ spaced_words t, words_of_spaced⟩

theorem words_between {before after : Text} (t : Text) (blankBefore : Blank before)
    (blankAfter : Blank after) : words (before ++ t ++ after) = words t := by
  have extended : ∀ {tokens : List Text} {t : Text}, Spaced tokens t → Spaced tokens (t ++ after) := by
    intro tokens t spaced
    induction spaced with
    | nil blank => exact .nil (by simp [blank, blankAfter])
    | @cons gap token rest tokens blank filled visible apart _ ih =>
      rw [List.append_assoc _ rest]
      refine .cons blank filled visible ?_ ih
      cases rest with
      | nil =>
        cases after with
        | nil => exact .inl rfl
        | cons c _ => exact .inr (blankAfter c (by simp))
      | cons c rest => simpa [startsBlank] using apart
  rw [List.append_assoc, words_blank_append _ blankBefore]
  exact words_of_spaced (extended (spaced_words t))

theorem Spaced.mem_of_mem {tokens : List Text} {t : Text} (spaced : Spaced tokens t) {token : Text}
    (member : token ∈ tokens) {c : Char} (inside : c ∈ token) : c ∈ t := by
  induction spaced with
  | nil => simp at member
  | cons _ _ _ _ _ ih =>
    rcases List.mem_cons.mp member with rfl | member
    · simp [inside]
    · simp [ih member]

theorem Spaced.visible {tokens : List Text} {t : Text} (spaced : Spaced tokens t) :
    ∀ token ∈ tokens, token ≠ [] ∧ ∀ c ∈ token, isBlank c = false := by
  induction spaced with
  | nil => simp
  | cons _ filled visible _ _ ih => exact List.forall_mem_cons.mpr ⟨⟨filled, visible⟩, ih⟩

theorem solid_of_mem_words {t token : Text} (member : token ∈ words t) : Solid token :=
  ((spaced_words t).visible token member).2

theorem spaced_intercalate {tokens : List Text} {gap : Text} (blank : Blank gap)
    (visible : ∀ token ∈ tokens, token ≠ [] ∧ ∀ c ∈ token, isBlank c = false) :
    Spaced tokens (gap ++ [' '].intercalate tokens) := by
  induction tokens generalizing gap with
  | nil => exact .nil (by simp [blank])
  | cons token rest ih =>
    obtain ⟨here, later⟩ := List.forall_mem_cons.mp visible
    cases rest with
    | nil =>
      have alone : Spaced [token] (gap ++ token ++ []) :=
        .cons blank here.1 here.2 (.inl rfl) (.nil blank_nil)
      simpa using alone
    | cons next rest =>
      have spaced : Spaced (token :: next :: rest)
          (gap ++ token ++ ([' '] ++ [' '].intercalate (next :: rest))) :=
        .cons blank here.1 here.2 (.inr rfl) (ih (by decide) later)
      simpa using spaced

end RequestBinding.Text
