import RequestBinding.Proofs.Outcome
import RequestBinding.Proofs.Text.Trim

set_option autoImplicit false

namespace RequestBinding.Text

theorem not_mem_of_mem_splitOn {sep : Char} {t piece : Text} (member : piece ∈ t.splitOn sep) :
    sep ∉ piece := by
  induction t generalizing piece with
  | nil => simp_all
  | cons c rest ih =>
    rw [List.splitOn_cons_eq_if_modifyHead] at member
    by_cases same : c = sep
    · simp only [same, beq_self_eq_true, if_true, List.mem_cons] at member
      rcases member with rfl | member
      · simp
      · exact ih member
    · obtain ⟨head, tail, pieces⟩ := List.exists_cons_of_ne_nil (List.splitOn_ne_nil sep rest)
      simp only [beq_iff_eq, same, if_false, pieces, List.modifyHead_cons, List.mem_cons] at member
      rcases member with rfl | member
      · have absent : sep ∉ head := ih (by simp [pieces])
        simp [Ne.symm same, absent]
      · exact ih (by simp [pieces, member])

theorem splitOn_eq_iff {sep : Char} {t : Text} {pieces : List Text} :
    t.splitOn sep = pieces ↔
      pieces ≠ [] ∧ (∀ piece ∈ pieces, sep ∉ piece) ∧ t = [sep].intercalate pieces := by
  constructor
  · rintro rfl
    exact ⟨List.splitOn_ne_nil sep t, fun piece member => not_mem_of_mem_splitOn member,
      (List.intercalate_splitOn sep).symm⟩
  · rintro ⟨filled, absent, rfl⟩
    exact List.splitOn_intercalate sep absent filled

theorem length_splitOn (sep : Char) (t : Text) : (t.splitOn sep).length = t.count sep + 1 := by
  induction t with
  | nil => simp
  | cons c rest ih =>
    rw [List.splitOn_cons_eq_if_modifyHead]
    by_cases same : c = sep <;> simp [same, ih]

theorem mem_intercalate {sep c : Char} {pieces : List Text} (member : c ∈ [sep].intercalate pieces) :
    c = sep ∨ ∃ piece ∈ pieces, c ∈ piece := by
  induction pieces with
  | nil => simp at member
  | cons piece rest ih =>
    cases rest with
    | nil => exact .inr ⟨piece, by simp, by simpa using member⟩
    | cons next rest =>
      rw [List.intercalate_cons_cons, List.mem_append, List.mem_append, List.mem_singleton] at member
      rcases member with (inside | same) | later
      · exact .inr ⟨piece, by simp, inside⟩
      · exact .inl same
      · rcases ih later with same | found
        · exact .inl same
        · obtain ⟨other, present, inside⟩ := found
          exact .inr ⟨other, List.mem_cons_of_mem _ present, inside⟩

theorem mem_intercalate_of_mem (sep : Char) {c : Char} {piece : Text} {pieces : List Text}
    (present : piece ∈ pieces) (inside : c ∈ piece) : c ∈ [sep].intercalate pieces := by
  induction pieces with
  | nil => simp at present
  | cons first rest ih =>
    cases rest with
    | nil =>
      obtain rfl := List.mem_singleton.mp present
      simpa using inside
    | cons next rest =>
      rw [List.intercalate_cons_cons, List.mem_append]
      rcases List.mem_cons.mp present with rfl | later
      · exact .inl (by simp [inside])
      · exact .inr (ih later)

theorem mem_of_mem_splitOn {sep c : Char} {t piece : Text} (present : piece ∈ t.splitOn sep)
    (inside : c ∈ piece) : c ∈ t := by
  have whole : [sep].intercalate (t.splitOn sep) = t := List.intercalate_splitOn sep
  rw [← whole]
  exact mem_intercalate_of_mem sep present inside

theorem intercalate_ends_with (sep : Char) (pieces : List Text) (last : Text) :
    ∃ front, [sep].intercalate (pieces ++ [last]) = front ++ last := by
  induction pieces with
  | nil => exact ⟨[], by simp⟩
  | cons piece rest ih =>
    obtain ⟨front, joined⟩ := ih
    refine ⟨piece ++ [sep] ++ front, ?_⟩
    rw [List.cons_append, List.intercalate_cons_of_ne_nil (by simp), joined]
    simp only [List.append_assoc]

theorem splitOn_append_first {sep : Char} {before : Text} (absent : sep ∉ before) (t : Text) :
    (before ++ t).splitOn sep = (t.splitOn sep).modifyHead (before ++ ·) := by
  induction before with
  | nil =>
    rw [List.nil_append]
    cases t.splitOn sep <;> simp
  | cons c rest ih =>
    have different : c ≠ sep := fun same => absent (by simp [same])
    have later : sep ∉ rest := fun member => absent (by simp [member])
    rw [List.cons_append, List.splitOn_cons_eq_if_modifyHead, ih later]
    cases t.splitOn sep <;> simp [different]

theorem splitOn_append_last {sep : Char} {after : Text} (absent : sep ∉ after) (t : Text) :
    ∃ front last, t.splitOn sep = front ++ [last] ∧
      (t ++ after).splitOn sep = front ++ [last ++ after] := by
  induction t with
  | nil => exact ⟨[], [], by simp, by simp [List.splitOn_eq_singleton absent]⟩
  | cons c rest ih =>
    obtain ⟨front, last, plain, extended⟩ := ih
    rw [List.cons_append, List.splitOn_cons_eq_if_modifyHead, List.splitOn_cons_eq_if_modifyHead,
      plain, extended]
    by_cases same : c = sep
    · exact ⟨[] :: front, last, by simp [same], by simp [same]⟩
    · cases front with
      | nil => exact ⟨[], c :: last, by simp [same], by simp [same]⟩
      | cons first front => exact ⟨(c :: first) :: front, last, by simp [same], by simp [same]⟩

theorem map_splitOn_between {α : Type} {view : Text → α}
    (unseen : ∀ {before after : Text} (t : Text), Blank before → Blank after →
      view (before ++ t ++ after) = view t)
    {sep : Char} (visible : isBlank sep = false) {before after : Text} (t : Text)
    (blankBefore : Blank before) (blankAfter : Blank after) :
    ((before ++ t ++ after).splitOn sep).map view = (t.splitOn sep).map view := by
  obtain ⟨front, last, plain, extended⟩ :=
    splitOn_append_last (blankAfter.not_mem visible) (before ++ t)
  have lastUnseen : view (last ++ after) = view last := by
    simpa using unseen last blank_nil blankAfter
  have ending : ((before ++ t ++ after).splitOn sep).map view =
      ((before ++ t).splitOn sep).map view := by
    rw [plain, extended, List.map_append, List.map_append, List.map_singleton, lastUnseen,
      List.map_singleton]
  obtain ⟨head, tail, pieces⟩ := List.exists_cons_of_ne_nil (List.splitOn_ne_nil sep t)
  have headUnseen : view (before ++ head) = view head := by
    simpa using unseen head blankBefore blank_nil
  rw [ending, splitOn_append_first (blankBefore.not_mem visible), pieces]
  simp [headUnseen]

section Reading

variable {ε α : Type} {read : Text → Except ε α} {sep : Char}

theorem mapM_splitOn_strip
    (unseen : ∀ {before after : Text} (t : Text), Blank before → Blank after →
      read (before ++ t ++ after) = read t)
    (visible : isBlank sep = false) (t : Text) :
    (t.strip.splitOn sep).mapM read = (t.splitOn sep).mapM read := by
  obtain ⟨before, after, blankBefore, blankAfter, whole, _⟩ := exists_strip t
  have outside := map_splitOn_between unseen visible t.strip blankBefore blankAfter
  rw [← whole] at outside
  exact mapM_congr_of_map_eq outside.symm

theorem mapM_splitOn_eq_ok_iff {Reads : Text → α → Prop}
    (reads_iff : ∀ piece a, Reads piece a ↔ sep ∉ piece ∧ read piece = .ok a)
    {t : Text} {as : List α} :
    (t.splitOn sep).mapM read = .ok as ↔
      ∃ pieces, pieces ≠ [] ∧ t = [sep].intercalate pieces ∧ List.Forall₂ Reads pieces as := by
  have readAll (pieces : List Text) : List.Forall₂ Reads pieces as ↔
      (∀ piece ∈ pieces, sep ∉ piece) ∧
        List.Forall₂ (fun piece a => read piece = .ok a) pieces as := by
    rw [← List.forall₂_and_left]
    simp only [← reads_iff]
  rw [mapM_eq_ok_iff]
  constructor
  · intro accepted
    obtain ⟨filled, absent, whole⟩ := splitOn_eq_iff.mp (Eq.refl (t.splitOn sep))
    exact ⟨t.splitOn sep, filled, whole, (readAll _).mpr ⟨absent, accepted⟩⟩
  · intro written
    obtain ⟨pieces, filled, whole, each⟩ := written
    obtain ⟨absent, accepted⟩ := (readAll pieces).mp each
    rwa [splitOn_eq_iff.mpr ⟨filled, absent, whole⟩]

end Reading

end RequestBinding.Text
