import Mathlib.Data.List.TakeWhile
import RequestBinding.Text.Basic

set_option autoImplicit false

namespace RequestBinding.Text

def Blank (t : Text) : Prop :=
  ∀ c ∈ t, isBlank c = true

structure Trimmed (t : Text) : Prop where
  first : ∀ c ∈ t.head?, isBlank c = false
  last : ∀ c ∈ t.getLast?, isBlank c = false

instance (t : Text) : Decidable (Blank t) :=
  List.decidableBAll (fun c => isBlank c = true) t

@[simp] theorem blank_nil : Blank [] := by simp [Blank]

@[simp] theorem blank_cons {c : Char} {t : Text} :
    Blank (c :: t) ↔ isBlank c = true ∧ Blank t := by simp [Blank]

@[simp] theorem blank_append {s t : Text} : Blank (s ++ t) ↔ Blank s ∧ Blank t := by
  simp [Blank, or_imp, forall_and]

theorem Blank.reverse {t : Text} (blank : Blank t) : Blank t.reverse :=
  fun c member => blank c (List.mem_reverse.mp member)

theorem Blank.not_mem {t : Text} (blank : Blank t) {c : Char} (visible : isBlank c = false) :
    c ∉ t := by
  intro member
  simp [blank c member] at visible

theorem isBlank_eq_false_of_isNameChar {c : Char} (named : isNameChar c = true) :
    isBlank c = false := by
  unfold isNameChar Char.isAlphanum Char.isAlpha Char.isUpper Char.isLower Char.isDigit at named
  simp only [Bool.or_eq_true, Bool.and_eq_true, decide_eq_true_eq, ge_iff_le,
    UInt32.le_iff_toNat_le] at named
  change ((((0x41 ≤ c.toNat ∧ c.toNat ≤ 0x5A) ∨ (0x61 ≤ c.toNat ∧ c.toNat ≤ 0x7A)) ∨
    (0x30 ≤ c.toNat ∧ c.toNat ≤ 0x39)) ∨ c = '_') at named
  have bounds : 0x30 ≤ c.toNat ∧ c.toNat ≤ 0x7A := by
    rcases named with named | rfl
    · omega
    · decide
  simp only [isBlank, isSpace, inRanges, List.any_cons, List.any_nil, Bool.or_eq_false_iff,
    Bool.and_eq_false_iff, decide_eq_false_iff_not, and_true]
  omega

theorem isNameChar_eq_false_of_isBlank {c : Char} (blank : isBlank c = true) :
    isNameChar c = false := by
  by_contra named
  rw [Bool.not_eq_false] at named
  simp [isBlank_eq_false_of_isNameChar named] at blank

theorem dropWhile_eq_self {p : Char → Bool} {t : Text} (first : ∀ c ∈ t.head?, p c = false) :
    t.dropWhile p = t := by
  cases t with
  | nil => rfl
  | cons c rest => simp [first c rfl]

theorem takeWhile_eq_nil {p : Char → Bool} {t : Text} (first : ∀ c ∈ t.head?, p c = false) :
    t.takeWhile p = [] := by
  cases t with
  | nil => rfl
  | cons c rest => simp [first c rfl]

theorem dropWhile_append_stop {p : Char → Bool} {s rest : Text} (inside : ∀ c ∈ s, p c = true)
    (stop : ∀ c ∈ rest.head?, p c = false) : (s ++ rest).dropWhile p = rest := by
  rw [List.dropWhile_append_of_pos inside, dropWhile_eq_self stop]

theorem takeWhile_append_stop {p : Char → Bool} {s rest : Text} (inside : ∀ c ∈ s, p c = true)
    (stop : ∀ c ∈ rest.head?, p c = false) : (s ++ rest).takeWhile p = s := by
  rw [List.takeWhile_append_of_pos inside, takeWhile_eq_nil stop, List.append_nil]

theorem stop_cancel {p : Char → Bool} {s t r r' : Text} (inside : ∀ c ∈ s, p c = true)
    (inside' : ∀ c ∈ t, p c = true) (stop : ∀ c ∈ r.head?, p c = false)
    (stop' : ∀ c ∈ r'.head?, p c = false) (same : s ++ r = t ++ r') : s = t ∧ r = r' := by
  have firsts : s = t := by
    rw [← takeWhile_append_stop inside stop, same, takeWhile_append_stop inside' stop']
  subst firsts
  exact ⟨rfl, List.append_cancel_left same⟩

theorem head?_dropWhile {p : Char → Bool} {t : Text} : ∀ c ∈ (t.dropWhile p).head?, p c = false := by
  intro c found
  have h := List.head?_dropWhile_not p t
  rw [Option.mem_def.mp found] at h
  exact h

theorem strip_blank_append {before t after : Text} (blankBefore : Blank before)
    (blankAfter : Blank after) (trimmed : Trimmed t) : strip (before ++ t ++ after) = t := by
  cases t with
  | nil =>
    have blank : Blank (before ++ after) := by simp [blankBefore, blankAfter]
    have dropped : (before ++ after).dropWhile isBlank = [] :=
      List.dropWhile_eq_nil_iff.mpr blank
    simp [strip, trimWhere, dropped]
  | cons c rest =>
    have left : (before ++ (c :: rest) ++ after).dropWhile isBlank = c :: rest ++ after := by
      rw [List.append_assoc]
      exact dropWhile_append_stop blankBefore (by simpa using trimmed.first)
    have right : (c :: rest).reverse.dropWhile isBlank = (c :: rest).reverse :=
      dropWhile_eq_self (by simpa only [List.head?_reverse] using trimmed.last)
    rw [strip, trimWhere, left, List.reverse_append,
      List.dropWhile_append_of_pos blankAfter.reverse, right, List.reverse_reverse]

def stripEnd (t : Text) : Text :=
  (t.reverse.dropWhile isBlank).reverse

theorem exists_stripEnd (t : Text) :
    ∃ after, Blank after ∧ t = stripEnd t ++ after ∧
      ∀ c ∈ (stripEnd t).getLast?, isBlank c = false := by
  refine ⟨(t.reverse.takeWhile isBlank).reverse, ?_, ?_, ?_⟩
  · exact Blank.reverse fun c member => List.all_eq_true.mp List.all_takeWhile c member
  · rw [stripEnd, ← List.reverse_append, List.takeWhile_append_dropWhile, List.reverse_reverse]
  · intro c found
    rw [stripEnd, List.getLast?_reverse] at found
    exact head?_dropWhile c found

theorem exists_strip (t : Text) :
    ∃ before after, Blank before ∧ Blank after ∧ t = before ++ strip t ++ after ∧
      Trimmed (strip t) := by
  have kept : t = t.takeWhile isBlank ++ t.dropWhile isBlank :=
    List.takeWhile_append_dropWhile.symm
  obtain ⟨after, blankAfter, whole, last⟩ := exists_stripEnd (t.dropWhile isBlank)
  change t.dropWhile isBlank = strip t ++ after at whole
  refine ⟨t.takeWhile isBlank, after, ?_, blankAfter, ?_, ?_, last⟩
  · exact fun c member => List.all_eq_true.mp List.all_takeWhile c member
  · rw [List.append_assoc, ← whole]
    exact kept
  · intro c found
    have inside : c ∈ (t.dropWhile isBlank).head? := by
      rw [whole, List.head?_append, Option.mem_def.mp found]
      rfl
    exact head?_dropWhile c inside

theorem trimmed_strip (t : Text) : Trimmed (strip t) := by
  obtain ⟨_, _, _, _, _, trimmed⟩ := exists_strip t
  exact trimmed

theorem strip_strip (t : Text) : strip (strip t) = strip t := by
  simpa using strip_blank_append blank_nil blank_nil (trimmed_strip t)

theorem mem_of_mem_strip {c : Char} {t : Text} (member : c ∈ strip t) : c ∈ t := by
  obtain ⟨before, after, -, -, whole, -⟩ := exists_strip t
  rw [whole]
  simp [member]

theorem strip_between {before after : Text} (t : Text) (blankBefore : Blank before)
    (blankAfter : Blank after) : strip (before ++ t ++ after) = strip t := by
  obtain ⟨left, right, blankLeft, blankRight, whole, trimmed⟩ := exists_strip t
  generalize strip t = inner at whole trimmed ⊢
  subst whole
  have regrouped :
      before ++ (left ++ inner ++ right) ++ after = (before ++ left) ++ inner ++ (right ++ after) := by
    simp only [List.append_assoc]
  rw [regrouped]
  exact strip_blank_append (by simp [*]) (by simp [*]) trimmed

theorem strip_eq_nil_iff {t : Text} : strip t = [] ↔ Blank t := by
  constructor
  · intro nothing
    obtain ⟨before, after, blankBefore, blankAfter, whole, _⟩ := exists_strip t
    rw [whole, nothing]
    simp [blankBefore, blankAfter]
  · intro blank
    simpa using strip_blank_append blank blank_nil (t := []) ⟨by simp, by simp⟩

def EndsVisibly (t : Text) : Prop :=
  ∃ c ∈ t.getLast?, isBlank c = false

theorem EndsVisibly.append {t : Text} (visible : EndsVisibly t) (s : Text) :
    EndsVisibly (s ++ t) := by
  obtain ⟨c, last, shown⟩ := visible
  refine ⟨c, ?_, shown⟩
  rw [List.getLast?_append, Option.mem_def.mp last]
  rfl

theorem endsVisibly_concat (t : Text) {c : Char} (visible : isBlank c = false) :
    EndsVisibly (t ++ [c]) :=
  ⟨c, List.getLast?_concat, visible⟩

theorem stripEnd_append_blank {t after : Text} (visible : EndsVisibly t) (blank : Blank after) :
    stripEnd (t ++ after) = t := by
  obtain ⟨c, last, shown⟩ := visible
  have kept : t.reverse.dropWhile isBlank = t.reverse := by
    apply dropWhile_eq_self
    intro d found
    rw [List.head?_reverse, Option.mem_def.mp last] at found
    rwa [← Option.some.inj found]
  rw [stripEnd, List.reverse_append, List.dropWhile_append_of_pos blank.reverse, kept,
    List.reverse_reverse]

theorem stripEnd_of_blank {t : Text} (blank : Blank t) : stripEnd t = [] := by
  rw [stripEnd, List.dropWhile_eq_nil_iff.mpr blank.reverse, List.reverse_nil]

theorem stripEnd_append {t : Text} (shown : ¬ Blank t) (s : Text) :
    stripEnd (s ++ t) = s ++ stripEnd t := by
  have kept : t.reverse.dropWhile isBlank ≠ [] := by
    intro nothing
    exact shown fun c member =>
      List.dropWhile_eq_nil_iff.mp nothing c (List.mem_reverse.mpr member)
  rw [stripEnd, stripEnd, List.reverse_append, List.dropWhile_append,
    if_neg (by simpa using kept), List.reverse_append, List.reverse_reverse]

theorem stripEnd_cons {c : Char} {t : Text} (shown : ¬ Blank (c :: t)) :
    stripEnd (c :: t) = c :: stripEnd t := by
  by_cases blank : Blank t
  · have visible : isBlank c = false := by simpa [blank] using shown
    have alone : stripEnd ([c] ++ t) = [c] :=
      stripEnd_append_blank ⟨c, rfl, visible⟩ blank
    rw [stripEnd_of_blank blank]
    exact alone
  · exact stripEnd_append blank [c]

def Solid (t : Text) : Prop :=
  ∀ c ∈ t, isBlank c = false

instance (t : Text) : Decidable (Solid t) :=
  List.decidableBAll (fun c => isBlank c = false) t

theorem Solid.oneLine {t : Text} (solid : Solid t) : '\n' ∉ t :=
  fun member => absurd (solid _ member) (by decide)

theorem Solid.endsVisibly {t : Text} (solid : Solid t) (some : t ≠ []) : EndsVisibly t :=
  ⟨t.getLast some, List.getLast?_eq_some_getLast some, solid _ (List.getLast_mem some)⟩

theorem Solid.cancel_blank {c : Char} {s t r r' : Text} (solid : Solid s) (solid' : Solid t)
    (blank : isBlank c = true) (same : s ++ c :: r = t ++ c :: r') : s = t ∧ r = r' := by
  have stop (behind : Text) : ∀ d ∈ (c :: behind).head?, (!isBlank d) = false := by
    intro d first
    obtain rfl : c = d := Option.some.inj first
    simp [blank]
  obtain ⟨words, rests⟩ := stop_cancel (p := (!isBlank ·)) (by simpa [Solid] using solid)
    (by simpa [Solid] using solid') (stop r) (stop r') same
  exact ⟨words, (List.cons.inj rests).2⟩

theorem Solid.cancel_last_blank {c : Char} {s t r r' : Text} (solid : Solid r) (solid' : Solid r')
    (blank : isBlank c = true) (same : s ++ c :: r = t ++ c :: r') : s = t ∧ r = r' := by
  have backwards : r.reverse ++ c :: s.reverse = r'.reverse ++ c :: t.reverse := by
    simpa using congrArg List.reverse same
  have reversed {w : Text} (solid : Solid w) : Solid w.reverse :=
    fun d member => solid d (List.mem_reverse.mp member)
  obtain ⟨words, fronts⟩ := (reversed solid).cancel_blank (reversed solid') blank backwards
  exact ⟨List.reverse_inj.mp fronts, List.reverse_inj.mp words⟩

theorem solid_of_nameChars {t : Text} (nameChars : ∀ c ∈ t, isNameChar c = true) : Solid t :=
  fun c member => isBlank_eq_false_of_isNameChar (nameChars c member)

end RequestBinding.Text
