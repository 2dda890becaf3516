import RequestBinding.Proofs.Text.Numeral
import RequestBinding.Proofs.Text.Split
import RequestBinding.Text.Basic
import RequestBinding.Text.Quoted

set_option autoImplicit false

namespace RequestBinding.Text

def Unbroken (t : Text) : Prop :=
  ∀ c ∈ t, isLineBreak c = false

instance (t : Text) : Decidable t.Unbroken :=
  List.decidableBAll (fun c => isLineBreak c = false) t

@[simp] theorem unbroken_nil : Unbroken [] := by simp [Unbroken]

@[simp] theorem unbroken_cons {c : Char} {t : Text} :
    Unbroken (c :: t) ↔ isLineBreak c = false ∧ Unbroken t := by simp [Unbroken]

@[simp] theorem unbroken_append {s t : Text} : Unbroken (s ++ t) ↔ Unbroken s ∧ Unbroken t := by
  simp [Unbroken, or_imp, forall_and]

theorem Unbroken.of_subset {s t : Text} (unbroken : Unbroken t) (inside : ∀ c ∈ s, c ∈ t) :
    Unbroken s :=
  fun c member => unbroken c (inside c member)

theorem unbroken_intercalate {sep : Char} (shown : isLineBreak sep = false) {pieces : List Text}
    (each : ∀ piece ∈ pieces, Unbroken piece) : Unbroken ([sep].intercalate pieces) := by
  intro c member
  rcases mem_intercalate member with rfl | found
  · exact shown
  · obtain ⟨piece, present, inside⟩ := found
    exact each piece present c inside

theorem isLineBreak_iff {c : Char} : isLineBreak c = true ↔
    (0x0A ≤ c.toNat ∧ c.toNat ≤ 0x0D) ∨ (0x1C ≤ c.toNat ∧ c.toNat ≤ 0x1E) ∨ c.toNat = 0x85 ∨
      (0x2028 ≤ c.toNat ∧ c.toNat ≤ 0x2029) := by
  simp only [isLineBreak, inRanges, List.any_cons, List.any_nil, Bool.or_eq_true, Bool.and_eq_true,
    decide_eq_true_eq, Bool.or_false]
  omega

theorem isBlank_of_isLineBreak {c : Char} (breaks : isLineBreak c = true) : isBlank c = true := by
  rw [isLineBreak_iff] at breaks
  simp only [isBlank, isSpace, inRanges, List.any_cons, List.any_nil, Bool.or_eq_true,
    Bool.and_eq_true, decide_eq_true_eq, Bool.or_false]
  omega

theorem Solid.unbroken {t : Text} (solid : Solid t) : Unbroken t := by
  intro c member
  apply Bool.eq_false_iff.mpr
  intro breaks
  have blank := isBlank_of_isLineBreak breaks
  simp [solid c member] at blank

theorem isPrintable_eq_false_of_isLineBreak {c : Char} (breaks : isLineBreak c = true) :
    isPrintable c = false := by
  have hidden (low high : Nat) (listed : (low, high) ∈ unprintable) (above : low ≤ c.toNat)
      (below : c.toNat ≤ high) : isPrintable c = false := by
    have found : inRanges unprintable c = true :=
      List.any_eq_true.mpr ⟨(low, high), listed, by simp [above, below]⟩
    simp [isPrintable, found]
  rw [isLineBreak_iff] at breaks
  rcases breaks with control | separator | next | paragraph
  · exact hidden 0x0 0x1F (by decide) (by omega) (by omega)
  · exact hidden 0x0 0x1F (by decide) (by omega) (by omega)
  · exact hidden 0x7F 0xA0 (by decide) (by omega) (by omega)
  · exact hidden 0x2028 0x202F (by decide) (by omega) (by omega)

theorem unbroken_hex {digits : Text} (unbroken : Unbroken digits) (width n : Nat) :
    Unbroken (hex digits width n) := by
  intro c member
  rcases mem_hex member with digit | rfl
  · exact unbroken c digit
  · rfl

theorem unbroken_codeEscape {digits : Text} (unbroken : Unbroken digits) (c : Char) :
    Unbroken (codeEscape digits c) := by
  obtain ⟨letter, width, known, written, -⟩ := exists_codeEscape digits c
  have letters : ∀ form ∈ [('x', 2), ('u', 4), ('U', 8)], isLineBreak form.1 = false := by decide
  rw [written, unbroken_cons, unbroken_cons]
  exact ⟨rfl, letters _ known, unbroken_hex unbroken width c.toNat⟩

theorem unbroken_quotedChar {mark : Char} (shown : isLineBreak mark = false) (c : Char) :
    Unbroken (quotedChar mark c) := by
  unfold quotedChar
  split
  next special =>
    have same : c = mark ∨ c = '\\' := by simpa using special
    rcases same with rfl | rfl
    · simp [shown, show isLineBreak '\\' = false from rfl]
    · decide
  next =>
    split_ifs with tab newline carriage printable
    · decide
    · decide
    · decide
    · have plain : isLineBreak c = false := by
        apply Bool.eq_false_iff.mpr
        intro breaks
        simp [isPrintable_eq_false_of_isLineBreak breaks] at printable
      simpa using plain
    · exact unbroken_codeEscape (by decide) c

theorem unbroken_quoted (t : Text) : Unbroken (quoted t) := by
  have mark : isLineBreak (quoteMark t) = false := by
    unfold quoteMark
    split <;> rfl
  have body : Unbroken (t.flatMap (quotedChar (quoteMark t))) := by
    intro d member
    obtain ⟨c, -, inside⟩ := List.mem_flatMap.mp member
    exact unbroken_quotedChar mark c d inside
  simp [quoted, mark, body]

theorem mem_of_mem_removeControlFrom {c : Char} {t : Text} {skip : Nat}
    (member : c ∈ removeControlFrom skip t) : c ∈ t := by
  induction t generalizing skip with
  | nil => cases skip <;> simp [removeControlFrom] at member
  | cons d rest ih =>
    cases skip with
    | succ skip => exact List.mem_cons_of_mem _ (ih member)
    | zero =>
      rw [removeControlFrom] at member
      split at member
      · exact List.mem_cons_of_mem _ (ih member)
      · rcases List.mem_cons.mp member with rfl | later
        · simp
        · exact List.mem_cons_of_mem _ (ih later)

theorem Unbroken.removeControl {t : Text} (unbroken : Unbroken t) : Unbroken (removeControl t) :=
  unbroken.of_subset fun _ member => mem_of_mem_removeControlFrom member

theorem lines_append_newline {t : Text} (unbroken : Unbroken t) (rest : Text) :
    lines (t ++ '\n' :: rest) = t :: lines rest := by
  induction t with
  | nil => simp [lines, show isLineBreak '\n' = true from rfl]
  | cons c t ih =>
    rw [unbroken_cons] at unbroken
    simp [lines, unbroken.1, ih unbroken.2, consFirst]

theorem lines_flatMap_append {ts : List Text} (unbroken : ∀ t ∈ ts, Unbroken t) (rest : Text) :
    lines (ts.flatMap (· ++ ['\n']) ++ rest) = ts ++ lines rest := by
  induction ts with
  | nil => rfl
  | cons t ts ih =>
    rw [List.forall_mem_cons] at unbroken
    have whole : (t :: ts).flatMap (· ++ ['\n']) ++ rest =
        t ++ '\n' :: (ts.flatMap (· ++ ['\n']) ++ rest) := by simp
    rw [whole, lines_append_newline unbroken.1, ih unbroken.2, List.cons_append]

end RequestBinding.Text
