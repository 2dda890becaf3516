import Mathlib.Algebra.Group.Nat.Defs
import Mathlib.Data.List.GetD
import Mathlib.Tactic.SplitIfs
import RequestBinding.Proofs.Text.Trim
import RequestBinding.Schema.Validation
import RequestBinding.Text.Quoted

set_option autoImplicit false

namespace RequestBinding

namespace Text

-- Both cases of the letters are read, although each writer uses one of them.
def hexDigit? (c : Char) : Option Nat :=
  (lowerDigits.idxOf? c).or (upperDigits.idxOf? c)

def hexValue? (t : Text) : Option Nat :=
  t.foldlM (fun value c => (hexDigit? c).map (value * 16 + ·)) 0

def HexDigits (digits : Text) : Prop :=
  ∀ n < 16, hexDigit? (digits.getD n '0') = some n

instance (digits : Text) : Decidable (HexDigits digits) :=
  inferInstanceAs (Decidable (∀ n < 16, hexDigit? (digits.getD n '0') = some n))

theorem hexDigits_lower : HexDigits lowerDigits := by decide

theorem hexDigits_upper : HexDigits upperDigits := by decide

@[simp] theorem length_hex (digits : Text) (width n : Nat) :
    (hex digits width n).length = width := by
  induction width generalizing n with
  | zero => rfl
  | succ width ih => simp [hex, ih]

theorem mem_hex {digits : Text} {width n : Nat} {c : Char} (member : c ∈ hex digits width n) :
    c ∈ digits ∨ c = '0' := by
  induction width generalizing n with
  | zero => simp [hex] at member
  | succ width ih =>
    rw [hex, List.mem_append, List.mem_singleton] at member
    rcases member with front | rfl
    · exact ih front
    · by_cases inside : n % 16 < digits.length
      · rw [List.getD_eq_getElem _ _ inside]
        exact .inl (List.getElem_mem inside)
      · exact .inr (List.getD_eq_default _ _ (by omega))

theorem hexValue?_hex {digits : Text} (known : HexDigits digits) {width n : Nat}
    (fits : n < 16 ^ width) : hexValue? (hex digits width n) = some n := by
  induction width generalizing n with
  | zero =>
    obtain rfl : n = 0 := by simpa using fits
    rfl
  | succ width ih =>
    have front : hexValue? (hex digits width (n / 16)) = some (n / 16) := ih (by omega)
    have last : hexDigit? (digits.getD (n % 16) '0') = some (n % 16) := known _ (by omega)
    have whole : n / 16 * 16 + n % 16 = n := by omega
    rw [hexValue?] at front
    rw [hexValue?, hex, List.foldlM_append, front]
    simp only [List.foldlM_cons, List.foldlM_nil, Option.bind_eq_bind, Option.bind_some, last,
      Option.map_some, whole, Option.pure_def]

def readCode? (width : Nat) (t : Text) : Option (Char × Text) :=
  (hexValue? (t.take width)).map fun n => (Char.ofNat n, t.drop width)

theorem readCode?_hex {digits : Text} (known : HexDigits digits) {width : Nat} {c : Char}
    (fits : c.toNat < 16 ^ width) (rest : Text) :
    readCode? width (hex digits width c.toNat ++ rest) = some (c, rest) := by
  have taken : (hex digits width c.toNat ++ rest).take width = hex digits width c.toNat :=
    List.take_left' (length_hex _ _ _)
  have dropped : (hex digits width c.toNat ++ rest).drop width = rest :=
    List.drop_left' (length_hex _ _ _)
  rw [readCode?, taken, dropped, hexValue?_hex known fits, Option.map_some, Char.ofNat_toNat]

theorem exists_codeEscape (digits : Text) (c : Char) :
    ∃ letter width, (letter, width) ∈ [('x', 2), ('u', 4), ('U', 8)] ∧
      codeEscape digits c = '\\' :: letter :: hex digits width c.toNat ∧ c.toNat < 16 ^ width := by
  have limit : c.toNat < 16 ^ 8 := by
    rcases c.valid with below | above
    · exact Nat.lt_of_lt_of_le below (by decide)
    · exact Nat.lt_of_lt_of_le above.2 (by decide)
  unfold codeEscape
  split_ifs with short medium
  · exact ⟨'x', 2, by simp, rfl, by omega⟩
  · exact ⟨'u', 4, by simp, rfl, by omega⟩
  · exact ⟨'U', 8, by simp, rfl, limit⟩

theorem head?_toDigits {n : Nat} (positive : 0 < n) : (Nat.toDigits 10 n).head? ≠ some '0' := by
  induction n using Nat.strongRecOn with
  | _ n ih =>
    rw [Nat.toDigits_eq_if (by decide)]
    by_cases small : n < 10
    · have digit : ∀ m < 10, 0 < m → Nat.digitChar m ≠ '0' := by decide
      simp [small, digit n small positive]
    · have front := ih (n / 10) (by omega) (by omega)
      have some : Nat.toDigits 10 (n / 10) ≠ [] := Nat.toDigits_ne_nil
      obtain ⟨c, rest, digits⟩ := List.exists_cons_of_ne_nil some
      rw [digits] at front
      simpa [small, digits] using front

theorem all_isDigit_toDigits (n : Nat) : (Nat.toDigits 10 n).all Char.isDigit = true :=
  List.all_eq_true.mpr fun _ member => Nat.isDigit_of_mem_toDigits (by decide) (by decide) member

theorem solid_decimal (n : Int) : Solid (decimal n) := by
  have digits (m : Nat) : Solid (Nat.toDigits 10 m) := by
    apply solid_of_nameChars
    intro c member
    have digit : c.isDigit = true := List.all_eq_true.mp (all_isDigit_toDigits m) c member
    simp [isNameChar, Char.isAlphanum, digit]
  cases n with
  | ofNat m => exact digits m
  | negSucc m => exact List.forall_mem_cons.mpr ⟨by decide, digits (m + 1)⟩

theorem decimal_ne_nil (n : Int) : decimal n ≠ [] := by
  cases n with
  | ofNat m => exact Nat.toDigits_ne_nil
  | negSucc m => exact List.cons_ne_nil _ _

end Text

theorem plainNat?_toDigits (n : Nat) : plainNat? (Nat.toDigits 10 n) = some n := by
  have value :
      (Nat.toDigits 10 n).foldl (fun value c => value * 10 + (c.toNat - '0'.toNat)) 0 = n := by
    have read : Nat.ofDigitChars 10 (Nat.toDigits 10 n) 0 = n := Nat.ofDigitChars_ten_toDigits
    simpa only [Nat.ofDigitChars, Nat.mul_comm 10] using read
  have zero : (Nat.toDigits 10 n).head? = some '0' → Nat.toDigits 10 n = ['0'] := by
    intro leading
    rcases Nat.eq_zero_or_pos n with rfl | positive
    · rfl
    · exact absurd leading (Text.head?_toDigits positive)
  have plain : ¬ (Nat.toDigits 10 n = [] ∨ ¬ (Nat.toDigits 10 n).all Char.isDigit = true ∨
      (Nat.toDigits 10 n).head? = some '0' ∧ Nat.toDigits 10 n ≠ ['0']) := by
    simp only [Nat.toDigits_ne_nil, Text.all_isDigit_toDigits, false_or, not_true_eq_false]
    exact fun leading => leading.2 (zero leading.1)
  rw [plainNat?, if_neg plain, value]

theorem plainInt?_decimal (n : Int) : plainInt? (Text.decimal n) = some n := by
  cases n with
  | ofNat n =>
    have noSign : ∀ rest, Nat.toDigits 10 n ≠ '-' :: rest := by
      intro rest signed
      have digits := Text.all_isDigit_toDigits n
      simp [signed, Char.isDigit] at digits
    rw [Text.decimal, plainInt?]
    · simp [plainNat?_toDigits]
    · exact fun rest => noSign rest
  | negSucc n =>
    simp only [Text.decimal, plainInt?, plainNat?_toDigits]
    rfl

theorem Text.decimal_injective {m n : Int} (same : decimal m = decimal n) : m = n := by
  have read := plainInt?_decimal m
  rw [same, plainInt?_decimal n] at read
  exact (Option.some.inj read).symm

end RequestBinding
