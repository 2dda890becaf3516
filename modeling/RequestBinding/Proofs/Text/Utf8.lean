import Mathlib.Tactic.SplitIfs
import RequestBinding.Text.Utf8

set_option autoImplicit false

namespace RequestBinding.Utf8

theorem decodeFrom_first {b : UInt8} {p : Pending} (position : Nat) (rest : List UInt8)
    (high : 0x80 ≤ b.toNat) (found : Pending.ofFirst? b = some p) :
    decodeFrom position none (b :: rest) = decodeFrom (position + 1) (some p) rest := by
  have notAscii : ¬ b.toNat < 0x80 := by omega
  simp [decodeFrom, notAscii, found]

theorem decodeFrom_more {b : UInt8} {p : Pending} {more : Nat} (position : Nat) (rest : List UInt8)
    (admitted : p.admits b = true) (owed : p.more = more + 1) :
    decodeFrom position (some p) (b :: rest) =
      decodeFrom (position + 1) (some (p.next b more)) rest := by
  simp [decodeFrom, admitted, owed]

theorem decodeFrom_last {b : UInt8} {p : Pending} (position : Nat) (rest : List UInt8)
    (admitted : p.admits b = true) (owed : p.more = 0) :
    decodeFrom position (some p) (b :: rest) =
      (decodeFrom (position + 1) none rest).map (Char.ofNat (p.valueWith b) :: ·) := by
  simp [decodeFrom, admitted, owed]

theorem toNat_ofNat {n : Nat} (byte : n < 256) : (UInt8.ofNat n).toNat = n := by
  simp [Nat.mod_eq_of_lt byte]

theorem admits_ofNat {p : Pending} {n : Nat} (byte : n < 256) (low : p.lower ≤ n)
    (high : n ≤ p.upper) : p.admits (UInt8.ofNat n) = true := by
  simp only [Pending.admits, toNat_ofNat byte, Bool.and_eq_true, decide_eq_true_eq]
  exact ⟨low, high⟩

theorem ofFirst?_two {n : Nat} (low : 0x80 ≤ n) (high : n < 0x800) :
    Pending.ofFirst? (UInt8.ofNat (0xC0 + n / 64)) =
      some ⟨UInt8.ofNat (0xC0 + n / 64), 1, n / 64, 0x80, 0xBF, 0⟩ := by
  have byte : (UInt8.ofNat (0xC0 + n / 64)).toNat = 0xC0 + n / 64 := toNat_ofNat (by omega)
  have inRange : 0xC2 ≤ 0xC0 + n / 64 ∧ 0xC0 + n / 64 ≤ 0xDF := by omega
  simp only [Pending.ofFirst?, byte, inRange, if_true, and_self, Nat.add_sub_cancel_left]

theorem ofFirst?_three {n : Nat} (low : 0x800 ≤ n) (high : n < 0x10000)
    (valid : n < 0xD800 ∨ 0xDFFF < n) :
    ∃ lower upper, Pending.ofFirst? (UInt8.ofNat (0xE0 + n / 4096)) =
        some ⟨UInt8.ofNat (0xE0 + n / 4096), 1, n / 4096, lower, upper, 1⟩ ∧
      lower ≤ 0x80 + n / 64 % 64 ∧ 0x80 + n / 64 % 64 ≤ upper := by
  have byte : (UInt8.ofNat (0xE0 + n / 4096)).toNat = 0xE0 + n / 4096 := toNat_ofNat (by omega)
  have notTwo : ¬ (0xC2 ≤ 0xE0 + n / 4096 ∧ 0xE0 + n / 4096 ≤ 0xDF) := by omega
  simp only [Pending.ofFirst?, byte, notTwo, if_false]
  by_cases least : n / 4096 = 0
  · exact ⟨0xA0, 0xBF, by simp [least], by omega, by omega⟩
  · by_cases surrogate : n / 4096 = 13
    · exact ⟨0x80, 0x9F, by simp [surrogate], by omega, by omega⟩
    · have notLeast : ¬ 0xE0 + n / 4096 = 0xE0 := by omega
      have notSurrogate : ¬ 0xE0 + n / 4096 = 0xED := by omega
      have inRange : 0xE1 ≤ 0xE0 + n / 4096 ∧ 0xE0 + n / 4096 ≤ 0xEF := by omega
      refine ⟨0x80, 0xBF, ?_, by omega, by omega⟩
      simp only [notLeast, notSurrogate, inRange, if_true, if_false, and_self,
        Nat.add_sub_cancel_left]

theorem ofFirst?_four {n : Nat} (low : 0x10000 ≤ n) (high : n < 0x110000) :
    ∃ lower upper, Pending.ofFirst? (UInt8.ofNat (0xF0 + n / 262144)) =
        some ⟨UInt8.ofNat (0xF0 + n / 262144), 1, n / 262144, lower, upper, 2⟩ ∧
      lower ≤ 0x80 + n / 4096 % 64 ∧ 0x80 + n / 4096 % 64 ≤ upper := by
  have byte : (UInt8.ofNat (0xF0 + n / 262144)).toNat = 0xF0 + n / 262144 :=
    toNat_ofNat (by omega)
  have notTwo : ¬ (0xC2 ≤ 0xF0 + n / 262144 ∧ 0xF0 + n / 262144 ≤ 0xDF) := by omega
  have notLeast : ¬ 0xF0 + n / 262144 = 0xE0 := by omega
  have notSurrogate : ¬ 0xF0 + n / 262144 = 0xED := by omega
  have notThree : ¬ (0xE1 ≤ 0xF0 + n / 262144 ∧ 0xF0 + n / 262144 ≤ 0xEF) := by omega
  simp only [Pending.ofFirst?, byte, notTwo, notLeast, notSurrogate, notThree, if_false]
  by_cases least : n / 262144 = 0
  · exact ⟨0x90, 0xBF, by simp [least], by omega, by omega⟩
  · by_cases greatest : n / 262144 = 4
    · exact ⟨0x80, 0x8F, by simp [greatest], by omega, by omega⟩
    · have notZero : ¬ 0xF0 + n / 262144 = 0xF0 := by omega
      have inRange : 0xF1 ≤ 0xF0 + n / 262144 ∧ 0xF0 + n / 262144 ≤ 0xF3 := by omega
      refine ⟨0x80, 0xBF, ?_, by omega, by omega⟩
      simp only [notZero, inRange, if_true, if_false, and_self, Nat.add_sub_cancel_left]

theorem valueWith_ofNat (p : Pending) {n : Nat} (tail : n < 64) :
    p.valueWith (UInt8.ofNat (0x80 + n)) = p.value * 64 + n := by
  have byte : (UInt8.ofNat (0x80 + n)).toNat = 0x80 + n := toNat_ofNat (by omega)
  unfold Pending.valueWith
  generalize (UInt8.ofNat (0x80 + n)).toNat = m at byte ⊢
  omega

theorem decodeFrom_two {n : Nat} (position : Nat) (rest : List UInt8) (low : 0x80 ≤ n)
    (high : n < 0x800) :
    decodeFrom position none
        (UInt8.ofNat (0xC0 + n / 64) :: UInt8.ofNat (0x80 + n % 64) :: rest) =
      (decodeFrom (position + 2) none rest).map (Char.ofNat n :: ·) := by
  have value : n / 64 * 64 + n % 64 = n := by omega
  rw [decodeFrom_first _ _ (by rw [toNat_ofNat] <;> omega) (ofFirst?_two low high),
    decodeFrom_last _ _ (admits_ofNat (by omega) (by simp) (by simp; omega)) rfl,
    valueWith_ofNat _ (by omega), value]

theorem decodeFrom_three {n : Nat} (position : Nat) (rest : List UInt8) (low : 0x800 ≤ n)
    (high : n < 0x10000) (valid : n < 0xD800 ∨ 0xDFFF < n) :
    decodeFrom position none
        (UInt8.ofNat (0xE0 + n / 4096) :: UInt8.ofNat (0x80 + n / 64 % 64) ::
          UInt8.ofNat (0x80 + n % 64) :: rest) =
      (decodeFrom (position + 3) none rest).map (Char.ofNat n :: ·) := by
  have value : (n / 4096 * 64 + n / 64 % 64) * 64 + n % 64 = n := by omega
  obtain ⟨lower, upper, first, above, below⟩ := ofFirst?_three low high valid
  rw [decodeFrom_first _ _ (by rw [toNat_ofNat] <;> omega) first,
    decodeFrom_more _ _ (admits_ofNat (by omega) above below) rfl,
    decodeFrom_last _ _ (admits_ofNat (by omega) (by simp [Pending.next])
      (by simp [Pending.next]; omega)) rfl,
    valueWith_ofNat _ (by omega), Pending.next, valueWith_ofNat _ (by omega), value]

theorem decodeFrom_four {n : Nat} (position : Nat) (rest : List UInt8) (low : 0x10000 ≤ n)
    (high : n < 0x110000) :
    decodeFrom position none
        (UInt8.ofNat (0xF0 + n / 262144) :: UInt8.ofNat (0x80 + n / 4096 % 64) ::
          UInt8.ofNat (0x80 + n / 64 % 64) :: UInt8.ofNat (0x80 + n % 64) :: rest) =
      (decodeFrom (position + 4) none rest).map (Char.ofNat n :: ·) := by
  have value :
      ((n / 262144 * 64 + n / 4096 % 64) * 64 + n / 64 % 64) * 64 + n % 64 = n := by omega
  obtain ⟨lower, upper, first, above, below⟩ := ofFirst?_four low high
  rw [decodeFrom_first _ _ (by rw [toNat_ofNat] <;> omega) first,
    decodeFrom_more _ _ (admits_ofNat (by omega) above below) rfl,
    decodeFrom_more _ _ (admits_ofNat (by omega) (by simp [Pending.next])
      (by simp [Pending.next]; omega)) rfl,
    decodeFrom_last _ _ (admits_ofNat (by omega) (by simp [Pending.next])
      (by simp [Pending.next]; omega)) rfl,
    valueWith_ofNat _ (by omega), Pending.next, valueWith_ofNat _ (by omega), Pending.next,
    valueWith_ofNat _ (by omega), value]

theorem decodeFrom_encodeChar (position : Nat) (c : Char) (rest : List UInt8) :
    ∃ next, decodeFrom position none (encodeChar c ++ rest) =
      (decodeFrom next none rest).map (c :: ·) := by
  have valid : c.toNat < 0xD800 ∨ 0xDFFF < c.toNat ∧ c.toNat < 0x110000 := by
    have scalar := c.valid
    simp only [UInt32.isValidChar, Nat.isValidChar] at scalar
    exact scalar
  have same : Char.ofNat c.toNat = c := Char.ofNat_toNat c
  rw [encodeChar]
  generalize c.toNat = n at valid same ⊢
  subst same
  by_cases one : n < 0x80
  · have byte : (UInt8.ofNat n).toNat = n := toNat_ofNat (by omega)
    exact ⟨position + 1, by simp [decodeFrom, byte, one]⟩
  by_cases two : n < 0x800
  · simp only [one, two, if_true, if_false]
    exact ⟨position + 2, decodeFrom_two position rest (by omega) two⟩
  by_cases three : n < 0x10000
  · simp only [one, two, three, if_true, if_false]
    exact ⟨position + 3,
      decodeFrom_three position rest (by omega) three (valid.imp id And.left)⟩
  · simp only [one, two, three, if_false]
    exact ⟨position + 4, decodeFrom_four position rest (by omega) (by omega)⟩

theorem decodeFrom_encode (position : Nat) (t : Text) :
    decodeFrom position none (encode t) = .ok t := by
  induction t generalizing position with
  | nil => rfl
  | cons c rest ih =>
    obtain ⟨next, step⟩ := decodeFrom_encodeChar position c (encode rest)
    rw [ih next] at step
    exact step

theorem decode_encode (t : Text) : decode (encode t) = .ok t :=
  decodeFrom_encode 0 t

theorem toNat_ofNat_of_valid {n : Nat} (valid : n < 0xD800 ∨ 0xDFFF < n ∧ n < 0x110000) :
    (Char.ofNat n).toNat = n := by
  have scalar : n.isValidChar := valid
  rw [Char.ofNat, dif_pos scalar]
  rfl

theorem encodeChar_one {b : UInt8} (ascii : b.toNat < 0x80) :
    encodeChar (Char.ofNat b.toNat) = [b] := by
  have valid : (Char.ofNat b.toNat).toNat = b.toNat := toNat_ofNat_of_valid (by omega)
  simp [encodeChar, valid, ascii]

theorem encodeChar_two {b c : UInt8} {n : Nat} (low : 0x80 ≤ n) (high : n < 0x800)
    (first : 0xC0 + n / 64 = b.toNat) (last : 0x80 + n % 64 = c.toNat) :
    encodeChar (Char.ofNat n) = [b, c] := by
  have valid : (Char.ofNat n).toNat = n := toNat_ofNat_of_valid (by omega)
  have notOne : ¬ n < 0x80 := by omega
  simp only [encodeChar, valid, notOne, high, if_true, if_false, first, last, UInt8.ofNat_toNat]

theorem encodeChar_three {b c d : UInt8} {n : Nat} (low : 0x800 ≤ n) (high : n < 0x10000)
    (scalar : n < 0xD800 ∨ 0xDFFF < n) (first : 0xE0 + n / 4096 = b.toNat)
    (second : 0x80 + n / 64 % 64 = c.toNat) (last : 0x80 + n % 64 = d.toNat) :
    encodeChar (Char.ofNat n) = [b, c, d] := by
  have valid : (Char.ofNat n).toNat = n := toNat_ofNat_of_valid (by omega)
  have notOne : ¬ n < 0x80 := by omega
  have notTwo : ¬ n < 0x800 := by omega
  simp only [encodeChar, valid, notOne, notTwo, high, if_true, if_false, first, second, last,
    UInt8.ofNat_toNat]

theorem encodeChar_four {b c d e : UInt8} {n : Nat} (low : 0x10000 ≤ n) (high : n < 0x110000)
    (first : 0xF0 + n / 262144 = b.toNat) (second : 0x80 + n / 4096 % 64 = c.toNat)
    (third : 0x80 + n / 64 % 64 = d.toNat) (last : 0x80 + n % 64 = e.toNat) :
    encodeChar (Char.ofNat n) = [b, c, d, e] := by
  have valid : (Char.ofNat n).toNat = n := toNat_ofNat_of_valid (by omega)
  have notOne : ¬ n < 0x80 := by omega
  have notTwo : ¬ n < 0x800 := by omega
  have notThree : ¬ n < 0x10000 := by omega
  simp only [encodeChar, valid, notOne, notTwo, notThree, if_false, first, second, third, last,
    UInt8.ofNat_toNat]

-- What a first byte announces, as far as the character depends on it.
inductive Pending.Opens (b : UInt8) : Pending → Prop
  | two {value lower upper : Nat} : 0xC2 ≤ b.toNat → b.toNat ≤ 0xDF → value = b.toNat - 0xC0 →
      0x80 ≤ lower → upper ≤ 0xBF → Opens b ⟨b, 1, value, lower, upper, 0⟩
  | three {value lower upper : Nat} : 0xE0 ≤ b.toNat → b.toNat ≤ 0xEF → value = b.toNat - 0xE0 →
      0x80 ≤ lower → upper ≤ 0xBF → (b.toNat = 0xE0 → 0xA0 ≤ lower) →
      (b.toNat = 0xED → upper ≤ 0x9F) → Opens b ⟨b, 1, value, lower, upper, 1⟩
  | four {value lower upper : Nat} : 0xF0 ≤ b.toNat → b.toNat ≤ 0xF4 → value = b.toNat - 0xF0 →
      0x80 ≤ lower → upper ≤ 0xBF → (b.toNat = 0xF0 → 0x90 ≤ lower) →
      (b.toNat = 0xF4 → upper ≤ 0x8F) → Opens b ⟨b, 1, value, lower, upper, 2⟩

theorem opens_of_ofFirst? {b : UInt8} {p : Pending} (found : Pending.ofFirst? b = some p) :
    p.Opens b := by
  simp only [Pending.ofFirst?] at found
  split_ifs at found
  all_goals obtain rfl := Option.some.inj found
  · apply Pending.Opens.two <;> omega
  · apply Pending.Opens.three <;> omega
  · apply Pending.Opens.three <;> omega
  · apply Pending.Opens.three <;> omega
  · apply Pending.Opens.four <;> omega
  · apply Pending.Opens.four <;> omega
  · apply Pending.Opens.four <;> omega

def Pending.Leads (seen : List UInt8) : (more : Nat) → Pending → Prop
  | 0, p => ∀ b, p.admits b = true → seen ++ [b] = encodeChar (Char.ofNat (p.valueWith b))
  | more + 1, p => ∀ b, p.admits b = true → (p.next b more).Leads (seen ++ [b]) more

theorem admits_iff {p : Pending} {b : UInt8} :
    p.admits b = true ↔ p.lower ≤ b.toNat ∧ b.toNat ≤ p.upper := by
  simp [Pending.admits]

theorem Pending.Opens.leads {b : UInt8} {p : Pending} (opens : p.Opens b) : p.Leads [b] p.more := by
  cases opens with
  | @two value lower upper low high opened above below =>
    intro c admitted
    have bounds : lower ≤ c.toNat ∧ c.toNat ≤ upper := admits_iff.mp admitted
    change [b, c] = encodeChar (Char.ofNat (value * 64 + (c.toNat - 0x80)))
    apply Eq.symm
    apply encodeChar_two <;> omega
  | @three value lower upper low high opened above below least surrogate =>
    intro c admitted d admittedLast
    have bounds : lower ≤ c.toNat ∧ c.toNat ≤ upper := admits_iff.mp admitted
    have tail : 0x80 ≤ d.toNat ∧ d.toNat ≤ 0xBF := admits_iff.mp admittedLast
    change [b, c, d] =
      encodeChar (Char.ofNat ((value * 64 + (c.toNat - 0x80)) * 64 + (d.toNat - 0x80)))
    apply Eq.symm
    apply encodeChar_three <;> omega
  | @four value lower upper low high opened above below least greatest =>
    intro c admitted d admittedNext e admittedLast
    have bounds : lower ≤ c.toNat ∧ c.toNat ≤ upper := admits_iff.mp admitted
    have next : 0x80 ≤ d.toNat ∧ d.toNat ≤ 0xBF := admits_iff.mp admittedNext
    have tail : 0x80 ≤ e.toNat ∧ e.toNat ≤ 0xBF := admits_iff.mp admittedLast
    change [b, c, d, e] = encodeChar (Char.ofNat
      (((value * 64 + (c.toNat - 0x80)) * 64 + (d.toNat - 0x80)) * 64 + (e.toNat - 0x80)))
    apply Eq.symm
    apply encodeChar_four <;> omega

theorem eq_encode_of_decodeFrom (bytes : List UInt8) (position : Nat) (t : Text) :
    (decodeFrom position none bytes = .ok t → bytes = encode t) ∧
      ∀ (p : Pending) (seen : List UInt8), p.Leads seen p.more →
        decodeFrom position (some p) bytes = .ok t → seen ++ bytes = encode t := by
  have read {head : Char} {t : Text} {x : Except Fault Text}
      (done : x.map (head :: ·) = .ok t) : ∃ rest, x = .ok rest ∧ t = head :: rest := by
    cases x with
    | error fault => nomatch done
    | ok rest => exact ⟨rest, rfl, (Except.ok.inj done).symm⟩
  induction bytes generalizing position t with
  | nil =>
    constructor
    · intro done
      obtain rfl := Except.ok.inj done
      rfl
    · intro p seen _ done
      nomatch done
  | cons b rest ih =>
    constructor
    · intro done
      by_cases ascii : b.toNat < 0x80
      · simp only [decodeFrom, ascii, if_true] at done
        obtain ⟨more, behind, rfl⟩ := read done
        have tail := (ih _ _).1 behind
        simp [encode, encodeChar_one ascii, tail]
      · cases found : Pending.ofFirst? b with
        | none => simp [decodeFrom, ascii, found] at done
        | some p =>
          rw [decodeFrom_first _ _ (by omega) found] at done
          exact (ih _ _).2 p [b] (opens_of_ofFirst? found).leads done
    · intro p seen leads done
      cases admitted : p.admits b with
      | false => simp [decodeFrom, admitted] at done
      | true =>
        cases owed : p.more with
        | zero =>
          rw [decodeFrom_last _ _ admitted owed] at done
          obtain ⟨more, behind, rfl⟩ := read done
          rw [owed] at leads
          have head := leads b admitted
          have tail := (ih _ _).1 behind
          simp [encode, ← head, tail]
        | succ more =>
          rw [decodeFrom_more _ _ admitted owed] at done
          rw [owed] at leads
          have whole := (ih _ _).2 (p.next b more) (seen ++ [b]) (leads b admitted) done
          simpa using whole

theorem decode_eq_ok_iff {bytes : List UInt8} {t : Text} :
    decode bytes = .ok t ↔ bytes = encode t := by
  constructor
  · exact (eq_encode_of_decodeFrom bytes 0 t).1
  · rintro rfl
    exact decode_encode t

theorem exists_decode_eq_error_iff {bytes : List UInt8} :
    (∃ fault, decode bytes = .error fault) ↔ ∀ t, bytes ≠ encode t := by
  simp only [ne_eq, ← decode_eq_ok_iff]
  cases decode bytes <;> simp

end RequestBinding.Utf8
