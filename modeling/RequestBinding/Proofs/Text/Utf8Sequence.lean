import RequestBinding.Proofs.Text.Utf8

set_option autoImplicit false

namespace RequestBinding.Utf8

-- Six bits of the code point go to each byte behind the first, in as few bytes as will do.
inductive Sequence : List UInt8 → Prop
  | one {b : UInt8} : b.toNat < 0x80 → Sequence [b]
  | two {b c : UInt8} {u v : Nat} : b.toNat = 0xC0 + u → u < 32 → c.toNat = 0x80 + v → v < 64 →
      0x80 ≤ u * 64 + v → Sequence [b, c]
  | three {b c d : UInt8} {u v w n : Nat} : b.toNat = 0xE0 + u → u < 16 → c.toNat = 0x80 + v →
      v < 64 → d.toNat = 0x80 + w → w < 64 → n = (u * 64 + v) * 64 + w → 0x800 ≤ n →
      ¬ (0xD800 ≤ n ∧ n ≤ 0xDFFF) → Sequence [b, c, d]
  | four {b c d e : UInt8} {u v w x n : Nat} : b.toNat = 0xF0 + u → u < 8 → c.toNat = 0x80 + v →
      v < 64 → d.toNat = 0x80 + w → w < 64 → e.toNat = 0x80 + x → x < 64 →
      n = ((u * 64 + v) * 64 + w) * 64 + x → 0x10000 ≤ n → n ≤ 0x10FFFF → Sequence [b, c, d, e]

theorem Sequence.exists_char {s : List UInt8} (sequence : Sequence s) : ∃ c, s = encodeChar c := by
  cases sequence with
  | @one b ascii => exact ⟨Char.ofNat b.toNat, (encodeChar_one ascii).symm⟩
  | @two b c u v =>
    refine ⟨Char.ofNat (u * 64 + v), (encodeChar_two ?_ ?_ ?_ ?_).symm⟩ <;> omega
  | @three b c d u v w n =>
    refine ⟨Char.ofNat n, (encodeChar_three ?_ ?_ ?_ ?_ ?_ ?_).symm⟩ <;> omega
  | @four b c d e u v w x n =>
    refine ⟨Char.ofNat n, (encodeChar_four ?_ ?_ ?_ ?_ ?_ ?_).symm⟩ <;> omega

theorem sequence_encodeChar (c : Char) : Sequence (encodeChar c) := by
  have valid : c.toNat < 0xD800 ∨ 0xDFFF < c.toNat ∧ c.toNat < 0x110000 := c.valid
  rw [encodeChar]
  generalize c.toNat = n at valid ⊢
  by_cases one : n < 0x80
  · simp only [one, if_true]
    exact .one (by rw [toNat_ofNat] <;> omega)
  by_cases two : n < 0x800
  · simp only [one, two, if_true, if_false]
    apply Sequence.two (toNat_ofNat _) _ (toNat_ofNat _) <;> omega
  by_cases three : n < 0x10000
  · simp only [one, two, three, if_true, if_false]
    apply Sequence.three (toNat_ofNat _) _ (toNat_ofNat _) _ (toNat_ofNat _) _ rfl <;> omega
  · simp only [one, two, three, if_false]
    apply Sequence.four (toNat_ofNat _) _ (toNat_ofNat _) _ (toNat_ofNat _) _ (toNat_ofNat _) _
      rfl <;> omega

def WellFormed (bytes : List UInt8) : Prop :=
  ∃ sequences : List (List UInt8), (∀ s ∈ sequences, Sequence s) ∧ bytes = sequences.flatten

theorem wellFormed_nil : WellFormed [] :=
  ⟨[], by simp, rfl⟩

theorem WellFormed.behind {s bytes : List UInt8} (sequence : Sequence s)
    (wellFormed : WellFormed bytes) : WellFormed (s ++ bytes) := by
  obtain ⟨sequences, each, rfl⟩ := wellFormed
  exact ⟨s :: sequences, List.forall_mem_cons.mpr ⟨sequence, each⟩, rfl⟩

theorem wellFormed_iff {bytes : List UInt8} : WellFormed bytes ↔ ∃ t, bytes = encode t := by
  constructor
  · rintro ⟨sequences, each, rfl⟩
    induction sequences with
    | nil => exact ⟨[], rfl⟩
    | cons s sequences ih =>
      rw [List.forall_mem_cons] at each
      obtain ⟨c, rfl⟩ := each.1.exists_char
      obtain ⟨t, rest⟩ := ih each.2
      exact ⟨c :: t, by simp [encode, rest]⟩
  · rintro ⟨t, rfl⟩
    induction t with
    | nil => exact wellFormed_nil
    | cons c t ih => exact ih.behind (sequence_encodeChar c)

def Pending.Completes (p : Pending) : List UInt8 → Prop
  | [] => False
  | b :: rest =>
    p.admits b = true ∧
      match p.more with
      | 0 => rest = []
      | more + 1 => (p.next b more).Completes rest

theorem Pending.completes_last {p : Pending} (owed : p.more = 0) {b : UInt8} {rest : List UInt8} :
    p.Completes (b :: rest) ↔ p.admits b = true ∧ rest = [] := by
  simp [Completes, owed]

theorem Pending.completes_more {p : Pending} {more : Nat} (owed : p.more = more + 1) {b : UInt8}
    {rest : List UInt8} :
    p.Completes (b :: rest) ↔ p.admits b = true ∧ (p.next b more).Completes rest := by
  simp [Completes, owed]

theorem Pending.exists_completes {p : Pending} (low : p.lower ≤ p.upper) (high : p.upper < 256) :
    ∃ tail, p.Completes tail := by
  induction owed : p.more generalizing p with
  | zero =>
    have admitted : p.admits (UInt8.ofNat p.lower) = true := admits_ofNat (by omega) (by omega) low
    exact ⟨_, (completes_last owed).mpr ⟨admitted, rfl⟩⟩
  | succ more ih =>
    have admitted : p.admits (UInt8.ofNat p.lower) = true := admits_ofNat (by omega) (by omega) low
    obtain ⟨rest, completed⟩ : ∃ rest, (p.next (UInt8.ofNat p.lower) more).Completes rest :=
      ih (by simp [next]) (by simp [next]) rfl
    exact ⟨_, (completes_more owed).mpr ⟨admitted, completed⟩⟩

section Leads

variable {b : UInt8} {tail : List UInt8}

theorem sequence_one_iff (lead : b.toNat < 0x80) : Sequence (b :: tail) ↔ tail = [] := by
  constructor
  · intro sequence
    cases sequence <;> first | rfl | omega
  · rintro rfl
    exact .one lead

-- A second byte would do for a first below U+00C2, but the character has a shorter form.
theorem sequence_two_iff (lead : 0x80 ≤ b.toNat ∧ b.toNat < 0xE0) :
    Sequence (b :: tail) ↔
      0xC2 ≤ b.toNat ∧ ∃ c, tail = [c] ∧ 0x80 ≤ c.toNat ∧ c.toNat ≤ 0xBF := by
  constructor
  · intro sequence
    cases sequence with
    | one ascii => omega
    | @two _ c u v => exact ⟨by omega, c, rfl, by omega, by omega⟩
    | three => omega
    | four => omega
  · rintro ⟨low, c, rfl, above, below⟩
    apply Sequence.two (Nat.add_sub_of_le _).symm _ (Nat.add_sub_of_le above).symm <;> omega

theorem sequence_three_iff (lead : 0xE0 ≤ b.toNat ∧ b.toNat < 0xF0) :
    Sequence (b :: tail) ↔ ∃ c d, tail = [c, d] ∧ 0x80 ≤ c.toNat ∧ c.toNat ≤ 0xBF ∧
      (b.toNat = 0xE0 → 0xA0 ≤ c.toNat) ∧ (b.toNat = 0xED → c.toNat ≤ 0x9F) ∧
      0x80 ≤ d.toNat ∧ d.toNat ≤ 0xBF := by
  constructor
  · intro sequence
    cases sequence with
    | one ascii => omega
    | two => omega
    | @three _ c d => exact ⟨c, d, rfl, by omega⟩
    | four => omega
  · rintro ⟨c, d, rfl, low, high, least, surrogate, low', high'⟩
    apply Sequence.three (Nat.add_sub_of_le lead.1).symm _ (Nat.add_sub_of_le low).symm _
      (Nat.add_sub_of_le low').symm _ rfl <;> omega

theorem sequence_four_iff (lead : 0xF0 ≤ b.toNat) :
    Sequence (b :: tail) ↔ b.toNat ≤ 0xF4 ∧ ∃ c d e, tail = [c, d, e] ∧
      0x80 ≤ c.toNat ∧ c.toNat ≤ 0xBF ∧ (b.toNat = 0xF0 → 0x90 ≤ c.toNat) ∧
      (b.toNat = 0xF4 → c.toNat ≤ 0x8F) ∧ 0x80 ≤ d.toNat ∧ d.toNat ≤ 0xBF ∧
      0x80 ≤ e.toNat ∧ e.toNat ≤ 0xBF := by
  constructor
  · intro sequence
    cases sequence with
    | one ascii => omega
    | two => omega
    | three => omega
    | @four _ c d e => exact ⟨by omega, c, d, e, rfl, by omega⟩
  · rintro ⟨most, c, d, e, rfl, low, high, least, greatest, low', high', low'', high''⟩
    apply Sequence.four (Nat.add_sub_of_le lead).symm _ (Nat.add_sub_of_le low).symm _
      (Nat.add_sub_of_le low').symm _ (Nat.add_sub_of_le low'').symm _ rfl <;> omega

variable {first : UInt8} {width value lower upper : Nat}

theorem Pending.completes_one_iff :
    (⟨first, width, value, lower, upper, 0⟩ : Pending).Completes tail ↔
      ∃ c, tail = [c] ∧ lower ≤ c.toNat ∧ c.toNat ≤ upper := by
  match tail with
  | [] => simp [Completes]
  | [c] => simp [Completes, admits_iff]
  | c :: d :: rest => simp [Completes]

theorem Pending.completes_two_iff :
    (⟨first, width, value, lower, upper, 1⟩ : Pending).Completes tail ↔
      ∃ c d, tail = [c, d] ∧ lower ≤ c.toNat ∧ c.toNat ≤ upper ∧
        0x80 ≤ d.toNat ∧ d.toNat ≤ 0xBF := by
  match tail with
  | [] => simp [Completes]
  | [c] => simp [Completes]
  | [c, d] => simp [Completes, admits_iff, next, and_assoc]
  | c :: d :: e :: rest => simp [Completes, next]

theorem Pending.completes_three_iff :
    (⟨first, width, value, lower, upper, 2⟩ : Pending).Completes tail ↔
      ∃ c d e, tail = [c, d, e] ∧ lower ≤ c.toNat ∧ c.toNat ≤ upper ∧
        0x80 ≤ d.toNat ∧ d.toNat ≤ 0xBF ∧ 0x80 ≤ e.toNat ∧ e.toNat ≤ 0xBF := by
  match tail with
  | [] => simp [Completes]
  | [c] => simp [Completes]
  | [c, d] => simp [Completes, next]
  | [c, d, e] => simp [Completes, admits_iff, next, and_assoc]
  | c :: d :: e :: f :: rest => simp [Completes, next]

theorem sequence_iff_completes {p : Pending} (found : Pending.ofFirst? b = some p) :
    Sequence (b :: tail) ↔ p.Completes tail := by
  simp only [Pending.ofFirst?] at found
  split_ifs at found
  all_goals obtain rfl := Option.some.inj found
  · rw [Pending.completes_one_iff, sequence_two_iff (by omega)]
    exact and_iff_right (by omega)
  iterate 3
    rw [Pending.completes_two_iff, sequence_three_iff (by omega)]
    refine exists_congr fun c => exists_congr fun d => and_congr_right fun _ => ?_
    omega
  iterate 3
    rw [Pending.completes_three_iff, sequence_four_iff (by omega), and_iff_right (by omega)]
    refine exists_congr fun c => exists_congr fun d => exists_congr fun e =>
      and_congr_right fun _ => ?_
    omega

theorem not_sequence_of_ofFirst? (high : 0x80 ≤ b.toNat) (unknown : Pending.ofFirst? b = none) :
    ¬ Sequence (b :: tail) := by
  intro sequence
  simp only [Pending.ofFirst?] at unknown
  split_ifs at unknown
  cases sequence <;> omega

end Leads

theorem Pending.Completes.eq_nil_of_append {p : Pending} {tail more : List UInt8}
    (completed : p.Completes tail) (again : p.Completes (tail ++ more)) : more = [] := by
  induction tail generalizing p with
  | nil => exact completed.elim
  | cons b rest ih =>
    rw [List.cons_append] at again
    cases owed : p.more with
    | zero =>
      rw [completes_last owed] at completed again
      exact (List.append_eq_nil_iff.mp again.2).2
    | succ left =>
      rw [completes_more owed] at completed again
      exact ih completed.2 again.2

theorem Sequence.eq_nil_of_append {s more : List UInt8} (sequence : Sequence s)
    (again : Sequence (s ++ more)) : more = [] := by
  cases s with
  | nil => nomatch sequence
  | cons b tail =>
    rw [List.cons_append] at again
    by_cases ascii : b.toNat < 0x80
    · rw [sequence_one_iff ascii] at again
      exact (List.append_eq_nil_iff.mp again).2
    · cases found : Pending.ofFirst? b with
      | none => exact absurd sequence (not_sequence_of_ofFirst? (by omega) found)
      | some p =>
        rw [sequence_iff_completes found] at sequence again
        exact sequence.eq_nil_of_append again

end RequestBinding.Utf8
