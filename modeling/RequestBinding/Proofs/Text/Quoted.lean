import Mathlib.Tactic.SplitIfs
import RequestBinding.Proofs.Text.Numeral
import RequestBinding.Text.Quoted

set_option autoImplicit false

namespace RequestBinding.Text

def quoteMarks : Text := ['\'', '"']

theorem quoteMark_mem (t : Text) : quoteMark t ∈ quoteMarks := by
  unfold quoteMark
  split <;> decide

-- Between quotes a letter behind a backslash stands for another character, or says how many digits
-- follow, and anything else stands for itself.
def readQuotedChar? : Text → Option (Char × Text)
  | '\\' :: 't' :: rest => some ('\t', rest)
  | '\\' :: 'n' :: rest => some ('\n', rest)
  | '\\' :: 'r' :: rest => some ('\r', rest)
  | '\\' :: 'x' :: rest => readCode? 2 rest
  | '\\' :: 'u' :: rest => readCode? 4 rest
  | '\\' :: 'U' :: rest => readCode? 8 rest
  | '\\' :: c :: rest => some (c, rest)
  | c :: rest => some (c, rest)
  | [] => none

theorem readQuotedChar?_plain {c : Char} (plain : c ≠ '\\') (rest : Text) :
    readQuotedChar? (c :: rest) = some (c, rest) := by
  unfold readQuotedChar?
  split <;> simp_all

theorem readQuotedChar?_codeEscape (c : Char) (rest : Text) :
    readQuotedChar? (codeEscape lowerDigits c ++ rest) = some (c, rest) := by
  obtain ⟨letter, width, known, written, fits⟩ := exists_codeEscape lowerDigits c
  have code := readCode?_hex hexDigits_lower fits rest
  rw [written]
  simp only [List.mem_cons, Prod.mk.injEq, List.not_mem_nil, or_false] at known
  rcases known with ⟨rfl, rfl⟩ | ⟨rfl, rfl⟩ | ⟨rfl, rfl⟩ <;> exact code

theorem readQuotedChar?_quotedChar {mark : Char} (known : mark ∈ quoteMarks) (c : Char)
    (rest : Text) : readQuotedChar? (quotedChar mark c ++ rest) = some (c, rest) := by
  unfold quotedChar
  split_ifs with special tab newline carriage printable
  · simp only [Bool.or_eq_true, decide_eq_true_eq] at special
    simp only [quoteMarks, List.mem_cons, List.not_mem_nil, or_false] at known
    rcases special with rfl | rfl
    · rcases known with rfl | rfl <;> rfl
    · rfl
  · exact tab ▸ rfl
  · exact newline ▸ rfl
  · exact carriage ▸ rfl
  · have plain : c ≠ '\\' := fun slash => special (by simp [slash])
    exact readQuotedChar?_plain plain rest
  · exact readQuotedChar?_codeEscape c rest

theorem flatMap_quotedChar_injective {mark : Char} (known : mark ∈ quoteMarks) {t u : Text}
    (same : t.flatMap (quotedChar mark) = u.flatMap (quotedChar mark)) : t = u := by
  have reads (c : Char) (rest : Text) :
      readQuotedChar? ((c :: rest).flatMap (quotedChar mark)) =
        some (c, rest.flatMap (quotedChar mark)) := by
    rw [List.flatMap_cons]
    exact readQuotedChar?_quotedChar known c _
  have first := congrArg readQuotedChar? same
  induction t generalizing u with
  | nil =>
    cases u with
    | nil => rfl
    | cons d u =>
      rw [reads] at first
      exact nomatch first
  | cons c t ih =>
    cases u with
    | nil =>
      rw [reads] at first
      exact nomatch first
    | cons d u =>
      rw [reads, reads, Option.some.injEq, Prod.mk.injEq] at first
      rw [first.1, ih first.2 (congrArg readQuotedChar? first.2)]

theorem quoted_injective {t u : Text} (same : quoted t = quoted u) : t = u := by
  obtain ⟨marks, bodies⟩ := List.cons.inj same
  rw [marks] at bodies
  exact flatMap_quotedChar_injective (quoteMark_mem u) (List.append_cancel_right bodies)

end RequestBinding.Text
