import Mathlib.Tactic.SplitIfs
import RequestBinding.Datum.Basic
import RequestBinding.Proofs.Datum.JsonGrammar
import RequestBinding.Proofs.Text.Trim

set_option autoImplicit false

namespace RequestBinding.Json

open Datum

theorem Characters.jsonChar {t s rest : Text} (behind : Characters t s rest) (c : Char) :
    Characters (jsonChar c ++ t) (c :: s) rest := by
  unfold Datum.jsonChar
  split_ifs with quoted newline carriage tab backspace feed low
  · simp only [Bool.or_eq_true, decide_eq_true_eq] at quoted
    rcases quoted with rfl | rfl <;> exact .escaped rfl behind
  · exact newline ▸ .escaped rfl behind
  · exact carriage ▸ .escaped rfl behind
  · exact tab ▸ .escaped rfl behind
  · exact backspace ▸ .escaped rfl behind
  · exact feed ▸ .escaped rfl behind
  · have value : Text.hexValue? (Text.hex Text.lowerDigits 4 c.toNat) = some c.toNat :=
      Text.hexValue?_hex Text.hexDigits_lower (by omega)
    have code := Characters.code value (.inl (by omega)) behind
    rwa [Char.ofNat_toNat] at code
  · simp only [Bool.or_eq_true, decide_eq_true_eq, not_or] at quoted
    exact .plain quoted.1 quoted.2 (by omega) behind

section Elements

variable {α : Type} {Element : Text → α → Text → Prop} {bracket : Char} {write : α → Text}

end Elements

end RequestBinding.Json
