import Mathlib.Tactic.SplitIfs
import RequestBinding.Datum.YamlScalar
import RequestBinding.Proofs.Text.Numeral
import RequestBinding.Proofs.Text.Trim

set_option autoImplicit false

namespace RequestBinding

namespace Text

def LineEnds (rest : Text) : Prop :=
  ∀ c ∈ rest.head?, c = '\n'

theorem line_cancel {s t r r' : Text} (oneLine : '\n' ∉ s) (oneLine' : '\n' ∉ t) (ends : LineEnds r)
    (ends' : LineEnds r') (same : s ++ r = t ++ r') : s = t ∧ r = r' := by
  have inside {s : Text} (oneLine : '\n' ∉ s) : ∀ c ∈ s, decide (c ≠ '\n') = true := by
    intro c member
    simpa using fun newline : c = '\n' => oneLine (newline ▸ member)
  have stop {r : Text} (ends : LineEnds r) : ∀ c ∈ r.head?, decide (c ≠ '\n') = false := by
    intro c first
    simp [ends c first]
  exact stop_cancel (inside oneLine) (inside oneLine') (stop ends) (stop ends') same

end Text

namespace Yaml

open Text

-- What stands behind a backslash, unless it is the end of a line.
def readEscape? : Text → Option (Char × Text)
  | '"' :: rest => some ('"', rest)
  | '\\' :: rest => some ('\\', rest)
  | '0' :: rest => some ('\x00', rest)
  | 'a' :: rest => some ('\x07', rest)
  | 'b' :: rest => some ('\x08', rest)
  | 'e' :: rest => some ('\x1b', rest)
  | 'x' :: rest => readCode? 2 rest
  | 'u' :: rest => readCode? 4 rest
  | 'U' :: rest => readCode? 8 rest
  | _ => none

-- A line that ends in a backslash goes on behind the spaces of the next one.
inductive Quoted : Text → Text → Text → Prop
  | close {rest : Text} : Quoted ('"' :: rest) [] rest
  | plain {c : Char} {t s rest : Text} :
      c ≠ '"' → c ≠ '\\' → Quoted t s rest → Quoted (c :: t) (c :: s) rest
  | escaped {c : Char} {t behind s rest : Text} :
      readEscape? t = some (c, behind) → Quoted behind s rest → Quoted ('\\' :: t) (c :: s) rest
  | folded {t s rest : Text} :
      Quoted (t.dropWhile (· = ' ')) s rest → Quoted ('\\' :: '\n' :: t) s rest

theorem Quoted.unique {t s r : Text} (read : Quoted t s r) {s' r' : Text}
    (again : Quoted t s' r') : s = s' ∧ r = r' := by
  induction read generalizing s' r' with
  | close => cases again <;> simp_all
  | plain notQuote notSlash _ ih =>
    cases again with
    | close => exact absurd rfl notQuote
    | plain _ _ tail => simpa using ih tail
    | escaped _ _ => exact absurd rfl notSlash
    | folded _ => exact absurd rfl notSlash
  | escaped known _ ih =>
    cases again with
    | plain _ notSlash _ => exact absurd rfl notSlash
    | escaped same tail =>
      obtain ⟨rfl, rfl⟩ := Prod.mk.inj (Option.some.inj (known.symm.trans same))
      simpa using ih tail
    | folded _ => exact absurd known nofun
  | folded _ ih =>
    cases again with
    | plain _ notSlash _ => exact absurd rfl notSlash
    | escaped known _ => exact absurd known nofun
    | folded same => exact ih same

theorem readEscape?_escape (c : Char) :
    ∃ body, escape c = '\\' :: body ∧ ∀ rest, readEscape? (body ++ rest) = some (c, rest) := by
  unfold escape
  split_ifs with quoted zero bell backspace escapeChar
  · simp only [Bool.or_eq_true, decide_eq_true_eq] at quoted
    rcases quoted with rfl | rfl <;> exact ⟨_, rfl, fun _ => rfl⟩
  · exact ⟨_, rfl, fun _ => zero ▸ rfl⟩
  · exact ⟨_, rfl, fun _ => bell ▸ rfl⟩
  · exact ⟨_, rfl, fun _ => backspace ▸ rfl⟩
  · exact ⟨_, rfl, fun _ => escapeChar ▸ rfl⟩
  · obtain ⟨letter, width, known, written, fits⟩ := exists_codeEscape upperDigits c
    refine ⟨letter :: hex upperDigits width c.toNat, written, fun rest => ?_⟩
    have code := readCode?_hex hexDigits_upper fits rest
    simp only [List.mem_cons, Prod.mk.injEq, List.not_mem_nil, or_false] at known
    rcases known with ⟨rfl, rfl⟩ | ⟨rfl, rfl⟩ | ⟨rfl, rfl⟩ <;> exact code

theorem Quoted.escape {t s rest : Text} (behind : Quoted t s rest) (c : Char) :
    Quoted (Yaml.escape c ++ t) (c :: s) rest := by
  obtain ⟨body, written, read⟩ := readEscape?_escape c
  rw [written, List.cons_append]
  exact .escaped (read t) behind

theorem not_quote_of_isPlainInQuotes {c : Char} (plain : isPlainInQuotes c = true) :
    c ≠ '"' ∧ c ≠ '\\' := by
  simp only [isPlainInQuotes, Bool.and_eq_true, bne_iff_ne] at plain
  exact ⟨plain.1.2, plain.2⟩

theorem Quoted.head_ne_space {t s rest : Text} (read : Quoted t s rest) (solid : Solid s) :
    ∀ c ∈ t.head?, decide (c = ' ') = false := by
  intro c found
  cases read with
  | @plain d =>
    obtain rfl : d = c := Option.some.inj found
    have visible := solid d (by simp)
    exact decide_eq_false fun space => by simp [space, isBlank, isSpace, inRanges] at visible
  | _ =>
    obtain rfl := Option.some.inj found
    rfl

theorem Quoted.fold {t s rest : Text} (read : Quoted t s rest) (solid : Solid s) (margin : Nat) :
    Quoted (Yaml.fold margin ++ t) s rest := by
  have inside : ∀ c ∈ spaces margin, decide (c = ' ') = true :=
    fun c member => decide_eq_true (List.eq_of_mem_replicate member)
  have skipped : (spaces margin ++ t).dropWhile (· = ' ') = t :=
    dropWhile_append_stop inside (read.head_ne_space solid)
  exact .folded (skipped.symm ▸ read)

theorem quoted_foldedFrom (margin column : Nat) (afterEscape : Bool) {t : Text} (solid : Solid t)
    (rest : Text) : Quoted (foldedFrom margin column afterEscape t ++ '"' :: rest) t rest := by
  induction t generalizing column afterEscape with
  | nil => exact .close
  | cons c t ih =>
    have tail : Solid t := fun d member => solid d (by simp [member])
    unfold foldedFrom
    by_cases plain : isPlainInQuotes c = true
    · obtain ⟨notQuote, notSlash⟩ := not_quote_of_isPlainInQuotes plain
      rw [if_pos plain]
      split
      · rw [List.append_assoc]
        exact (Quoted.plain notQuote notSlash (ih _ _ tail)).fold solid margin
      · exact .plain notQuote notSlash (ih _ _ tail)
    · rw [if_neg plain]
      simp only
      split
      · rw [List.append_assoc, List.append_assoc]
        exact ((ih _ _ tail).fold tail margin).escape c
      · rw [List.append_assoc]
        exact (ih _ _ tail).escape c

theorem quoted_doubleQuote (margin column : Nat) {t : Text} (solid : Solid t) (rest : Text) :
    ∃ body, doubleQuote margin column t ++ rest = '"' :: body ∧ Quoted body t rest := by
  cases t with
  | nil => exact ⟨'"' :: rest, rfl, .close⟩
  | cons c t =>
    have tail : Solid t := fun d member => solid d (by simp [member])
    simp only [doubleQuote, List.cons_append, List.append_assoc, List.nil_append]
    refine ⟨_, rfl, ?_⟩
    by_cases plain : isPlainInQuotes c = true
    · obtain ⟨notQuote, notSlash⟩ := not_quote_of_isPlainInQuotes plain
      rw [if_pos plain]
      exact .plain notQuote notSlash (quoted_foldedFrom _ _ _ tail rest)
    · rw [if_neg plain]
      exact (quoted_foldedFrom _ _ _ tail rest).escape c

theorem doubled_cancel {c d : Char} {s s' : Text}
    (same : (if c = '\'' then ['\'', '\''] else [c]) ++ s =
      (if d = '\'' then ['\'', '\''] else [d]) ++ s') : c = d ∧ s = s' := by
  split_ifs at same with quote quote'
  · exact ⟨quote.trans quote'.symm, by simpa using same⟩
  · exact absurd (List.cons.inj same).1.symm quote'
  · exact absurd (List.cons.inj same).1 quote
  · exact List.cons.inj same

theorem doubled_ne_nil (c : Char) : (if c = '\'' then ['\'', '\''] else [c]) ≠ [] := by
  split <;> exact List.cons_ne_nil _ _

theorem singleQuote_injective {t u : Text} (same : singleQuote t = singleQuote u) : t = u := by
  have body : t.flatMap (fun c => if c = '\'' then ['\'', '\''] else [c]) =
      u.flatMap (fun c => if c = '\'' then ['\'', '\''] else [c]) := by
    simpa [singleQuote] using same
  clear same
  induction t generalizing u with
  | nil =>
    cases u with
    | nil => rfl
    | cons d u => exact absurd (List.append_eq_nil_iff.mp body.symm).1 (doubled_ne_nil d)
  | cons c t ih =>
    cases u with
    | nil => exact absurd (List.append_eq_nil_iff.mp body).1 (doubled_ne_nil c)
    | cons d u =>
      obtain ⟨first, behind⟩ := doubled_cancel body
      rw [first, ih behind]

theorem newline_not_mem_singleQuote {t : Text} (oneLine : '\n' ∉ t) : '\n' ∉ singleQuote t := by
  simp only [singleQuote, List.cons_append, List.mem_cons, List.mem_append, List.mem_flatMap]
  rintro (quote | ⟨c, member, written⟩ | close)
  · cases quote
  · by_cases quote : c = '\'' <;> simp [quote] at written
    exact oneLine (written ▸ member)
  · simp at close

theorem head_of_plain {t : Text} (plain : Style.ofText t = .plain) :
    ∃ c rest, t = c :: rest ∧ c ≠ '\'' ∧ c ≠ '"' := by
  cases t with
  | nil => exact absurd plain (by decide)
  | cons c rest =>
    refine ⟨c, rest, rfl, ?_, ?_⟩ <;>
    · rintro rfl
      unfold Style.ofText at plain
      split at plain
      · cases plain
      · simp [startsLikeIndicator] at plain

theorem style_of_head {margin column : Nat} {t : Text} {c : Char}
    (first : (scalar margin column t).head? = some c) :
    Style.ofText t =
      if c = '\'' then .singleQuoted else if c = '"' then .doubleQuoted else .plain := by
  unfold scalar at first
  cases style : Style.ofText t with
  | plain =>
    obtain ⟨d, rest, rfl, notSingle, notDouble⟩ := head_of_plain style
    obtain rfl : d = c := by simpa [style] using first
    simp [notSingle, notDouble]
  | singleQuoted =>
    obtain rfl : '\'' = c := by simpa [style, singleQuote] using first
    rfl
  | doubleQuoted =>
    obtain rfl : '"' = c := by cases t <;> simpa [style, doubleQuote] using first
    rfl

theorem scalar_ne_nil (margin column : Nat) (t : Text) : scalar margin column t ≠ [] := by
  unfold scalar
  cases style : Style.ofText t with
  | plain =>
    obtain ⟨c, rest, rfl, -, -⟩ := head_of_plain style
    exact List.cons_ne_nil c rest
  | singleQuoted => exact List.cons_ne_nil _ _
  | doubleQuoted => cases t <;> exact List.cons_ne_nil _ _

theorem scalar_cancel {margin column : Nat} {t u r s : Text} (solid : Solid t) (solid' : Solid u)
    (ends : LineEnds r) (ends' : LineEnds s)
    (same : scalar margin column t ++ r = scalar margin column u ++ s) : t = u ∧ r = s := by
  obtain ⟨c, rest, written⟩ := List.exists_cons_of_ne_nil (scalar_ne_nil margin column t)
  obtain ⟨d, rest', written'⟩ := List.exists_cons_of_ne_nil (scalar_ne_nil margin column u)
  have heads : c = d := by
    rw [written, written'] at same
    exact (List.cons.inj same).1
  -- The style of a scalar shows in its first character, so the two are read in the same way.
  have style : Style.ofText t = Style.ofText u := by
    rw [style_of_head (congrArg List.head? written), style_of_head (congrArg List.head? written'),
      heads]
  unfold scalar at same
  rw [← style] at same
  cases styleIs : Style.ofText t with
  | plain =>
    rw [styleIs] at same
    exact line_cancel solid.oneLine solid'.oneLine ends ends' same
  | singleQuoted =>
    rw [styleIs] at same
    obtain ⟨quoted, behind⟩ := line_cancel (newline_not_mem_singleQuote solid.oneLine)
      (newline_not_mem_singleQuote solid'.oneLine) ends ends' same
    exact ⟨singleQuote_injective quoted, behind⟩
  | doubleQuoted =>
    rw [styleIs] at same
    obtain ⟨body, opened, read⟩ := quoted_doubleQuote margin column solid r
    obtain ⟨body', opened', read'⟩ := quoted_doubleQuote margin column solid' s
    obtain rfl : body = body' := (List.cons.inj (opened.symm.trans (same.trans opened'))).2
    exact read.unique read'

theorem endsVisibly_scalar (margin column : Nat) {t : Text} (solid : Solid t) :
    EndsVisibly (scalar margin column t) := by
  unfold scalar
  cases style : Style.ofText t with
  | plain =>
    obtain ⟨c, rest, rfl, -, -⟩ := head_of_plain style
    exact solid.endsVisibly (List.cons_ne_nil c rest)
  | singleQuoted => exact endsVisibly_concat _ (by decide)
  | doubleQuoted =>
    cases t with
    | nil => exact endsVisibly_concat ['"'] (by decide)
    | cons c t => exact endsVisibly_concat _ (by decide)

end Yaml

end RequestBinding
