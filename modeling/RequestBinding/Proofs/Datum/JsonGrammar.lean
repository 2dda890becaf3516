import RequestBinding.Datum.Basic
import RequestBinding.Proofs.Text.Numeral

set_option autoImplicit false

namespace RequestBinding

namespace Json

def isSpace (c : Char) : Bool :=
  c = ' ' || c = '\t' || c = '\n' || c = '\r'

def skipSpace (t : Text) : Text :=
  t.dropWhile isSpace

-- A numeral runs over all characters that any number can hold. Data have whole numbers only, which
-- are written without fraction and exponent.
def isNumeralChar (c : Char) : Bool :=
  c.isDigit || "+-.eE".toList.contains c

def escaped? : Char → Option Char
  | '"' => some '"'
  | '\\' => some '\\'
  | '/' => some '/'
  | 'b' => some '\x08'
  | 'f' => some '\x0c'
  | 'n' => some '\n'
  | 'r' => some '\r'
  | 't' => some '\t'
  | _ => none

inductive Characters : Text → Text → Text → Prop
  | close {rest : Text} : Characters ('"' :: rest) [] rest
  | plain {c : Char} {t s rest : Text} :
      c ≠ '"' → c ≠ '\\' → 0x20 ≤ c.toNat → Characters t s rest →
        Characters (c :: t) (c :: s) rest
  | escaped {mark c : Char} {t s rest : Text} :
      escaped? mark = some c → Characters t s rest → Characters ('\\' :: mark :: t) (c :: s) rest
  | code {a b c d : Char} {n : Nat} {t s rest : Text} :
      Text.hexValue? [a, b, c, d] = some n → n.isValidChar → Characters t s rest →
        Characters ('\\' :: 'u' :: a :: b :: c :: d :: t) (Char.ofNat n :: s) rest
  | pair {a b c d e f g h : Char} {high low : Nat} {t s rest : Text} :
      Text.hexValue? [a, b, c, d] = some high → 0xD800 ≤ high → high ≤ 0xDBFF →
        Text.hexValue? [e, f, g, h] = some low → 0xDC00 ≤ low → low ≤ 0xDFFF →
          Characters t s rest →
            Characters
              ('\\' :: 'u' :: a :: b :: c :: d :: '\\' :: 'u' :: e :: f :: g :: h :: t)
              (Char.ofNat (0x10000 + (high - 0xD800) * 0x400 + (low - 0xDC00)) :: s) rest

inductive Sequence {α : Type} (Element : Text → α → Text → Prop) (bracket : Char) :
    Text → List α → Text → Prop
  | last {t behind rest : Text} {a : α} :
      Element t a behind → skipSpace behind = bracket :: rest →
        Sequence Element bracket t [a] rest
  | more {t behind next rest : Text} {a : α} {as : List α} :
      Element t a behind → skipSpace behind = ',' :: next →
        Sequence Element bracket (skipSpace next) as rest →
          Sequence Element bracket t (a :: as) rest

inductive Member (Element : Text → Datum → Text → Prop) : Text → Text × Datum → Text → Prop
  | mk {t key afterKey next behind : Text} {value : Datum} :
      Characters t key afterKey → skipSpace afterKey = ':' :: next →
        Element (skipSpace next) value behind → Member Element ('"' :: t) (key, value) behind

-- A text that begins with a value, the datum it stands for, and the text behind it.
inductive Value : Text → Datum → Text → Prop
  | nullWord {rest : Text} : Value ('n' :: 'u' :: 'l' :: 'l' :: rest) .null rest
  | trueWord {rest : Text} : Value ('t' :: 'r' :: 'u' :: 'e' :: rest) (.bool true) rest
  | falseWord {rest : Text} : Value ('f' :: 'a' :: 'l' :: 's' :: 'e' :: rest) (.bool false) rest
  | int {t : Text} {n : Int} :
      plainInt? (t.takeWhile isNumeralChar) = some n → Value t (.int n) (t.dropWhile isNumeralChar)
  | text {t s rest : Text} : Characters t s rest → Value ('"' :: t) (.text s) rest
  | emptyList {t rest : Text} : skipSpace t = ']' :: rest → Value ('[' :: t) (.list []) rest
  | list {t rest : Text} {items : List Datum} :
      Sequence Value ']' (skipSpace t) items rest → Value ('[' :: t) (.list items) rest
  | emptyObject {t rest : Text} : skipSpace t = '}' :: rest → Value ('{' :: t) (.object []) rest
  | object {t rest : Text} {fields : List (Text × Datum)} :
      Sequence (Member Value) '}' (skipSpace t) fields rest → Value ('{' :: t) (.object fields) rest

def Document (t : Text) (d : Datum) : Prop :=
  ∃ behind, Value (skipSpace t) d behind ∧ skipSpace behind = []

theorem Characters.unique {t s r : Text} (read : Characters t s r) {s' r' : Text}
    (again : Characters t s' r') : s = s' ∧ r = r' := by
  induction read generalizing s' r' with
  | close => cases again <;> simp_all
  | plain notQuote notSlash shown _ ih =>
    cases again with
    | close => exact absurd rfl notQuote
    | plain _ _ _ tail => simpa using ih tail
    | escaped _ _ => exact absurd rfl notSlash
    | code _ _ _ => exact absurd rfl notSlash
    | pair _ _ _ _ _ _ _ => exact absurd rfl notSlash
  | escaped known _ ih =>
    cases again with
    | plain _ notSlash _ _ => exact absurd rfl notSlash
    | escaped same tail => simpa [Option.some.inj (known.symm.trans same)] using ih tail
    | code _ _ _ => simp [escaped?] at known
    | pair _ _ _ _ _ _ _ => simp [escaped?] at known
  | code known valid _ ih =>
    cases again with
    | plain _ notSlash _ _ => exact absurd rfl notSlash
    | escaped same _ => simp [escaped?] at same
    | code same _ tail => simpa [Option.some.inj (known.symm.trans same)] using ih tail
    | pair same low high _ _ _ _ =>
      obtain rfl := Option.some.inj (known.symm.trans same)
      rcases valid with below | above <;> omega
  | pair known low high known' low' high' _ ih =>
    cases again with
    | plain _ notSlash _ _ => exact absurd rfl notSlash
    | escaped same _ => simp [escaped?] at same
    | code same valid _ =>
      obtain rfl := Option.some.inj (known.symm.trans same)
      rcases valid with below | above <;> omega
    | pair same _ _ same' _ _ tail =>
      obtain rfl := Option.some.inj (known.symm.trans same)
      obtain rfl := Option.some.inj (known'.symm.trans same')
      simpa using ih tail

def Unambiguous {α : Type} (Element : Text → α → Text → Prop) (a : α) : Prop :=
  ∀ {t r : Text} {b : α} {s : Text}, Element t a r → Element t b s → a = b ∧ r = s

theorem Sequence.unique {α : Type} {Element : Text → α → Text → Prop} {bracket : Char}
    (notComma : bracket ≠ ',') {as : List α} (each : ∀ a ∈ as, Unambiguous Element a) :
    Unambiguous (Sequence Element bracket) as := by
  intro t r bs s read again
  induction read generalizing bs s with
  | last first closed =>
    cases again with
    | last first' closed' =>
      obtain ⟨rfl, rfl⟩ := each _ (by simp) first first'
      exact ⟨rfl, (List.cons.inj (closed.symm.trans closed')).2⟩
    | more first' comma _ =>
      obtain ⟨rfl, rfl⟩ := each _ (by simp) first first'
      exact absurd (List.cons.inj (closed.symm.trans comma)).1 notComma
  | more first comma _ ih =>
    cases again with
    | last first' closed =>
      obtain ⟨rfl, rfl⟩ := each _ (by simp) first first'
      exact absurd (List.cons.inj (closed.symm.trans comma)).1 notComma
    | more first' comma' later =>
      obtain ⟨rfl, rfl⟩ := each _ (by simp) first first'
      obtain ⟨-, rfl⟩ := List.cons.inj (comma.symm.trans comma')
      obtain ⟨rfl, rfl⟩ := ih (fun a member => each a (by simp [member])) later
      exact ⟨rfl, rfl⟩

theorem Member.unique {field : Text × Datum} (value : Unambiguous Value field.2) :
    Unambiguous (Member Value) field := by
  intro t r other s read again
  cases read with
  | mk key colon element =>
    cases again with
    | mk key' colon' element' =>
      obtain ⟨rfl, rfl⟩ := key.unique key'
      obtain ⟨-, rfl⟩ := List.cons.inj (colon.symm.trans colon')
      obtain ⟨rfl, rfl⟩ := value element element'
      exact ⟨rfl, rfl⟩

theorem no_numeral {c : Char} {t : Text} {n : Int} (other : isNumeralChar c = false) :
    plainInt? ((c :: t).takeWhile isNumeralChar) ≠ some n := by
  rw [List.takeWhile_cons, other]
  exact nofun

theorem Value.head {t r : Text} {d : Datum} (read : Value t d r) :
    ∃ c rest, t = c :: rest ∧ isSpace c = false ∧ c ≠ ']' ∧ c ≠ '}' := by
  cases read with
  | int numeral =>
    cases t with
    | nil => exact absurd numeral nofun
    | cons c rest =>
      cases known : isNumeralChar c with
      | false => exact absurd numeral (no_numeral known)
      | true =>
        have others : [' ', '\t', '\n', '\r', ']', '}'].all (!isNumeralChar ·) = true := by decide
        have apart : ∀ d ∈ [' ', '\t', '\n', '\r', ']', '}'], c ≠ d := by
          rintro d member rfl
          simpa [known] using List.all_eq_true.mp others c member
        simp only [List.forall_mem_cons] at apart
        obtain ⟨notBlank, notTab, notNewline, notReturn, notBracket, notBrace, -⟩ := apart
        exact ⟨c, rest, rfl, by simp [isSpace, *], notBracket, notBrace⟩
  | _ => exact ⟨_, _, rfl, by decide, by decide, by decide⟩

theorem not_sequence_of_bracket {α : Type} {Element : Text → α → Text → Prop} {c bracket : Char}
    {t r s : Text} {as : List α}
    (starts : ∀ {t a r}, Element t a r → ∃ d more, t = d :: more ∧ d ≠ c)
    (closed : skipSpace t = c :: s) : ¬ Sequence Element bracket (skipSpace t) as r := by
  intro read
  rw [closed] at read
  have opened : ∃ a r, Element (c :: s) a r := by
    cases read with
    | last first _ => exact ⟨_, _, first⟩
    | more first _ _ => exact ⟨_, _, first⟩
  obtain ⟨a, r, first⟩ := opened
  obtain ⟨d, more, same, different⟩ := starts first
  exact different (List.cons.inj same).1.symm

theorem not_items_of_bracket {t r s : Text} {items : List Datum} (closed : skipSpace t = ']' :: s) :
    ¬ Sequence Value ']' (skipSpace t) items r := by
  apply not_sequence_of_bracket _ closed
  intro t d r read
  obtain ⟨c, more, rfl, -, different, -⟩ := read.head
  exact ⟨c, more, rfl, different⟩

theorem not_fields_of_bracket {t r s : Text} {fields : List (Text × Datum)}
    (closed : skipSpace t = '}' :: s) : ¬ Sequence (Member Value) '}' (skipSpace t) fields r := by
  apply not_sequence_of_bracket _ closed
  intro t field r read
  cases read with
  | mk _ _ _ => exact ⟨'"', _, rfl, by decide⟩

theorem Value.unique (d : Datum) : Unambiguous Value d := by
  induction d using Datum.elementInduction with
  | null =>
    intro t r b s read again
    cases read
    cases again with
    | nullWord => exact ⟨rfl, rfl⟩
    | int numeral => exact absurd numeral (no_numeral rfl)
  | bool flag =>
    intro t r b s read again
    cases read <;> cases again with
    | int numeral => exact absurd numeral (no_numeral rfl)
    | _ => exact ⟨rfl, rfl⟩
  | int n =>
    intro t r b s read again
    cases read with | int numeral =>
    cases again with
    | int same => exact ⟨congrArg _ (Option.some.inj (numeral.symm.trans same)), rfl⟩
    | _ => exact absurd numeral (no_numeral rfl)
  | text content =>
    intro t r b s read again
    cases read with | text characters =>
    cases again with
    | int numeral => exact absurd numeral (no_numeral rfl)
    | text same =>
      obtain ⟨rfl, rfl⟩ := characters.unique same
      exact ⟨rfl, rfl⟩
  | list items each =>
    intro t r b s read again
    cases read with
    | emptyList closed =>
      cases again with
      | int numeral => exact absurd numeral (no_numeral rfl)
      | emptyList same => exact ⟨rfl, (List.cons.inj (closed.symm.trans same)).2⟩
      | list elements => exact absurd elements (not_items_of_bracket closed)
    | list elements =>
      cases again with
      | int numeral => exact absurd numeral (no_numeral rfl)
      | emptyList closed => exact absurd elements (not_items_of_bracket closed)
      | list same =>
        obtain ⟨rfl, rfl⟩ := Sequence.unique (by decide) each elements same
        exact ⟨rfl, rfl⟩
  | object fields each =>
    have members : ∀ field ∈ fields, Unambiguous (Member Value) field :=
      fun field member => Member.unique (each field member)
    intro t r b s read again
    cases read with
    | emptyObject closed =>
      cases again with
      | int numeral => exact absurd numeral (no_numeral rfl)
      | emptyObject same => exact ⟨rfl, (List.cons.inj (closed.symm.trans same)).2⟩
      | object elements => exact absurd elements (not_fields_of_bracket closed)
    | object elements =>
      cases again with
      | int numeral => exact absurd numeral (no_numeral rfl)
      | emptyObject closed => exact absurd elements (not_fields_of_bracket closed)
      | object same =>
        obtain ⟨rfl, rfl⟩ := Sequence.unique (by decide) members elements same
        exact ⟨rfl, rfl⟩

theorem Document.unique {t : Text} {d d' : Datum} (read : Document t d) (again : Document t d') :
    d = d' := by
  obtain ⟨behind, value, -⟩ := read
  obtain ⟨behind', value', -⟩ := again
  exact (Value.unique d value value').1

end Json

end RequestBinding
