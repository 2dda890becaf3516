import Mathlib.Tactic.SplitIfs
import RequestBinding.Datum.Basic
import RequestBinding.Proofs.Text.Numeral
import RequestBinding.Text.Basic

set_option autoImplicit false

namespace RequestBinding

-- Line ends are the only control characters below the space.
def Text.ControlFree (t : Text) : Prop :=
  ∀ c ∈ t, c = '\n' ∨ 0x20 ≤ c.toNat

instance (t : Text) : Decidable t.ControlFree :=
  List.decidableBAll (fun c => c = '\n' ∨ 0x20 ≤ c.toNat) t

namespace Text

@[simp] theorem controlFree_nil : ControlFree [] := by simp [ControlFree]

@[simp] theorem controlFree_cons {c : Char} {t : Text} :
    ControlFree (c :: t) ↔ (c = '\n' ∨ 0x20 ≤ c.toNat) ∧ ControlFree t := by
  simp [ControlFree]

@[simp] theorem controlFree_append {s t : Text} :
    ControlFree (s ++ t) ↔ ControlFree s ∧ ControlFree t := by
  simp [ControlFree, or_imp, forall_and]

theorem controlFree_flatMap {f : Char → Text} (t : Text) (each : ∀ c ∈ t, ControlFree (f c)) :
    ControlFree (t.flatMap f) := by
  intro d member
  obtain ⟨c, present, inside⟩ := List.mem_flatMap.mp member
  exact each c present d inside

theorem removeControl_of_controlFree {t : Text} (free : ControlFree t) : removeControl t = t := by
  apply removeControl_of_no_escape
  intro escape
  exact absurd (free _ escape) (by decide)

theorem controlFree_spaces (n : Nat) : ControlFree (spaces n) := by
  intro c member
  rw [List.eq_of_mem_replicate member]
  decide

theorem controlFree_newline (margin : Nat) : ControlFree (newline margin) := by
  simp [newline, controlFree_spaces]

theorem controlFree_toDigits (n : Nat) : ControlFree (Nat.toDigits 10 n) := by
  intro c member
  have digit : c.isDigit = true := Nat.isDigit_of_mem_toDigits (by decide) (by decide) member
  simp only [Char.isDigit, Bool.and_eq_true, decide_eq_true_eq, ge_iff_le,
    UInt32.le_iff_toNat_le] at digit
  exact .inr (Nat.le_trans (by decide) digit.1)

theorem controlFree_decimal (n : Int) : ControlFree (decimal n) := by
  cases n with
  | ofNat n => exact controlFree_toDigits n
  | negSucc n => exact controlFree_cons.mpr ⟨.inr (by decide), controlFree_toDigits (n + 1)⟩

theorem controlFree_hex {digits : Text} (free : ControlFree digits) (width n : Nat) :
    ControlFree (hex digits width n) := by
  intro c member
  rcases mem_hex member with digit | rfl
  · exact free c digit
  · decide

theorem controlFree_backslash {c : Char} {t : Text} (shown : 0x20 ≤ c.toNat) (free : ControlFree t) :
    ControlFree ('\\' :: c :: t) :=
  controlFree_cons.mpr ⟨.inr (by decide), controlFree_cons.mpr ⟨.inr shown, free⟩⟩

theorem controlFree_codeEscape {digits : Text} (free : ControlFree digits) (c : Char) :
    ControlFree (codeEscape digits c) := by
  obtain ⟨letter, width, known, written, -⟩ := exists_codeEscape digits c
  have letters : ∀ form ∈ [('x', 2), ('u', 4), ('U', 8)], 0x20 ≤ form.1.toNat := by decide
  rw [written]
  exact controlFree_backslash (letters _ known) (controlFree_hex free width c.toNat)

end Text

namespace Datum

open Text

theorem controlFree_jsonChar (c : Char) : ControlFree (jsonChar c) := by
  have pair (d : Char) (shown : 0x20 ≤ d.toNat) : ControlFree ['\\', d] :=
    controlFree_backslash shown controlFree_nil
  unfold jsonChar
  split
  next quoted =>
    rcases Bool.or_eq_true_iff.mp quoted with same | same
    · exact pair c (by simp at same; rw [same]; decide)
    · exact pair c (by simp at same; rw [same]; decide)
  next =>
    split_ifs with newline carriage tab backspace feed low
    · exact pair 'n' (by decide)
    · exact pair 'r' (by decide)
    · exact pair 't' (by decide)
    · exact pair 'b' (by decide)
    · exact pair 'f' (by decide)
    · exact controlFree_backslash (by decide) (controlFree_hex (by decide) 4 c.toNat)
    · simp only [controlFree_cons, controlFree_nil, and_true]
      exact .inr (by omega)

theorem controlFree_jsonText (t : Text) : ControlFree (jsonText t) := by
  simp only [jsonText, List.cons_append, controlFree_cons, controlFree_append, controlFree_nil,
    and_true]
  exact ⟨.inr (by decide), controlFree_flatMap t fun c _ => controlFree_jsonChar c,
    .inr (by decide)⟩

theorem controlFree_jsonBreak (margin : Nat) (first : Bool) :
    ControlFree (jsonBreak margin first) := by
  cases first with
  | true => exact controlFree_newline margin
  | false => exact controlFree_cons.mpr ⟨.inr (by decide), controlFree_newline margin⟩

theorem controlFree_jsonClose {α : Type} (margin : Nat) (content : List α) {bracket : Char}
    (shown : 0x20 ≤ bracket.toNat) : ControlFree (jsonClose margin content bracket) := by
  unfold jsonClose
  split
  · simp [shown]
  · simp [shown, controlFree_newline]

mutual

theorem controlFree_json (margin : Nat) : (d : Datum) → ControlFree (d.json margin)
  | .null => by simp only [json]; decide
  | .bool b => by cases b <;> simp only [json] <;> decide
  | .int n => by simpa only [json] using controlFree_decimal n
  | .text t => by simpa only [json] using controlFree_jsonText t
  | .list items => by
    simp only [json, List.cons_append, controlFree_cons, controlFree_append]
    exact ⟨.inr (by decide), controlFree_jsonItems (margin + 2) true items,
      controlFree_jsonClose margin items (by decide)⟩
  | .object fields => by
    simp only [json, List.cons_append, controlFree_cons, controlFree_append]
    exact ⟨.inr (by decide), controlFree_jsonFields (margin + 2) true fields,
      controlFree_jsonClose margin fields (by decide)⟩

theorem controlFree_jsonItems (margin : Nat) (first : Bool) :
    (items : List Datum) → ControlFree (jsonItems margin first items)
  | [] => controlFree_nil
  | item :: rest => by
    simp only [jsonItems, controlFree_append]
    exact ⟨⟨controlFree_jsonBreak margin first, controlFree_json margin item⟩,
      controlFree_jsonItems margin false rest⟩

theorem controlFree_jsonFields (margin : Nat) (first : Bool) :
    (fields : List (Text × Datum)) → ControlFree (jsonFields margin first fields)
  | [] => controlFree_nil
  | (key, value) :: rest => by
    simp only [jsonFields, controlFree_append]
    exact ⟨⟨⟨⟨controlFree_jsonBreak margin first, controlFree_jsonText key⟩, by decide⟩,
      controlFree_json margin value⟩, controlFree_jsonFields margin false rest⟩

end

end Datum

namespace Yaml

open Text

theorem controlFree_of_isReadable {c : Char} (readable : isReadable c = true) :
    0x20 ≤ c.toNat := by
  simp only [isReadable, inRanges, List.any_cons, List.any_nil, Bool.and_eq_true,
    Bool.or_eq_true, Bool.false_eq_true, or_false, decide_eq_true_eq] at readable
  omega

theorem controlFree_escape (c : Char) : ControlFree (escape c) := by
  have pair (d : Char) (shown : 0x20 ≤ d.toNat) : ControlFree ['\\', d] :=
    controlFree_backslash shown controlFree_nil
  unfold escape
  split
  next quoted =>
    rcases Bool.or_eq_true_iff.mp quoted with same | same
    · exact pair c (by simp at same; rw [same]; decide)
    · exact pair c (by simp at same; rw [same]; decide)
  next =>
    split_ifs with zero bell backspace escape
    · exact pair '0' (by decide)
    · exact pair 'a' (by decide)
    · exact pair 'b' (by decide)
    · exact pair 'e' (by decide)
    · exact controlFree_codeEscape (by decide) c

theorem controlFree_fold (margin : Nat) : ControlFree (fold margin) :=
  controlFree_cons.mpr ⟨.inr (by decide), controlFree_newline margin⟩

theorem isReadable_of_isPlainInQuotes {c : Char} (plain : isPlainInQuotes c = true) :
    isReadable c = true := by
  simp only [isPlainInQuotes, Bool.and_eq_true] at plain
  exact plain.1.1.1

theorem controlFree_foldedFrom (margin column : Nat) (afterEscape : Bool) (t : Text) :
    ControlFree (foldedFrom margin column afterEscape t) := by
  induction t generalizing column afterEscape with
  | nil => simp [foldedFrom]
  | cons c rest ih =>
    unfold foldedFrom
    by_cases plain : isPlainInQuotes c = true
    · have shown := controlFree_of_isReadable (isReadable_of_isPlainInQuotes plain)
      rw [if_pos plain]
      split
      · exact controlFree_append.mpr
          ⟨controlFree_fold margin, controlFree_cons.mpr ⟨.inr shown, ih _ _⟩⟩
      · exact controlFree_cons.mpr ⟨.inr shown, ih _ _⟩
    · rw [if_neg plain]
      simp only
      split
      · exact controlFree_append.mpr
          ⟨controlFree_append.mpr ⟨controlFree_escape c, controlFree_fold margin⟩, ih _ _⟩
      · exact controlFree_append.mpr ⟨controlFree_escape c, ih _ _⟩

theorem controlFree_doubleQuote (margin column : Nat) (t : Text) :
    ControlFree (doubleQuote margin column t) := by
  cases t with
  | nil => simp only [doubleQuote]; decide
  | cons c rest =>
    simp only [doubleQuote, List.cons_append, controlFree_cons, controlFree_append,
      controlFree_nil, and_true]
    refine ⟨.inr (by decide), ⟨?_, controlFree_foldedFrom _ _ _ rest⟩, .inr (by decide)⟩
    by_cases plain : isPlainInQuotes c = true
    · have shown := controlFree_of_isReadable (isReadable_of_isPlainInQuotes plain)
      simp [plain, shown]
    · rw [if_neg plain]
      exact controlFree_escape c

theorem controlFree_singleQuote {t : Text} (free : ControlFree t) : ControlFree (singleQuote t) := by
  simp only [singleQuote, List.cons_append, controlFree_cons, controlFree_append, controlFree_nil,
    and_true]
  refine ⟨.inr (by decide), controlFree_flatMap t fun c member => ?_, .inr (by decide)⟩
  split
  · decide
  · simpa using free c member

theorem controlFree_scalar (margin column : Nat) (t : Text) :
    ControlFree (scalar margin column t) := by
  by_cases unreadable : t.any (!isReadable ·) = true
  · have style : Style.ofText t = .doubleQuoted := by simp only [Style.ofText, unreadable, if_true]
    rw [scalar, style]
    exact controlFree_doubleQuote margin column t
  · have free : ControlFree t := by
      intro c member
      have readable : isReadable c = true := by
        cases shown : isReadable c with
        | true => rfl
        | false => exact absurd (List.any_eq_true.mpr ⟨c, member, by simp [shown]⟩) unreadable
      exact .inr (controlFree_of_isReadable readable)
    unfold scalar
    split
    · exact free
    · exact controlFree_singleQuote free
    · exact controlFree_doubleQuote margin column t

end Yaml

namespace Datum

open Text

mutual

def keys : Datum → List Text
  | list items => itemKeys items
  | object fields => fieldKeys fields
  | _ => []

def itemKeys : List Datum → List Text
  | [] => []
  | item :: rest => item.keys ++ itemKeys rest

def fieldKeys : List (Text × Datum) → List Text
  | [] => []
  | (key, value) :: rest => key :: (value.keys ++ fieldKeys rest)

end

theorem controlFree_yamlLead (margin : Nat) (d : Datum) : ControlFree (yamlLead margin d) := by
  unfold yamlLead
  split
  · exact controlFree_newline margin
  · exact controlFree_newline (margin + 2)
  · decide

theorem controlFree_yamlBreak (margin : Nat) (first : Bool) :
    ControlFree (yamlBreak margin first) := by
  cases first with
  | true => exact controlFree_nil
  | false => exact controlFree_newline margin

mutual

-- Values are quoted where they have to be; keys are written as they are.
theorem controlFree_yaml (margin column : Nat) :
    (d : Datum) → (∀ key ∈ d.keys, ControlFree key) → ControlFree (d.yaml margin column)
  | .null, _ => by simp only [yaml]; decide
  | .bool b, _ => by cases b <;> simp only [yaml] <;> decide
  | .int n, _ => by simpa only [yaml] using controlFree_decimal n
  | .text t, _ => by simpa only [yaml] using Yaml.controlFree_scalar (margin + 2) column t
  | .list items, free => by
    simp only [yaml]
    split
    · decide
    · exact controlFree_yamlItems margin true items (by simpa only [keys] using free)
  | .object fields, free => by
    simp only [yaml]
    split
    · decide
    · exact controlFree_yamlFields margin true fields (by simpa only [keys] using free)

theorem controlFree_yamlItems (margin : Nat) (first : Bool) :
    (items : List Datum) → (∀ key ∈ itemKeys items, ControlFree key) →
      ControlFree (yamlItems margin first items)
  | [], _ => controlFree_nil
  | item :: rest, free => by
    simp only [itemKeys, List.forall_mem_append] at free
    simp only [yamlItems, controlFree_append]
    exact ⟨⟨⟨controlFree_yamlBreak margin first, by decide⟩,
      controlFree_yaml (margin + 2) (margin + 2) item free.1⟩,
      controlFree_yamlItems margin false rest free.2⟩

theorem controlFree_yamlFields (margin : Nat) (first : Bool) :
    (fields : List (Text × Datum)) → (∀ key ∈ fieldKeys fields, ControlFree key) →
      ControlFree (yamlFields margin first fields)
  | [], _ => controlFree_nil
  | (key, value) :: rest, free => by
    simp only [fieldKeys, List.forall_mem_cons, List.forall_mem_append] at free
    simp only [yamlFields, List.append_assoc, List.cons_append, controlFree_append,
      controlFree_cons]
    exact ⟨controlFree_yamlBreak margin first, free.1, .inr (by decide),
      controlFree_yamlLead margin value, controlFree_yaml _ _ value free.2.1,
      controlFree_yamlFields margin false rest free.2.2⟩

end

end Datum

theorem Format.controlFree_render (format : Format) (d : Datum)
    (free : ∀ key ∈ d.keys, Text.ControlFree key) : Text.ControlFree (format.render d) := by
  cases format with
  | json => exact Datum.controlFree_json 0 d
  | yaml => exact Datum.controlFree_yaml 0 0 d free

end RequestBinding
