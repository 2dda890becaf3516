import RequestBinding.Proofs.Directive.Grammar

set_option autoImplicit false

namespace RequestBinding

-- A character that no splitting of a directive takes away.
def Text.isInert (c : Char) : Bool :=
  !isBlank c && c != ',' && c != ';'

def Text.Inert (t : Text) : Prop :=
  ∀ c ∈ t, isInert c = true

instance (t : Text) : Decidable t.Inert :=
  List.decidableBAll (fun c => Text.isInert c = true) t

structure Parameter.Canonical (p : Parameter) : Prop where
  name : p.name.Inert
  paramType : p.paramType.Inert
  description : p.description.Inert
  path : p.location = .path → p.required = true
  request : p.location = .request → p.name = remoteAddress

structure Binding.Canonical (b : Binding) : Prop where
  named : b.argName ≠ []
  nameChars : ∀ c ∈ b.argName, Text.isNameChar c = true
  options : ∀ p ∈ b.options, p.Canonical

structure Directive.Canonical (bindings : List Binding) : Prop where
  filled : bindings ≠ []
  bindings : ∀ b ∈ bindings, b.Canonical

instance (p : Parameter) : Decidable p.Canonical :=
  decidable_of_iff
    (p.name.Inert ∧ p.paramType.Inert ∧ p.description.Inert ∧
      (p.location = .path → p.required = true) ∧
      (p.location = .request → p.name = remoteAddress))
    ⟨fun h => ⟨h.1, h.2.1, h.2.2.1, h.2.2.2.1, h.2.2.2.2⟩,
      fun h => ⟨h.name, h.paramType, h.description, h.path, h.request⟩⟩

instance (b : Binding) : Decidable b.Canonical :=
  decidable_of_iff
    (b.argName ≠ [] ∧ b.argName.all Text.isNameChar = true ∧ ∀ p ∈ b.options, p.Canonical)
    ⟨fun h => ⟨h.1, List.all_eq_true.mp h.2.1, h.2.2⟩,
      fun h => ⟨h.named, List.all_eq_true.mpr h.nameChars, h.options⟩⟩

instance (bindings : List Binding) : Decidable (Directive.Canonical bindings) :=
  decidable_of_iff (bindings ≠ [] ∧ ∀ b ∈ bindings, b.Canonical)
    ⟨fun h => ⟨h.1, h.2⟩, fun h => ⟨h.filled, h.bindings⟩⟩

def Parameter.pairs (p : Parameter) : List (Text × Text) :=
  [("in".toList, p.location.name), ("name".toList, p.name),
    ("required".toList, if p.required then "true".toList else "false".toList),
    ("type".toList, p.paramType), ("descr".toList, p.description)]

def Parameter.print (p : Parameter) : Text :=
  [' '].intercalate (p.pairs.map pairToken)

def Binding.printOptions (options : List Parameter) : Text :=
  if options = [] then [] else ' ' :: [','].intercalate (options.map Parameter.print)

def Binding.print (b : Binding) : Text :=
  b.argName ++ printOptions b.options

def Directive.print (bindings : List Binding) : Text :=
  [';'].intercalate (bindings.map Binding.print)

theorem Text.isInert_iff {c : Char} :
    isInert c = true ↔ isBlank c = false ∧ c ≠ ',' ∧ c ≠ ';' := by
  simp [isInert, and_assoc]

theorem Location.inert_name (place : Location) : place.name.Inert := by
  cases place <;> decide

namespace Parameter

variable {p : Parameter}

theorem Canonical.inert_pairToken (canonical : p.Canonical) :
    ∀ pair ∈ p.pairs, (pairToken pair).Inert := by
  have keyed {key value : Text} (keyInert : key.Inert) (valueInert : value.Inert) :
      (pairToken (key, value)).Inert := by
    intro c member
    rcases List.mem_append.mp member with inKey | later
    · exact keyInert c inKey
    · rcases List.mem_cons.mp later with rfl | inValue
      · decide
      · exact valueInert c inValue
  have flag : Text.Inert (if p.required then "true".toList else "false".toList) := by
    cases p.required <;> decide
  simp only [pairs, List.forall_mem_cons, List.not_mem_nil, false_imp_iff, implies_true, and_true]
  exact ⟨keyed (by decide) (Location.inert_name _), keyed (by decide) canonical.name,
    keyed (by decide) flag, keyed (by decide) canonical.paramType,
    keyed (by decide) canonical.description⟩

theorem isOption_of_mem_pairs : ∀ pair ∈ p.pairs, IsOption pair := by
  simp only [pairs, List.forall_mem_cons, List.not_mem_nil, false_imp_iff, implies_true, and_true]
  have option {pair : Text × Text} (s : Setting) (matched : s.Matches pair) : IsOption pair :=
    Setting.exists_matches_iff.mp ⟨s, matched⟩
  exact ⟨option (.location p.location) rfl, option (.name p.name) rfl,
    option (.required _) ⟨rfl, rfl⟩, option (.paramType p.paramType) rfl,
    option (.description p.description) rfl⟩

theorem Canonical.denotes (canonical : p.Canonical) : p.Denotes p.pairs := by
  constructor
  · rfl
  · rfl
  · have last : lastValue? "required" p.pairs =
        some (if p.required then "true".toList else "false".toList) := rfl
    rw [last]
    cases flag : p.required with
    | true => simp
    | false =>
      have elsewhere : p.location ≠ .path := fun path => by simp [canonical.path path] at flag
      simp only [elsewhere, false_or]
      decide
  · rfl
  · rfl
  · exact canonical.request

theorem Canonical.spaced (canonical : p.Canonical) {gap : Text} (blank : Text.Blank gap) :
    Text.Spaced (p.pairs.map pairToken) (gap ++ p.print) := by
  apply Text.spaced_intercalate blank
  intro token member
  obtain ⟨pair, present, rfl⟩ := List.mem_map.mp member
  exact ⟨by simp [pairToken],
    fun c inside => (Text.isInert_iff.mp (canonical.inert_pairToken pair present c inside)).1⟩

theorem Canonical.inGroup (canonical : p.Canonical) {gap : Text} (blank : Text.Blank gap) :
    p.InGroup (gap ++ p.print) := by
  refine ⟨p.pairs, canonical.spaced blank, fun pair present => ?_, canonical.denotes⟩
  exact ⟨isOption_of_mem_pairs pair present, fun inside =>
    (Text.isInert_iff.mp (canonical.inert_pairToken pair present _ inside)).2.1 rfl⟩

theorem Canonical.mem_print (canonical : p.Canonical) :
    ∀ c ∈ p.print, c = ' ' ∨ Text.isInert c = true := by
  intro c member
  rcases Text.mem_intercalate member with space | found
  · exact .inl space
  · obtain ⟨token, present, inside⟩ := found
    obtain ⟨pair, isPair, rfl⟩ := List.mem_map.mp present
    exact .inr (canonical.inert_pairToken pair isPair c inside)

theorem Canonical.getLast?_print (canonical : p.Canonical) :
    ∃ c, p.print.getLast? = some c ∧ Text.isBlank c = false := by
  obtain ⟨front, written⟩ : ∃ front, p.print = front ++ pairToken ("descr".toList, p.description) :=
    Text.intercalate_ends_with ' ' (p.pairs.dropLast.map pairToken) _
  have nonempty : pairToken ("descr".toList, p.description) ≠ [] := by simp [pairToken]
  refine ⟨(pairToken ("descr".toList, p.description)).getLast nonempty, ?_, ?_⟩
  · rw [written, List.getLast?_append, List.getLast?_eq_some_getLast nonempty]
    rfl
  · have inert := canonical.inert_pairToken ("descr".toList, p.description) (by simp [pairs]) _
      (List.getLast_mem nonempty)
    exact (Text.isInert_iff.mp inert).1

end Parameter

namespace Binding

variable {b : Binding}

theorem mem_printOptions {options : List Parameter} (canonical : ∀ p ∈ options, p.Canonical) :
    ∀ c ∈ printOptions options, c = ' ' ∨ c = ',' ∨ Text.isInert c = true := by
  intro c member
  by_cases bare : options = []
  · simp [printOptions, bare] at member
  · rw [printOptions, if_neg bare] at member
    rcases List.mem_cons.mp member with space | later
    · exact .inl space
    · rcases Text.mem_intercalate later with comma | found
      · exact .inr (.inl comma)
      · obtain ⟨group, present, inside⟩ := found
        obtain ⟨p, isOption, rfl⟩ := List.mem_map.mp present
        rcases (canonical p isOption).mem_print c inside with space | inert
        · exact .inl space
        · exact .inr (.inr inert)

theorem not_mem_printOptions {options : List Parameter} (canonical : ∀ p ∈ options, p.Canonical)
    {c : Char} (notSpace : c ≠ ' ') (notComma : c ≠ ',') (cut : Text.isInert c = false) :
    c ∉ printOptions options := by
  intro member
  rcases mem_printOptions canonical c member with space | comma | inert
  · exact notSpace space
  · exact notComma comma
  · simp [cut] at inert

theorem getLast?_printOptions {options : List Parameter} (canonical : ∀ p ∈ options, p.Canonical) :
    ∀ c ∈ (printOptions options).getLast?, Text.isBlank c = false := by
  rcases List.eq_nil_or_concat options with rfl | ⟨front, last, rfl⟩
  · simp [printOptions]
  · obtain ⟨c, final, visible⟩ := (canonical last (by simp)).getLast?_print
    obtain ⟨start, joined⟩ := Text.intercalate_ends_with ',' (front.map Parameter.print) last.print
    have written : printOptions (front.concat last) = ' ' :: start ++ last.print := by
      simp [printOptions, joined]
    rw [written, List.getLast?_append, final]
    simpa using visible

theorem inOptions_printOptions {options : List Parameter}
    (canonical : ∀ p ∈ options, p.Canonical) :
    Parameter.InOptions (printOptions options) options := by
  cases options with
  | nil => exact .inl ⟨rfl, rfl⟩
  | cons p rest =>
    obtain ⟨first, others⟩ := List.forall_mem_cons.mp canonical
    have noSemicolon := not_mem_printOptions canonical (c := ';') (by decide) (by decide) rfl
    refine .inr ⟨by simp [printOptions], noSemicolon,
      ([' '] ++ p.print) :: rest.map Parameter.print, by simp, by simp [printOptions],
      .cons (first.inGroup (by decide)) ?_⟩
    rw [List.forall₂_map_left_iff, List.forall₂_same]
    exact fun q present => by simpa using (others q present).inGroup Text.blank_nil

theorem Canonical.inSegment (canonical : b.Canonical) : b.InSegment b.print := by
  refine ⟨printOptions b.options, ⟨?_, canonical.named, canonical.nameChars, ?_, ?_, ?_⟩,
    inOptions_printOptions canonical.options⟩
  · exact ⟨[], [], Text.blank_nil, Text.blank_nil, by simp [print]⟩
  · exact not_mem_printOptions canonical.options (by decide) (by decide) rfl
  · intro c found
    by_cases bare : b.options = []
    · simp [printOptions, bare] at found
    · obtain rfl : ' ' = c := by simpa [printOptions, bare] using found
      rfl
  · exact getLast?_printOptions canonical.options

end Binding

namespace Directive

variable {bindings : List Binding}

theorem Canonical.denotes (canonical : Canonical bindings) :
    Denotes (print bindings) bindings := by
  refine ⟨bindings.map Binding.print, by simp [canonical.filled], rfl, ?_⟩
  rw [List.forall₂_map_left_iff, List.forall₂_same]
  exact fun b present => (canonical.bindings b present).inSegment

theorem Canonical.outcome_parse_print (canonical : Canonical bindings) :
    (parse (print bindings)).outcome = .ok bindings := by
  rw [outcome_parse_eq_ok_iff]
  exact denotes_iff.mp canonical.denotes

theorem parse_print (bindings : List Binding) (canonical : Canonical bindings) :
    (parse (print bindings)).outcome = .ok bindings ∧
      ∀ others, Canonical others → print others = print bindings → others = bindings := by
  refine ⟨canonical.outcome_parse_print, ?_⟩
  intro others othersCanonical same
  have read := othersCanonical.outcome_parse_print
  rw [same, canonical.outcome_parse_print] at read
  exact (Except.ok.inj read).symm

theorem parse_print_awkward_values :
    let bindings : List Binding :=
      [{ argName := "a".toList },
        { argName := "_2".toList
          options :=
            [{ location := .path, name := "in=path".toList, required := true,
               description := "é='".toList },
              { location := .request, name := remoteAddress, paramType := "=".toList }] },
        { argName := "b".toList }]
    Canonical bindings ∧ (parse (print bindings)).outcome = .ok bindings := by
  intro bindings
  have canonical : Canonical bindings := by decide
  exact ⟨canonical, (parse_print bindings canonical).1⟩

end Directive

end RequestBinding
