import RequestBinding.Proofs.Directive.Printing

set_option autoImplicit false

namespace RequestBinding

def Text.IsName (t : Text) : Prop :=
  t ≠ [] ∧ ∀ c ∈ t, isNameChar c = true

theorem Text.Inert.getD {t? : Option Text} (inert : ∀ t ∈ t?, Inert t) : (t?.getD []).Inert := by
  cases t? with
  | none => exact fun c member => nomatch member
  | some t => exact inert t rfl

namespace Parameter

variable {p : Parameter} {group rest : Text} {options : List Parameter}

theorem inert_lastValue? {pairs : List (Text × Text)}
    (spaced : Text.Spaced (pairs.map pairToken) group)
    (plain : ∀ pair ∈ pairs, ',' ∉ pairToken pair) (oneSegment : ';' ∉ group) (key : String) :
    ((lastValue? key pairs).getD []).Inert := by
  apply Text.Inert.getD
  intro value last c inside
  have pair : (key.toList, value) ∈ pairs := mem_of_lastValue? last
  have token : pairToken (key.toList, value) ∈ pairs.map pairToken := List.mem_map_of_mem pair
  have within : c ∈ pairToken (key.toList, value) := by simp [pairToken, inside]
  have visible : Text.isBlank c = false := (spaced.visible _ token).2 c within
  refine Text.isInert_iff.mpr ⟨visible, ?_, ?_⟩
  · intro comma
    exact plain _ pair (comma ▸ within)
  · intro semicolon
    exact oneSegment (spaced.mem_of_mem token (semicolon ▸ within))

theorem InGroup.canonical (inside : p.InGroup group) (oneSegment : ';' ∉ group) : p.Canonical := by
  obtain ⟨pairs, spaced, isOptions, denotes⟩ := inside
  have inert := inert_lastValue? spaced (fun pair member => (isOptions pair member).2) oneSegment
  constructor
  · exact denotes.name ▸ inert "name"
  · exact denotes.paramType ▸ inert "type"
  · exact denotes.description ▸ inert "descr"
  · exact fun path => denotes.required.mpr (.inl path)
  · exact denotes.remote

theorem InOptions.canonical (inside : InOptions rest options) : ∀ p ∈ options, p.Canonical := by
  rcases inside with ⟨-, rfl⟩ | ⟨-, oneSegment, groups, -, rfl, read⟩
  · simp
  · intro p member
    obtain ⟨group, present, inGroup⟩ := exists_of_mem_right read member
    exact inGroup.canonical fun within =>
      oneSegment (Text.mem_intercalate_of_mem ',' present within)

theorem InOptions.length_eq (inside : InOptions rest options) (filled : rest ≠ []) :
    options.length = rest.count ',' + 1 := by
  rcases inside with ⟨nothing, -⟩ | ⟨-, -, groups, some, joined, read⟩
  · exact absurd nothing filled
  · have plain : ∀ group ∈ groups, ',' ∉ group := by
      have each : List.Forall₂ (fun group p => ',' ∉ group ∧ InGroup group p) groups options :=
        read.imp fun group p inGroup => ⟨inGroup.comma_not_mem, inGroup⟩
      exact ((List.forall₂_and_left _ _).mp each).1
    have groupsAre : rest.splitOn ',' = groups := Text.splitOn_eq_iff.mpr ⟨some, plain, joined⟩
    rw [← read.length_eq, ← groupsAre, Text.length_splitOn]

end Parameter

structure Binding.Accounts (segment : Text) (b : Binding) : Prop where
  bare : b.options = [] ↔ segment.strip.IsName
  counted : ¬ segment.strip.IsName → b.options.length = segment.strip.count ',' + 1

theorem SegmentParts.isName_strip_iff {segment name rest : Text}
    (parts : SegmentParts segment name rest) : segment.strip.IsName ↔ rest = [] := by
  rw [parts.strip_eq]
  constructor
  · intro bare
    cases rest with
    | nil => rfl
    | cons c more =>
      have named := bare.2 c (by simp)
      simp [parts.first c rfl] at named
  · rintro rfl
    rw [List.append_nil]
    exact ⟨parts.named, parts.nameChars⟩

theorem SegmentParts.count_comma_strip {segment name rest : Text}
    (parts : SegmentParts segment name rest) : segment.strip.count ',' = rest.count ',' := by
  have unnamed : ',' ∉ name := fun member => absurd (parts.nameChars ',' member) (by decide)
  rw [parts.strip_eq, List.count_append, List.count_eq_zero_of_not_mem unnamed, Nat.zero_add]

namespace Binding

variable {segment : Text} {b : Binding}

theorem InSegment.canonical (inside : b.InSegment segment) : b.Canonical := by
  obtain ⟨rest, parts, options⟩ := inside
  exact ⟨parts.named, parts.nameChars, options.canonical⟩

theorem InSegment.accounts (inside : b.InSegment segment) : b.Accounts segment := by
  obtain ⟨rest, parts, options⟩ := inside
  constructor
  · rw [parts.isName_strip_iff]
    constructor
    · intro none
      by_contra filled
      have counted := options.length_eq filled
      simp [none] at counted
    · rintro rfl
      rcases options with ⟨-, none⟩ | ⟨filled, -⟩
      · exact none
      · exact absurd rfl filled
  · intro more
    rw [parts.isName_strip_iff] at more
    rw [parts.count_comma_strip]
    exact options.length_eq more

end Binding

namespace Directive

variable {text : Text} {bindings : List Binding}

theorem forall₂_inSegment (accepted : (parse text).outcome = .ok bindings) :
    List.Forall₂ Binding.InSegment (text.splitOn ';') bindings := by
  rw [outcome_parse_eq_ok_iff, mapM_eq_ok_iff] at accepted
  have plain : ∀ segment ∈ text.splitOn ';', ';' ∉ segment :=
    fun segment member => Text.not_mem_of_mem_splitOn member
  have each := (List.forall₂_and_left _ _).mpr ⟨plain, accepted⟩
  exact each.imp fun segment b read => Binding.inSegment_iff.mpr read

theorem canonical_of_parse (accepted : (parse text).outcome = .ok bindings) :
    Canonical bindings := by
  have segments := forall₂_inSegment accepted
  constructor
  · intro none
    rw [none, List.forall₂_nil_right_iff] at segments
    exact List.splitOn_ne_nil ';' text segments
  · intro b member
    obtain ⟨segment, -, inside⟩ := exists_of_mem_right segments member
    exact inside.canonical

theorem parse_loses_nothing (text : Text) (bindings : List Binding)
    (accepted : (parse text).outcome = .ok bindings) :
    bindings.length = text.count ';' + 1 ∧
      List.Forall₂ Binding.Accounts (text.splitOn ';') bindings ∧
      ∀ b ∈ bindings, b.argName.IsName ∧
        ∀ p ∈ b.options,
          (p.location = .path → p.required = true) ∧
          (p.location = .request → p.name = remoteAddress) ∧
          ∀ value ∈ [p.name, p.paramType, p.description], ∀ c ∈ value,
            Text.isBlank c = false ∧ c ≠ ',' ∧ c ≠ ';' := by
  have segments := forall₂_inSegment accepted
  refine ⟨?_, segments.imp fun _ _ inside => inside.accounts, ?_⟩
  · rw [← segments.length_eq, Text.length_splitOn]
  · intro b member
    have canonical := (canonical_of_parse accepted).bindings b member
    refine ⟨⟨canonical.named, canonical.nameChars⟩, ?_⟩
    intro p isOption
    have option := canonical.options p isOption
    refine ⟨option.path, option.request, ?_⟩
    have inert : ∀ value ∈ [p.name, p.paramType, p.description], value.Inert := by
      simpa using ⟨option.name, option.paramType, option.description⟩
    exact fun value field c inside => Text.isInert_iff.mp (inert value field c inside)

theorem parse_loses_nothing_overwritten :
    let text : Text := " a, ;b in=request name=x required=false in=path; c\t".toList
    let bindings : List Binding :=
      [⟨"a".toList, [{}, {}]⟩,
        ⟨"b".toList, [{ location := .path, name := "x".toList, required := true }]⟩,
        ⟨"c".toList, []⟩]
    (parse text).outcome = .ok bindings ∧ bindings.length = text.count ';' + 1 ∧
      List.Forall₂ Binding.Accounts (text.splitOn ';') bindings := by
  intro text bindings
  have accepted : (parse text).outcome = .ok bindings := by decide
  obtain ⟨count, accounts, -⟩ := parse_loses_nothing text bindings accepted
  exact ⟨accepted, count, accounts⟩

end Directive

end RequestBinding
