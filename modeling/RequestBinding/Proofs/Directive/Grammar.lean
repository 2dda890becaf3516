import RequestBinding.Proofs.Directive.Segment

set_option autoImplicit false

namespace RequestBinding

def Parameter.InGroup (group : Text) (p : Parameter) : Prop :=
  ∃ pairs, Text.Spaced (pairs.map pairToken) group ∧
    (∀ pair ∈ pairs, IsOption pair ∧ ',' ∉ pairToken pair) ∧ p.Denotes pairs

def Parameter.InOptions (rest : Text) (options : List Parameter) : Prop :=
  rest = [] ∧ options = [] ∨
    rest ≠ [] ∧ ';' ∉ rest ∧
      ∃ groups, groups ≠ [] ∧ rest = [','].intercalate groups ∧
        List.Forall₂ Parameter.InGroup groups options

def Binding.InSegment (segment : Text) (b : Binding) : Prop :=
  ∃ rest, SegmentParts segment b.argName rest ∧ Parameter.InOptions rest b.options

def Directive.Denotes (text : Text) (bindings : List Binding) : Prop :=
  ∃ segments, segments ≠ [] ∧ text = [';'].intercalate segments ∧
    List.Forall₂ Binding.InSegment segments bindings

theorem Parameter.InGroup.comma_not_mem {group : Text} {p : Parameter} (inside : p.InGroup group) :
    ',' ∉ group := by
  obtain ⟨pairs, spaced, options, -⟩ := inside
  generalize tokensAre : pairs.map pairToken = tokens at spaced
  have plain : ∀ token ∈ tokens, ',' ∉ token := by
    intro token member
    rw [← tokensAre] at member
    obtain ⟨pair, present, rfl⟩ := List.mem_map.mp member
    exact (options pair present).2
  clear tokensAre options
  induction spaced with
  | nil blank => exact blank.not_mem rfl
  | cons blank _ _ _ _ ih =>
    rw [List.forall_mem_cons] at plain
    simp [blank.not_mem, plain.1, ih plain.2, show Text.isBlank ',' = false from rfl]

theorem Parameter.inGroup_iff {argName group : Text} {p : Parameter} :
    p.InGroup group ↔ ',' ∉ group ∧ ofGroup argName group = .ok p := by
  rw [ofGroup_eq_ok_iff]
  constructor
  · intro inside
    have plain := inside.comma_not_mem
    obtain ⟨pairs, spaced, options, denotes⟩ := inside
    exact ⟨plain, pairs, spaced, fun pair member => (options pair member).1, denotes⟩
  · intro accepted
    obtain ⟨plain, pairs, spaced, options, denotes⟩ := accepted
    refine ⟨pairs, spaced, fun pair member => ⟨options pair member, ?_⟩, denotes⟩
    intro inside
    exact plain (spaced.mem_of_mem (List.mem_map_of_mem member) inside)

theorem Parameter.ofGroups_eq_ok_iff {argName rest : Text} {options : List Parameter} :
    ofGroups argName rest = .ok options ↔
      ∃ groups, groups ≠ [] ∧ rest = [','].intercalate groups ∧
        List.Forall₂ Parameter.InGroup groups options :=
  Text.mapM_splitOn_eq_ok_iff fun _ _ => inGroup_iff

theorem Binding.inSegment_iff {segment : Text} {b : Binding} :
    b.InSegment segment ↔ ';' ∉ segment ∧ ofSegment segment = .ok b := by
  constructor
  · intro inside
    obtain ⟨rest, parts, options⟩ := inside
    have plain : ';' ∉ rest := by
      rcases options with ⟨rfl, -⟩ | ⟨-, plain, -⟩
      · simp
      · exact plain
    constructor
    · obtain ⟨before, after, blankBefore, blankAfter, rfl⟩ := parts.around
      have unnamed : ';' ∉ b.argName :=
        fun member => absurd (parts.nameChars ';' member) (by decide)
      simp [blankBefore.not_mem (show Text.isBlank ';' = false from rfl), unnamed, plain,
        blankAfter.not_mem (show Text.isBlank ';' = false from rfl)]
    · rw [ofSegment_of_parts parts]
      obtain ⟨argName, bOptions⟩ := b
      rcases options with ⟨rfl, rfl⟩ | ⟨filled, -, groups⟩
      · rfl
      · rw [if_neg filled, Parameter.ofGroups_eq_ok_iff.mpr groups]
        rfl
  · intro accepted
    obtain ⟨plain, accepted⟩ := accepted
    by_cases shaped : ∃ name rest, SegmentParts segment name rest
    · obtain ⟨name, rest, parts⟩ := shaped
      rw [ofSegment_of_parts parts] at accepted
      have plainRest : ';' ∉ rest := by
        obtain ⟨before, after, -, -, rfl⟩ := parts.around
        exact fun member => plain (by simp [member])
      by_cases bare : rest = []
      · rw [if_pos bare] at accepted
        obtain rfl := Except.ok.inj accepted
        exact ⟨rest, parts, .inl ⟨bare, rfl⟩⟩
      · rw [if_neg bare] at accepted
        cases read : Parameter.ofGroups name rest with
        | error e =>
          rw [read] at accepted
          exact nomatch accepted
        | ok options =>
          rw [read] at accepted
          obtain rfl := Except.ok.inj accepted
          exact ⟨rest, parts, .inr ⟨bare, plainRest, Parameter.ofGroups_eq_ok_iff.mp read⟩⟩
    · rw [ofSegment_of_no_parts shaped] at accepted
      exact nomatch accepted

theorem Directive.denotes_iff {text : Text} {bindings : List Binding} :
    Denotes text bindings ↔ (text.splitOn ';').mapM Binding.ofSegment = .ok bindings :=
  (Text.mapM_splitOn_eq_ok_iff fun _ _ => Binding.inSegment_iff).symm

theorem Directive.parse_ok_iff_denotes (text : Text) (bindings : List Binding) :
    (parse text).outcome = .ok bindings ↔ Denotes text bindings := by
  rw [outcome_parse_eq_ok_iff, denotes_iff]

end RequestBinding
