import Mathlib.Data.List.Basic
import RequestBinding.Directive
import RequestBinding.Schema.Validation

set_option autoImplicit false

namespace RequestBinding

theorem Checked.eachFrom_map {α : Type} {read : Datum → Checked α} {write : α → Datum}
    (reads : ∀ a, read (write a) = .valid a) (position : Nat) (as : List α) :
    eachFrom read position (as.map write) = .valid as := by
  induction as generalizing position with
  | nil => rfl
  | cons a rest ih => simp [eachFrom, reads, ih]

theorem Datum.toList_list_map {α : Type} {read : Datum → Checked α} {write : α → Datum}
    (reads : ∀ a, read (write a) = .valid a) (as : List α) :
    toList read (.list (as.map write)) = .valid as :=
  Checked.eachFrom_map reads 0 as

theorem Parameter.ofDatum_toDatum (p : Parameter) : ofDatum p.toDatum = .valid p := by
  simp [toDatum, ofDatum, ofFields, Fields.optional, List.lookup_cons]

theorem Binding.ofDatum_toDatum (b : Binding) : ofDatum b.toDatum = .valid b := by
  have options := Datum.toList_list_map Parameter.ofDatum_toDatum b.options
  simp [toDatum, ofDatum, ofFields, Fields.required, Fields.optional, List.lookup_cons, options]

theorem Comment.ofDatum_toDatum (c : Comment) : ofDatum c.toDatum = .valid c := by
  simp [toDatum, ofDatum, ofFields, Fields.required, List.lookup_cons]

theorem Binding.toDatum_injective : Function.Injective toDatum := by
  intro b c same
  have read := ofDatum_toDatum b
  rw [same, ofDatum_toDatum c] at read
  exact (Checked.valid.inj read).symm

theorem Finding.toDatum_injective : Function.Injective toDatum := by
  rintro ⟨line, bindings⟩ ⟨line', bindings'⟩ same
  have fields : line = line' ∧ bindings.map Binding.toDatum = bindings'.map Binding.toDatum := by
    simpa [toDatum] using same
  obtain ⟨rfl, written⟩ := fields
  rw [Binding.toDatum_injective.list_map written]

structure Checked.Stable {α : Type} (read : Datum → Checked α) (write : α → Datum) : Prop where
  revalidated : ∀ d a, read d = .valid a → read (write a) = .valid a
  idempotent : ∀ d e, (read d).map write = .valid e → (read e).map write = .valid e
  -- Also a value coerced from what no datum holds, as a line from 3.0.
  reproduced : ∀ a, read (write a) = .valid a

theorem Checked.stable_of_reproduced {α : Type} {read : Datum → Checked α} {write : α → Datum}
    (reproduced : ∀ a, read (write a) = .valid a) : Stable read write where
  revalidated := fun _ a _ => reproduced a
  idempotent := by
    intro d e dumped
    obtain ⟨a, -, rfl⟩ := map_eq_valid_iff.mp dumped
    rw [reproduced a, map_valid]
  reproduced := reproduced

theorem validated_dumps_are_stable :
    Checked.Stable Parameter.ofDatum Parameter.toDatum ∧
      Checked.Stable Binding.ofDatum Binding.toDatum ∧
      Checked.Stable Comment.ofDatum Comment.toDatum ∧
      ∀ (t : Text) (bindings : List Binding), (Directive.parse t).outcome = .ok bindings →
        ∀ b ∈ bindings, Binding.ofDatum b.toDatum = .valid b := by
  have parameters := Checked.stable_of_reproduced Parameter.ofDatum_toDatum
  have bindings := Checked.stable_of_reproduced Binding.ofDatum_toDatum
  have comments := Checked.stable_of_reproduced Comment.ofDatum_toDatum
  refine ⟨parameters, bindings, comments, ?_⟩
  intro t parsed _ b _
  exact bindings.reproduced b

-- A truth value as a word and as a number, a field of no name known, a line in a text with sign, zeros
-- and fraction.
theorem validated_dumps_are_stable_coerced :
    let header : Datum :=
      .object
        [("required".toList, .text "YeS".toList), ("location".toList, .text "header".toList),
          ("in".toList, .list [.null, .object []])]
    let path : Datum :=
      .object [("location".toList, .text "path".toList), ("required".toList, .int 0)]
    let bound : Datum :=
      .object [("options".toList, .list [header, path]), ("arg_name".toList, .text "a".toList)]
    let numbered : Datum :=
      .object [("text".toList, .text "a".toList), ("line".toList, .text " -0_012.00\n".toList)]
    let p : Parameter := { location := .header, required := true }
    let b : Binding := ⟨"a".toList, [p, { location := .path }]⟩
    let c : Comment := ⟨-12, "a".toList⟩
    let directive : Text := "b; a in=header required=true, in=query".toList
    let read : Binding := ⟨"a".toList, [p, {}]⟩
    (Parameter.ofDatum header = .valid p ∧ Parameter.ofDatum p.toDatum = .valid p) ∧
      (Binding.ofDatum bound = .valid b ∧ Binding.ofDatum b.toDatum = .valid b) ∧
      ((Comment.ofDatum numbered).map Comment.toDatum = .valid c.toDatum ∧
        (Comment.ofDatum c.toDatum).map Comment.toDatum = .valid c.toDatum) ∧
      (Directive.parse directive).outcome = .ok [⟨"b".toList, []⟩, read] ∧
      Binding.ofDatum read.toDatum = .valid read := by
  intro header path bound numbered p b c directive read
  obtain ⟨parameters, bindings, comments, parsed⟩ := validated_dumps_are_stable
  have coerced : Parameter.ofDatum header = .valid p := rfl
  have nested : Binding.ofDatum bound = .valid b := rfl
  have dumped : (Comment.ofDatum numbered).map Comment.toDatum = .valid c.toDatum := rfl
  have accepted : (Directive.parse directive).outcome = .ok [⟨"b".toList, []⟩, read] := by decide
  exact ⟨⟨coerced, parameters.revalidated header p coerced⟩,
    ⟨nested, bindings.revalidated bound b nested⟩,
    ⟨dumped, comments.idempotent numbered c.toDatum dumped⟩,
    accepted, parsed directive _ accepted read (by simp)⟩

end RequestBinding
