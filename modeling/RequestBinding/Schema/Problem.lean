import RequestBinding.Datum.Basic

set_option autoImplicit false

namespace RequestBinding

inductive Step where
  | key (name : Text)
  | index (n : Nat)
  deriving DecidableEq

inductive Cause where
  | missing
  | notLocation
  | notText
  | unreadableBool
  | notBool
  | unreadableInt
  | notInt
  | notList
  | notRecord (type : Text)
  deriving DecidableEq

namespace Cause

def code : Cause → Text
  | missing => "missing".toList
  | notLocation => "enum".toList
  | notText => "string_type".toList
  | unreadableBool => "bool_parsing".toList
  | notBool => "bool_type".toList
  | unreadableInt => "int_parsing".toList
  | notInt => "int_type".toList
  | notList => "list_type".toList
  | notRecord _ => "model_type".toList

def message : Cause → Text
  | missing => "Field required".toList
  | notLocation => "Input should be 'path', 'query', 'header' or 'request'".toList
  | notText => "Input should be a valid string".toList
  | unreadableBool => "Input should be a valid boolean, unable to interpret input".toList
  | notBool => "Input should be a valid boolean".toList
  | unreadableInt =>
    "Input should be a valid integer, unable to parse string as an integer".toList
  | notInt => "Input should be a valid integer".toList
  | notList => "Input should be a valid list".toList
  | notRecord type => "Input should be a valid dictionary or instance of ".toList ++ type

end Cause

structure Problem where
  path : List Step
  cause : Cause
  deriving DecidableEq

inductive Checked (α : Type) where
  | valid (a : α)
  | invalid (problems : List Problem)

namespace Checked

variable {α β : Type}

def problem (cause : Cause) : Checked α :=
  invalid [⟨[], cause⟩]

def ofOption (cause : Cause) : Option α → Checked α
  | some a => valid a
  | none => problem cause

def under (step : Step) : Checked α → Checked α
  | valid a => valid a
  | invalid problems => invalid (problems.map fun p => { p with path := step :: p.path })

@[simp] theorem under_valid (step : Step) (a : α) : (valid a).under step = valid a := rfl

def map (f : α → β) : Checked α → Checked β
  | valid a => valid (f a)
  | invalid problems => invalid problems

@[simp] theorem map_valid (f : α → β) (a : α) : (valid a).map f = valid (f a) := rfl

theorem map_eq_valid_iff {f : α → β} {checked : Checked α} {b : β} :
    checked.map f = valid b ↔ ∃ a, checked = valid a ∧ f a = b := by
  cases checked <;> simp [map]

-- The problems of both are kept, in order.
def apply : Checked (α → β) → Checked α → Checked β
  | valid f, valid a => valid (f a)
  | valid _, invalid problems => invalid problems
  | invalid problems, valid _ => invalid problems
  | invalid before, invalid after => invalid (before ++ after)

@[simp] theorem apply_valid (f : α → β) (a : α) : (valid f).apply (valid a) = valid (f a) := rfl

def eachFrom (read : Datum → Checked α) : (position : Nat) → List Datum → Checked (List α)
  | _, [] => valid []
  | position, item :: rest =>
    (((read item).under (.index position)).map List.cons).apply (eachFrom read (position + 1) rest)

end Checked

end RequestBinding
