import RequestBinding.Proofs.Directive.Violations

set_option autoImplicit false

namespace RequestBinding

variable {argName group : Text} {pairs : List (Text × Text)}

theorem Draft.Agrees.unique {draft other : Draft} {otherPairs : List (Text × Text)}
    (agrees : draft.Agrees pairs) (otherAgrees : other.Agrees otherPairs)
    (same : ∀ key ∈ ["in", "name", "required", "type", "descr"],
      lastValue? key otherPairs = lastValue? key pairs) : other = draft := by
  have place : other.location? = draft.location? := by
    apply Option.map_injective fun _ _ => Location.name_injective
    rw [agrees.location, otherAgrees.location, same "in" (by simp)]
  have name : other.name = draft.name := by
    rw [agrees.name, otherAgrees.name, same "name" (by simp)]
  have required : other.required = draft.required := by
    rw [agrees.required, otherAgrees.required, same "required" (by simp)]
  have paramType : other.paramType = draft.paramType := by
    rw [agrees.paramType, otherAgrees.paramType, same "type" (by simp)]
  have description : other.description = draft.description := by
    rw [agrees.description, otherAgrees.description, same "descr" (by simp)]
  cases other
  cases draft
  simp_all only

theorem Parameter.Denotes.path_iff {p : Parameter} (denotes : p.Denotes pairs) :
    p.location = .path ↔ lastValue? "in" pairs = some "path".toList := by
  have place := denotes.location
  cases last : lastValue? "in" pairs with
  | none =>
    have query : p.location = .query := by
      apply Location.name_injective
      rw [place, last]
      rfl
    simp [query]
  | some value =>
    rw [last, Option.getD_some] at place
    rw [Option.some.injEq, ← place]
    constructor
    · intro path
      rw [path]
      rfl
    · intro named
      exact Location.name_injective named

namespace Parameter

theorem ofGroup_last_values (argName : Text) (spaced : Text.Spaced (pairs.map pairToken) group)
    (options : ∀ pair ∈ pairs, IsOption pair) :
    let place? := lastValue? "in" pairs
    let name := (lastValue? "name" pairs).getD []
    let refused := place? = some "request".toList ∧ name ≠ remoteAddress
    (refused →
      ofGroup argName group = .error (.unsupportedRequestField argName name remoteAddress)) ∧
    (¬ refused → ∃ p : Parameter, ofGroup argName group = .ok p ∧
      p.location.name = place?.getD "query".toList ∧
      p.name = name ∧
      (p.required = true ↔
        place? = some "path".toList ∨ lastValue? "required" pairs = some "true".toList) ∧
      p.paramType = (lastValue? "type" pairs).getD [] ∧
      p.description = (lastValue? "descr" pairs).getD []) ∧
    ∀ (other : Text) (otherPairs : List (Text × Text)),
      Text.Spaced (otherPairs.map pairToken) other → (∀ pair ∈ otherPairs, IsOption pair) →
      (∀ key ∈ ["in", "name", "required", "type", "descr"],
        lastValue? key otherPairs = lastValue? key pairs) →
      ofGroup argName other = ofGroup argName group := by
  intro place? name refused
  obtain ⟨draft, agrees, read⟩ := exists_draft argName spaced options
  have failure : failure? (draft.finish argName) = (requestViolations argName pairs).head? :=
    agrees.failure?_finish argName
  refine ⟨?_, ?_, ?_⟩
  · intro refuses
    have violation : requestViolations argName pairs =
        [.unsupportedRequestField argName name remoteAddress] := if_pos refuses
    rw [violation] at failure
    exact read.trans (failure?_eq_some_iff.mp failure)
  · intro accepts
    have noViolation : requestViolations argName pairs = [] := if_neg accepts
    rw [noViolation] at failure
    obtain ⟨p, finished⟩ := failure?_eq_none_iff.mp failure
    have denotes : p.Denotes pairs := agrees.finish_eq_ok_iff.mp finished
    refine ⟨p, read.trans finished, denotes.location, denotes.name, ?_, denotes.paramType,
      denotes.description⟩
    rw [denotes.required, denotes.path_iff]
  · intro other otherPairs otherSpaced otherOptions same
    obtain ⟨otherDraft, otherAgrees, otherRead⟩ := exists_draft argName otherSpaced otherOptions
    rw [read, otherRead, agrees.unique otherAgrees same]

-- The places that were overwritten would have made the parameter required and refused its name.
theorem ofGroup_last_values_overwritten :
    let group : Text :=
      "in=path required=true in=request name=x type=t=u in=header required=".toList
    let other : Text := " required=\tin=header\u2003type=t=u name=x".toList
    (∃ p : Parameter, ofGroup "a".toList group = .ok p ∧ p.location.name = "header".toList ∧
      p.name = "x".toList ∧ p.required = false ∧ p.paramType = "t=u".toList ∧
      p.description = []) ∧
    ofGroup "a".toList other = ofGroup "a".toList group ∧
    ofGroup "a".toList "name=x in=request".toList =
      .error (.unsupportedRequestField "a".toList "x".toList remoteAddress) := by
  intro group other
  let pairs : List (Text × Text) :=
    [("in".toList, "path".toList), ("required".toList, "true".toList),
      ("in".toList, "request".toList), ("name".toList, "x".toList), ("type".toList, "t=u".toList),
      ("in".toList, "header".toList), ("required".toList, [])]
  let otherPairs : List (Text × Text) :=
    [("required".toList, []), ("in".toList, "header".toList), ("type".toList, "t=u".toList),
      ("name".toList, "x".toList)]
  let refusedPairs : List (Text × Text) :=
    [("name".toList, "x".toList), ("in".toList, "request".toList)]
  have spaced : Text.Spaced (pairs.map pairToken) group := Text.words_eq_iff.mp (by decide)
  have otherSpaced : Text.Spaced (otherPairs.map pairToken) other :=
    Text.words_eq_iff.mp (by decide)
  have refusedSpaced : Text.Spaced (refusedPairs.map pairToken) "name=x in=request".toList :=
    Text.words_eq_iff.mp (by decide)
  obtain ⟨-, accepts, others⟩ := ofGroup_last_values "a".toList spaced (by decide)
  obtain ⟨refuses, -, -⟩ := ofGroup_last_values "a".toList refusedSpaced (by decide)
  obtain ⟨p, read, place, name, required, paramType, description⟩ := accepts (by decide)
  have optional : ¬ p.required = true := by
    rw [required]
    decide
  exact ⟨⟨p, read, place, name, Bool.eq_false_iff.mpr optional, paramType, description⟩,
    others other otherPairs otherSpaced (by decide) (by decide), refuses (by decide)⟩

end Parameter

end RequestBinding
