import RequestBinding.Proofs.Directive.Segment

set_option autoImplicit false

namespace RequestBinding

def Text.OpensWithName (body : Text) : Prop :=
  ∃ name rest, body = name ++ rest ∧ name ≠ [] ∧ (∀ c ∈ name, isNameChar c = true) ∧ '\n' ∉ rest

theorem Text.opensWithName_iff {body : Text} :
    body.OpensWithName ↔
      body.takeWhile isNameChar ≠ [] ∧ '\n' ∉ body.dropWhile isNameChar := by
  constructor
  · intro opens
    obtain ⟨name, rest, rfl, named, nameChars, oneLine⟩ := opens
    rw [List.takeWhile_append_of_pos nameChars, List.dropWhile_append_of_pos nameChars]
    exact ⟨by simp [named], fun member => oneLine ((List.dropWhile_suffix _).subset member)⟩
  · intro parts
    exact ⟨body.takeWhile isNameChar, body.dropWhile isNameChar,
      List.takeWhile_append_dropWhile.symm, parts.1,
      fun c member => List.all_eq_true.mp List.all_takeWhile c member, parts.2⟩

instance (body : Text) : Decidable body.OpensWithName :=
  decidable_of_iff _ Text.opensWithName_iff.symm

def tokenViolations (token : Text) : List DirectiveError :=
  match token.cut? '=' with
  | none => [.invalidPair token]
  | some (key, value) =>
    if key = "in".toList then
      if (Location.all.map Location.name).contains value then []
      else [.invalidLocation value Location.alternatives]
    else if optionKeys.contains key then []
    else [.unknownOption key token]

def requestViolations (argName : Text) (pairs : List (Text × Text)) : List DirectiveError :=
  let name := (lastValue? "name" pairs).getD []
  if lastValue? "in" pairs = some "request".toList ∧ name ≠ remoteAddress then
    [.unsupportedRequestField argName name remoteAddress]
  else []

def groupViolations (argName group : Text) : List DirectiveError :=
  group.words.flatMap tokenViolations ++
    requestViolations argName (group.words.filterMap (Text.cut? '='))

def segmentViolations (segment : Text) : List DirectiveError :=
  let body := segment.strip
  if body.OpensWithName then
    ((body.dropWhile Text.isNameChar).splitOn ',').flatMap
      (groupViolations (body.takeWhile Text.isNameChar))
  else [.invalidDirective body]

-- All that is wrong with a directive, in reading order.
def Directive.violations (text : Text) : List DirectiveError :=
  (text.splitOn ';').flatMap segmentViolations

theorem Location.failure?_ofText (value : Text) :
    failure? (ofText value) =
      if value ∈ all.map name then none else some (.invalidLocation value alternatives) := by
  by_cases known : value ∈ all.map name
  · obtain ⟨place, -, rfl⟩ := List.mem_map.mp known
    rw [if_pos known, ofText_eq_ok_iff.mpr rfl, failure?_ok]
  · rw [if_neg known]
    cases found : ofName? value with
    | none => simp [ofText, found]
    | some place =>
      have named := name_of_ofName? found
      exact absurd (List.mem_map.mpr ⟨place, by cases place <;> simp [all], named⟩) known

theorem Setting.failure?_ofToken (token : Text) :
    failure? (ofToken token) = (tokenViolations token).head? := by
  cases found : token.cut? '=' with
  | none => simp [ofToken, tokenViolations, found]
  | some pair =>
    obtain ⟨key, value⟩ := pair
    simp only [ofToken, tokenViolations, found, List.contains_iff_mem]
    by_cases isIn : key = "in".toList
    · simp only [isIn, if_true, failure?_map, Location.failure?_ofText]
      split_ifs <;> rfl
    · by_cases known : key ∈ optionKeys
      · simp only [isIn, known, if_false, if_true, List.head?_nil]
        simp only [optionKeys, List.mem_cons, List.not_mem_nil, or_false, isIn, false_or] at known
        rcases known with rfl | rfl | rfl | rfl <;> rfl
      · simp only [isIn, known, if_false, List.head?_cons]
        simp only [optionKeys, List.mem_cons, List.not_mem_nil, or_false, not_or] at known
        obtain ⟨-, notName, notRequired, notType, notDescr⟩ := known
        simp only [notName, notRequired, notType, notDescr, if_false, failure?_error]

theorem Draft.Agrees.failure?_finish {draft : Draft} {pairs : List (Text × Text)}
    (agrees : draft.Agrees pairs) (argName : Text) :
    failure? (draft.finish argName) = (requestViolations argName pairs).head? := by
  have request : draft.location? = some .request ↔
      lastValue? "in" pairs = some "request".toList := by
    rw [← agrees.location]
    cases draft.location? with
    | none => simp
    | some place => cases place <;> decide
  simp only [finish, requestViolations, request, agrees.name]
  split_ifs <;> rfl

theorem filterMap_cut?_pairToken {settings : List Setting} {pairs : List (Text × Text)}
    (matched : List.Forall₂ Setting.Matches settings pairs) :
    (pairs.map pairToken).filterMap (Text.cut? '=') = pairs := by
  induction matched with
  | nil => rfl
  | cons here _ ih =>
    rw [List.map_cons, List.filterMap_cons_some (cut?_pairToken here.plain), ih]

theorem Parameter.failure?_ofGroup (argName group : Text) :
    failure? (ofGroup argName group) = (groupViolations argName group).head? := by
  have tokens : failure? (group.words.mapM Setting.ofToken) =
      (group.words.flatMap tokenViolations).head? :=
    failure?_mapM fun token _ => Setting.failure?_ofToken token
  rw [groupViolations, List.head?_append, ← tokens, ofGroup]
  cases read : group.words.mapM Setting.ofToken with
  | error e => rfl
  | ok settings =>
    obtain ⟨pairs, written, matched⟩ := Setting.mapM_ofToken_eq_ok_iff.mp read
    rw [written, filterMap_cut?_pairToken matched]
    exact (Draft.agrees_ofSettings matched).failure?_finish argName

theorem Binding.failure?_ofSegment (segment : Text) :
    failure? (ofSegment segment) = (segmentViolations segment).head? := by
  by_cases opens : segment.strip.OpensWithName
  · obtain ⟨named, oneLine⟩ := Text.opensWithName_iff.mp opens
    rw [ofSegment_of_parts (segmentParts_of_strip named oneLine)]
    simp only [segmentViolations, opens, if_true]
    generalize segment.strip.takeWhile Text.isNameChar = name
    generalize segment.strip.dropWhile Text.isNameChar = rest
    have groups : failure? (Parameter.ofGroups name rest) =
        ((rest.splitOn ',').flatMap (groupViolations name)).head? :=
      failure?_mapM fun group _ => Parameter.failure?_ofGroup name group
    rw [← groups]
    by_cases bare : rest = []
    · subst bare
      rfl
    · rw [if_neg bare, failure?_map]
  · have broken : ¬ ∃ name rest, SegmentParts segment name rest := by
      intro shaped
      obtain ⟨name, rest, parts⟩ := shaped
      exact opens ⟨name, rest, parts.strip_eq, parts.named, parts.nameChars, parts.oneLine⟩
    rw [ofSegment_of_no_parts broken]
    simp [segmentViolations, opens]

theorem Directive.parse_reports_first_violation (text : Text) (visible : ¬ Text.Blank text) :
    (∀ e, (parse text).outcome = .error e ↔ (violations text).head? = some e) ∧
      ((∃ bindings, (parse text).outcome = .ok bindings) ↔ violations text = []) := by
  have segments : failure? (parse text).outcome = (violations text).head? := by
    rw [outcome_parse (Text.strip_eq_nil_iff.not.mpr visible)]
    exact failure?_mapM fun segment _ => Binding.failure?_ofSegment segment
  constructor
  · intro e
    rw [← failure?_eq_some_iff, segments]
  · rw [← failure?_eq_none_iff, segments, List.head?_eq_none_iff]

theorem Directive.parse_first_of_three_violations :
    ¬ Text.Blank " a in=request x, k=1; 9\n".toList ∧
      (parse " a in=request x, k=1; 9\n".toList).outcome = .error (.invalidPair "x".toList) :=
  have visible : ¬ Text.Blank " a in=request x, k=1; 9\n".toList := by decide
  ⟨visible, ((parse_reports_first_violation _ visible).1 _).mpr (by decide)⟩

variable {e : DirectiveError}

-- A refused segment is shown as a whole, or else by words of it.
inductive DirectiveError.InSegment : DirectiveError → Prop
  | invalidDirective (segment : Text) : InSegment (.invalidDirective segment)
  | invalidPair {token : Text} : token.Solid → InSegment (.invalidPair token)
  | unknownOption (key : Text) {token : Text} : token.Solid → InSegment (.unknownOption key token)
  | invalidLocation {value : Text} : value.Solid →
      InSegment (.invalidLocation value Location.alternatives)
  | unsupportedRequestField {argName field : Text} : argName.Solid → field.Solid →
      InSegment (.unsupportedRequestField argName field remoteAddress)

theorem inSegment_of_mem_tokenViolations {token : Text} (solid : token.Solid)
    (member : e ∈ tokenViolations token) : e.InSegment := by
  unfold tokenViolations at member
  split at member
  next => exact List.mem_singleton.mp member ▸ .invalidPair solid
  next key value found =>
    have valueSolid : value.Solid := by
      obtain ⟨rfl, -⟩ := Text.cut?_eq_some_iff.mp found
      exact fun c inside => solid c (by simp [inside])
    split at member
    · split at member
      · simp at member
      · exact List.mem_singleton.mp member ▸ .invalidLocation valueSolid
    · split at member
      · simp at member
      · exact List.mem_singleton.mp member ▸ .unknownOption key solid

theorem inSegment_of_mem_requestViolations {argName : Text} {pairs : List (Text × Text)}
    (named : argName.Solid) (values : ∀ pair ∈ pairs, pair.2.Solid)
    (member : e ∈ requestViolations argName pairs) : e.InSegment := by
  unfold requestViolations at member
  simp only at member
  split at member
  · rw [List.mem_singleton.mp member]
    refine .unsupportedRequestField named ?_
    cases last : lastValue? "name" pairs with
    | none => simp [Text.Solid]
    | some value => exact values _ (mem_of_lastValue? last)
  · simp at member

theorem inSegment_of_mem_groupViolations {argName group : Text} (named : argName.Solid)
    (member : e ∈ groupViolations argName group) : e.InSegment := by
  rcases List.mem_append.mp member with ofToken | ofRequest
  · obtain ⟨token, isWord, inside⟩ := List.mem_flatMap.mp ofToken
    exact inSegment_of_mem_tokenViolations (Text.solid_of_mem_words isWord) inside
  · refine inSegment_of_mem_requestViolations named ?_ ofRequest
    intro pair isPair c inside
    obtain ⟨token, isWord, found⟩ := List.mem_filterMap.mp isPair
    have whole : token = pairToken pair := pairToken_of_cut? found
    exact Text.solid_of_mem_words isWord c (by simp [whole, pairToken, inside])

theorem inSegment_of_mem_segmentViolations {segment : Text}
    (member : e ∈ segmentViolations segment) : e.InSegment := by
  unfold segmentViolations at member
  simp only at member
  split at member
  · obtain ⟨group, -, inside⟩ := List.mem_flatMap.mp member
    refine inSegment_of_mem_groupViolations (Text.solid_of_nameChars ?_) inside
    exact fun c isName => List.all_eq_true.mp List.all_takeWhile c isName
  · exact List.mem_singleton.mp member ▸ .invalidDirective _

theorem Binding.inSegment_of_error {segment : Text} (failed : ofSegment segment = .error e) :
    e.InSegment := by
  have first : (segmentViolations segment).head? = some e := by
    rw [← failure?_ofSegment, failed, failure?_error]
  exact inSegment_of_mem_segmentViolations (List.mem_of_mem_head? first)

theorem Directive.emptyInput_or_inSegment {text : Text} (failed : (parse text).outcome = .error e) :
    e = .emptyInput ∧ text.strip = [] ∨ e.InSegment := by
  by_cases blank : text.strip = []
  · rw [outcome_parse_of_blank blank] at failed
    exact .inl ⟨(Except.error.inj failed).symm, blank⟩
  · rw [outcome_parse blank] at failed
    obtain ⟨-, segment, -, -, -, refused⟩ := mapM_eq_error_iff.mp failed
    exact .inr (Binding.inSegment_of_error refused)

end RequestBinding
