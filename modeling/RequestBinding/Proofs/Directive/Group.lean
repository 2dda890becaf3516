import RequestBinding.Directive
import RequestBinding.Proofs.Outcome
import RequestBinding.Proofs.Text.Words

set_option autoImplicit false

namespace RequestBinding

def pairToken (pair : Text × Text) : Text :=
  pair.1 ++ '=' :: pair.2

def lastValue? (key : String) (pairs : List (Text × Text)) : Option Text :=
  pairs.reverse.lookup key.toList

theorem lastValue?_append (key : String) (pairs : List (Text × Text)) (last : Text × Text) :
    lastValue? key (pairs ++ [last]) =
      if key.toList = last.1 then some last.2 else lastValue? key pairs := by
  obtain ⟨name, value⟩ := last
  by_cases same : key.toList = name
  · simp [lastValue?, same]
  · simp [lastValue?, List.lookup_cons, beq_false_of_ne same, same]

theorem mem_of_lastValue? {key : String} {pairs : List (Text × Text)} {value : Text}
    (last : lastValue? key pairs = some value) : (key.toList, value) ∈ pairs := by
  obtain ⟨before, after, split, -⟩ := List.lookup_eq_some_iff.mp last
  rw [← List.mem_reverse, split]
  simp

def optionKeys : List Text :=
  ["in".toList, "name".toList, "required".toList, "type".toList, "descr".toList]

def IsOption (pair : Text × Text) : Prop :=
  pair.1 ∈ optionKeys ∧
    (pair.1 = "in".toList → pair.2 ∈ [Location.path, .query, .header, .request].map Location.name)

instance (pair : Text × Text) : Decidable (IsOption pair) :=
  inferInstanceAs (Decidable (pair.1 ∈ optionKeys ∧ (pair.1 = "in".toList →
    pair.2 ∈ [Location.path, .query, .header, .request].map Location.name)))

def Setting.Matches : Setting → Text × Text → Prop
  | location place, pair => pair = ("in".toList, place.name)
  | name value, pair => pair = ("name".toList, value)
  | required flag, pair => pair.1 = "required".toList ∧ flag = decide (pair.2 = "true".toList)
  | paramType value, pair => pair = ("type".toList, value)
  | description value, pair => pair = ("descr".toList, value)

theorem cut?_pairToken {pair : Text × Text} (plain : '=' ∉ pair.1) :
    (pairToken pair).cut? '=' = some pair :=
  Text.cut?_eq_some_iff.mpr ⟨rfl, plain⟩

theorem pairToken_of_cut? {token : Text} {pair : Text × Text} (found : token.cut? '=' = some pair) :
    token = pairToken pair :=
  (Text.cut?_eq_some_iff.mp found).1

theorem Setting.Matches.plain {s : Setting} {pair : Text × Text} (matched : s.Matches pair) :
    '=' ∉ pair.1 := by
  cases s with
  | required flag => rw [matched.1]; decide
  | _ => rw [matched]; simp

theorem Location.ofText_eq_ok_iff {value : Text} {place : Location} :
    Location.ofText value = .ok place ↔ place.name = value := by
  constructor
  · intro accepted
    apply Location.name_of_ofName?
    cases found : Location.ofName? value <;> simp_all [Location.ofText]
  · rintro rfl
    simp [Location.ofText, Location.ofName?_name]

theorem Setting.ofToken_eq_ok_iff {token : Text} {s : Setting} :
    ofToken token = .ok s ↔ ∃ pair, token = pairToken pair ∧ s.Matches pair := by
  constructor
  · intro accepted
    cases found : token.cut? '=' with
    | none => simp [ofToken, found] at accepted
    | some pair =>
      refine ⟨pair, pairToken_of_cut? found, ?_⟩
      obtain ⟨key, value⟩ := pair
      simp only [ofToken, found] at accepted
      split_ifs at accepted with isIn isName isRequired isType isDescr
      · cases read : Location.ofText value with
        | error e => simp [read, Except.map] at accepted
        | ok place =>
          have named := Location.ofText_eq_ok_iff.mp read
          simp only [read, Except.map, Except.ok.injEq] at accepted
          subst accepted
          simp [Matches, isIn, named]
      all_goals
        simp only [Except.ok.injEq] at accepted
        subst accepted
        simp [Matches, *]
  · rintro ⟨pair, rfl, matched⟩
    rw [ofToken, cut?_pairToken matched.plain]
    cases s with
    | location place =>
      rw [matched]
      simp [Location.ofText_eq_ok_iff.mpr rfl, Except.map]
    | required flag =>
      obtain ⟨key, flagIs⟩ := matched
      simp [key, flagIs]
    | _ =>
      rw [matched]
      simp

-- The last pair of each key counts.
structure Draft.Agrees (draft : Draft) (pairs : List (Text × Text)) : Prop where
  location : draft.location?.map Location.name = lastValue? "in" pairs
  name : draft.name = (lastValue? "name" pairs).getD []
  required : draft.required = decide (lastValue? "required" pairs = some "true".toList)
  paramType : draft.paramType = (lastValue? "type" pairs).getD []
  description : draft.description = (lastValue? "descr" pairs).getD []

theorem Draft.Agrees.set {draft : Draft} {pairs : List (Text × Text)} (agrees : draft.Agrees pairs)
    {s : Setting} {pair : Text × Text} (matched : s.Matches pair) :
    (draft.set s).Agrees (pairs ++ [pair]) := by
  obtain ⟨key, value⟩ := pair
  cases s with
  | required flag =>
    obtain ⟨rfl, rfl⟩ := matched
    constructor <;> simp [lastValue?_append, Draft.set, agrees.location, agrees.name,
      agrees.paramType, agrees.description]
  | _ =>
    obtain ⟨rfl, rfl⟩ := matched
    constructor <;> simp [lastValue?_append, Draft.set, agrees.location, agrees.name,
      agrees.required, agrees.paramType, agrees.description]

theorem Draft.Agrees.foldl {pairs : List (Text × Text)} {settings : List Setting}
    (matched : List.Forall₂ Setting.Matches settings pairs) {draft : Draft}
    {done : List (Text × Text)} (agrees : draft.Agrees done) :
    (settings.foldl Draft.set draft).Agrees (done ++ pairs) := by
  induction matched generalizing draft done with
  | nil => simpa using agrees
  | cons here _ ih => simpa using ih (agrees.set here)

theorem Draft.agrees_ofSettings {pairs : List (Text × Text)} {settings : List Setting}
    (matched : List.Forall₂ Setting.Matches settings pairs) :
    (Draft.ofSettings settings).Agrees pairs := by
  have initial : Draft.Agrees {} [] := by constructor <;> rfl
  exact Draft.Agrees.foldl matched initial

structure Parameter.Denotes (p : Parameter) (pairs : List (Text × Text)) : Prop where
  location : p.location.name = (lastValue? "in" pairs).getD "query".toList
  name : p.name = (lastValue? "name" pairs).getD []
  required :
    p.required = true ↔ p.location = .path ∨ lastValue? "required" pairs = some "true".toList
  paramType : p.paramType = (lastValue? "type" pairs).getD []
  description : p.description = (lastValue? "descr" pairs).getD []
  remote : p.location = .request → p.name = remoteAddress

theorem Location.name_injective {a b : Location} (same : a.name = b.name) : a = b := by
  have found := ofName?_name a
  rw [same, ofName?_name b] at found
  exact (Option.some.inj found).symm

theorem Draft.Agrees.location_getD {draft : Draft} {pairs : List (Text × Text)}
    (agrees : draft.Agrees pairs) :
    (draft.location?.getD .query).name = (lastValue? "in" pairs).getD "query".toList := by
  rw [← agrees.location]
  cases draft.location? <;> rfl

theorem Draft.Agrees.finish_eq_ok_iff {draft : Draft} {pairs : List (Text × Text)}
    (agrees : draft.Agrees pairs) {argName : Text} {p : Parameter} :
    draft.finish argName = .ok p ↔ p.Denotes pairs := by
  constructor
  · intro accepted
    by_cases refused : draft.location? = some .request ∧ draft.name ≠ remoteAddress
    · simp [finish, refused] at accepted
    · simp only [finish, refused, if_false, Except.ok.injEq] at accepted
      subst accepted
      constructor
      · exact agrees.location_getD
      · exact agrees.name
      · cases place : draft.location? with
        | none => simp [agrees.required]
        | some place => simp [agrees.required]
      · exact agrees.paramType
      · exact agrees.description
      · intro request
        cases place : draft.location? <;> simp_all
  · intro denotes
    have place : draft.location?.getD .query = p.location :=
      Location.name_injective (agrees.location_getD.trans denotes.location.symm)
    have allowed : ¬ (draft.location? = some .request ∧ draft.name ≠ remoteAddress) := by
      rintro ⟨request, other⟩
      rw [request] at place
      exact other (agrees.name.trans (denotes.name.symm.trans (denotes.remote place.symm)))
    have path : draft.location? = some .path ↔ p.location = .path := by
      rw [← place]
      cases draft.location? <;> simp
    simp only [finish, allowed, if_false, Except.ok.injEq]
    obtain ⟨_, _, required, _, _⟩ := p
    simp only [Parameter.mk.injEq]
    refine ⟨place, agrees.name.trans denotes.name.symm, ?_,
      agrees.paramType.trans denotes.paramType.symm,
      agrees.description.trans denotes.description.symm⟩
    have forced := denotes.required
    rw [Bool.eq_iff_iff, forced, agrees.required]
    simp [path]

theorem Setting.exists_matches_iff {pair : Text × Text} :
    (∃ s : Setting, s.Matches pair) ↔ IsOption pair := by
  obtain ⟨key, value⟩ := pair
  constructor
  · rintro ⟨s, matched⟩
    cases s with
    | location place =>
      obtain ⟨rfl, rfl⟩ := matched
      cases place <;> simp [IsOption, optionKeys]
    | required flag =>
      obtain ⟨rfl, rfl⟩ := matched
      simp [IsOption, optionKeys]
    | _ =>
      obtain ⟨rfl, rfl⟩ := matched
      simp [IsOption, optionKeys]
  · rintro ⟨known, accepted⟩
    simp only [optionKeys, List.mem_cons, List.not_mem_nil, or_false] at known
    rcases known with rfl | rfl | rfl | rfl | rfl
    · obtain ⟨place, -, named⟩ := List.mem_map.mp (accepted rfl)
      exact ⟨.location place, by simp [Matches, named]⟩
    · exact ⟨.name value, rfl⟩
    · exact ⟨.required (decide (value = "true".toList)), rfl, rfl⟩
    · exact ⟨.paramType value, rfl⟩
    · exact ⟨.description value, rfl⟩

theorem Setting.exists_forall₂_matches {pairs : List (Text × Text)}
    (options : ∀ pair ∈ pairs, IsOption pair) :
    ∃ settings, List.Forall₂ Setting.Matches settings pairs := by
  obtain ⟨settings, matched⟩ :=
    exists_forall₂ fun pair member => exists_matches_iff.mpr (options pair member)
  exact ⟨settings, matched.flip⟩

theorem Setting.isOption_of_forall₂ {settings : List Setting} {pairs : List (Text × Text)}
    (matched : List.Forall₂ Setting.Matches settings pairs) : ∀ pair ∈ pairs, IsOption pair := by
  induction matched with
  | nil => simp
  | cons here _ ih => exact List.forall_mem_cons.mpr ⟨exists_matches_iff.mp ⟨_, here⟩, ih⟩

theorem Setting.mapM_ofToken_eq_ok_iff {tokens : List Text} {settings : List Setting} :
    tokens.mapM ofToken = .ok settings ↔
      ∃ pairs, tokens = pairs.map pairToken ∧ List.Forall₂ Setting.Matches settings pairs := by
  rw [mapM_eq_ok_iff]
  constructor
  · intro accepted
    induction accepted with
    | nil => exact ⟨[], rfl, .nil⟩
    | cons here _ ih =>
      obtain ⟨pair, rfl, matched⟩ := ofToken_eq_ok_iff.mp here
      obtain ⟨pairs, rfl, rest⟩ := ih
      exact ⟨pair :: pairs, rfl, .cons matched rest⟩
  · rintro ⟨pairs, rfl, matched⟩
    induction matched with
    | nil => exact .nil
    | cons here _ ih => exact .cons (ofToken_eq_ok_iff.mpr ⟨_, rfl, here⟩) ih

theorem Parameter.exists_draft (argName : Text) {group : Text} {pairs : List (Text × Text)}
    (spaced : Text.Spaced (pairs.map pairToken) group) (options : ∀ pair ∈ pairs, IsOption pair) :
    ∃ draft : Draft, draft.Agrees pairs ∧ ofGroup argName group = draft.finish argName := by
  obtain ⟨settings, matched⟩ := Setting.exists_forall₂_matches options
  have read : group.words.mapM Setting.ofToken = .ok settings := by
    rw [Text.words_eq_iff.mpr spaced]
    exact Setting.mapM_ofToken_eq_ok_iff.mpr ⟨pairs, rfl, matched⟩
  refine ⟨Draft.ofSettings settings, Draft.agrees_ofSettings matched, ?_⟩
  rw [ofGroup, read]
  rfl

theorem Parameter.ofGroup_eq_ok_iff {argName group : Text} {p : Parameter} :
    ofGroup argName group = .ok p ↔
      ∃ pairs, Text.Spaced (pairs.map pairToken) group ∧ (∀ pair ∈ pairs, IsOption pair) ∧
        p.Denotes pairs := by
  constructor
  · intro accepted
    cases read : group.words.mapM Setting.ofToken with
    | error e =>
      rw [ofGroup, read] at accepted
      exact nomatch accepted
    | ok settings =>
      rw [ofGroup, read] at accepted
      obtain ⟨pairs, tokens, matched⟩ := Setting.mapM_ofToken_eq_ok_iff.mp read
      exact ⟨pairs, Text.words_eq_iff.mp tokens, Setting.isOption_of_forall₂ matched,
        (Draft.agrees_ofSettings matched).finish_eq_ok_iff.mp accepted⟩
  · rintro ⟨pairs, spaced, options, denotes⟩
    obtain ⟨draft, agrees, read⟩ := exists_draft argName spaced options
    rw [read]
    exact agrees.finish_eq_ok_iff.mpr denotes

theorem Parameter.ofGroup_between {before after : Text} (argName group : Text)
    (blankBefore : Text.Blank before) (blankAfter : Text.Blank after) :
    ofGroup argName (before ++ group ++ after) = ofGroup argName group := by
  rw [ofGroup, ofGroup, Text.words_between group blankBefore blankAfter]

end RequestBinding
