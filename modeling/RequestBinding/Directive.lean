import RequestBinding.Log
import RequestBinding.Text.Basic
import RequestBinding.Text.Quoted

set_option autoImplicit false

namespace RequestBinding

inductive Location where
  | path
  | query
  | header
  | request
  deriving DecidableEq, Repr

namespace Location

def all : List Location := [path, query, header, request]

def name : Location → Text
  | path => "path".toList
  | query => "query".toList
  | header => "header".toList
  | request => "request".toList

def ofName? (t : Text) : Option Location :=
  all.find? fun location => location.name = t

theorem ofName?_name (location : Location) : ofName? location.name = some location := by
  cases location <;> decide

theorem name_of_ofName? {t : Text} {location : Location} (h : ofName? t = some location) :
    location.name = t := by
  simpa using List.find?_some h

end Location

-- The only field of the request itself that an argument may be bound to.
def remoteAddress : Text := "RemoteAddr".toList

-- An empty name stands for the name of the argument.
structure Parameter where
  location : Location := .query
  name : Text := []
  required : Bool := false
  paramType : Text := []
  description : Text := []
  deriving DecidableEq, Repr

structure Binding where
  argName : Text
  options : List Parameter := []
  deriving DecidableEq, Repr

structure Alternatives where
  front : List Text
  last : Text
  deriving DecidableEq

def Alternatives.ofList? (values : List Text) : Option Alternatives :=
  values.getLast?.map fun last => ⟨values.dropLast, last⟩

def Alternatives.phrase (a : Alternatives) : Text :=
  let inQuotes (value : Text) : Text := '"' :: value ++ ['"']
  Text.joined ", " (a.front.map inQuotes) ++ " or ".toList ++ inQuotes a.last

def Location.alternatives : Alternatives :=
  ⟨[Location.path.name, Location.query.name, Location.header.name], Location.request.name⟩

inductive DirectiveError where
  | general (message text : Text)
  | emptyInput
  | invalidDirective (segment : Text)
  | invalidPair (token : Text)
  | unknownOption (key token : Text)
  | invalidLocation (value : Text) (accepted : Alternatives)
  | unsupportedRequestField (argName field allowed : Text)
  deriving DecidableEq

namespace DirectiveError

def message : DirectiveError → Text
  | general message _ => message
  | emptyInput => "empty parameter directive".toList
  | invalidDirective segment => "invalid directive arguments: ".toList ++ Text.quoted segment
  | invalidPair token => "invalid parameter pair: ".toList ++ token
  | unknownOption key token =>
    "unknown option ".toList ++ Text.quoted key ++ " in directive argument: ".toList ++ token
  | invalidLocation value accepted =>
    "invalid location value: ".toList ++ value ++ " (must be ".toList ++ accepted.phrase ++ [')']
  | unsupportedRequestField argName field allowed =>
    "argument \"".toList ++ argName ++ "\" tries to extract value from `request.".toList ++
      field ++ "`, but only `request.".toList ++ allowed ++ "` is available".toList

def text : DirectiveError → Text
  | general _ text => text
  | emptyInput => []
  | invalidDirective segment => segment
  | invalidPair token => token
  | unknownOption _ token => token
  | invalidLocation value _ => value
  | unsupportedRequestField _ field _ => field

end DirectiveError

def Location.ofText (value : Text) : Except DirectiveError Location :=
  match Location.ofName? value with
  | some location => .ok location
  | none => .error (.invalidLocation value Location.alternatives)

inductive Setting where
  | location (value : Location)
  | name (value : Text)
  | required (value : Bool)
  | paramType (value : Text)
  | description (value : Text)
  deriving DecidableEq

def Setting.ofToken (token : Text) : Except DirectiveError Setting :=
  match token.cut? '=' with
  | none => .error (.invalidPair token)
  | some (key, value) =>
    if key = "in".toList then (Location.ofText value).map location
    else if key = "name".toList then .ok (name value)
    else if key = "required".toList then .ok (required (value = "true".toList))
    else if key = "type".toList then .ok (paramType value)
    else if key = "descr".toList then .ok (description value)
    else .error (.unknownOption key token)

structure Draft where
  location? : Option Location := none
  name : Text := []
  required : Bool := false
  paramType : Text := []
  description : Text := []
  deriving DecidableEq

def Draft.set (draft : Draft) : Setting → Draft
  | .location value => { draft with location? := some value }
  | .name value => { draft with name := value }
  | .required value => { draft with required := value }
  | .paramType value => { draft with paramType := value }
  | .description value => { draft with description := value }

def Draft.ofSettings (settings : List Setting) : Draft :=
  settings.foldl Draft.set {}

def Draft.finish (argName : Text) (draft : Draft) : Except DirectiveError Parameter :=
  if draft.location? = some .request ∧ draft.name ≠ remoteAddress then
    .error (.unsupportedRequestField argName draft.name remoteAddress)
  else
    .ok
      { location := draft.location?.getD .query
        name := draft.name
        required := decide (draft.location? = some .path) || draft.required
        paramType := draft.paramType
        description := draft.description }

def Parameter.ofGroup (argName group : Text) : Except DirectiveError Parameter := do
  -- All tokens are read before the group is judged as a whole.
  let settings ← group.words.mapM Setting.ofToken
  (Draft.ofSettings settings).finish argName

-- An empty group is a parameter of its own.
def Parameter.ofGroups (argName text : Text) : Except DirectiveError (List Parameter) :=
  (text.splitOn ',').mapM (Parameter.ofGroup argName)

def Binding.ofSegment (segment : Text) : Except DirectiveError Binding :=
  let body := segment.strip
  let argName := body.takeWhile Text.isNameChar
  let rest := body.dropWhile Text.isNameChar
  if argName = [] ∨ '\n' ∈ rest then
    .error (.invalidDirective body)
  else if Text.strip rest = [] then
    .ok { argName }
  else
    (Parameter.ofGroups argName (Text.strip rest)).map fun options => { argName, options }

def Binding.record (b : Binding) : Record where
  level := .debug
  source := .directives
  message :=
    "Binding ".toList ++ b.argName ++ ": ".toList ++ Text.decimal b.options.length ++
      " option group(s)".toList

namespace Directive

def parsedRecord (body : Text) (count : Nat) : Record where
  level := .debug
  source := .directives
  message :=
    "Parsed ".toList ++ Text.decimal count ++ " binding(s) from ".toList ++ Text.quoted body

def parse (text : Text) : Logged DirectiveError (List Binding) :=
  let body := text.strip
  if body = [] then
    .fail .emptyInput
  else
    (Logged.each
        (fun segment =>
          (Logged.ofExcept (Binding.ofSegment segment)).noting fun b => [b.record])
        (body.splitOn ';')).noting
      fun bindings => [parsedRecord body bindings.length]

end Directive

end RequestBinding
