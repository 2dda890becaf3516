import RequestBinding.CommandLine.FileTree
import RequestBinding.CommandLine.Usage
import RequestBinding.Schema.Validation
import RequestBinding.Text.Basic

set_option autoImplicit false

namespace RequestBinding.CommandLine

-- A fault that no notice covers goes on to the caller.
structure Outcome where
  exit : Nat
  stdout : Text := []
  notice : Text := []
  fault? : Option Utf8.Fault := none
  log : List Record := []
  verbose : Bool := false
  deriving DecidableEq

-- Records are kept in any case, and shown ahead of the notice if that was asked for.
def Outcome.stderr (outcome : Outcome) : Text :=
  (if outcome.verbose then outcome.log.flatMap Record.line else []) ++ outcome.notice

-- A run is settled by its arguments, or else needs to know what one path leads to.
inductive Plan where
  | settled (outcome : Outcome)
  | lookUp (path : Text) (next : Node → Outcome)

def Plan.run (tree : FileTree) : Plan → Outcome
  | .settled outcome => outcome
  | .lookUp path next => next (tree.find path)

-- What goes to a terminal cannot control it.
def echo (t : Text) : Text :=
  Text.removeControl t ++ ['\n']

def errorLine (message : Text) : Text :=
  echo ("Error: ".toList ++ message)

def Outcome.help (page : Page) : Outcome :=
  { exit := 0, stdout := page.help }

def Outcome.refused (page : Page) (refusal : Refusal) : Outcome :=
  let recalled := if refusal.recallsUsage then page.usage ++ page.hint ++ ['\n'] else []
  { exit := 2, notice := recalled ++ errorLine (refusal.message page) }

def Outcome.failed (message : Text) : Outcome :=
  { exit := 1, notice := errorLine message }

def Outcome.ofLogged {ε α : Type} (verbose : Bool) (failure : ε → Outcome) (success : α → Outcome)
    (x : Logged ε α) : Outcome :=
  let outcome :=
    match x.outcome with
    | .ok a => success a
    | .error e => failure e
  { outcome with log := x.log, verbose }

def parseOutcome (verbose : Bool) (format : Format) (directive : Text) : Outcome :=
  Outcome.ofLogged verbose (fun error => .failed error.message)
    (fun bindings =>
      { exit := 0, stdout := echo (format.render (.list (bindings.map Binding.toDatum))) })
    (Directive.parse directive)

def noDirectivesLine (marker path : Text) : Text :=
  echo ("No '".toList ++ marker ++ "' directives found in ".toList ++ path ++ ['.'])

def scanFailure (path : Text) : SourceError → Outcome
  | .encoding fault => { exit := 1, fault? := some fault }
  | .directive line error =>
    .failed (path ++ ':' :: Text.decimal line ++ ": ".toList ++ error.message)

def scanSuccess (marker path : Text) (format : Format) (found : List Finding) : Outcome where
  exit := 0
  stdout := echo (format.render (.list (found.map Finding.toDatum)))
  notice := if found.isEmpty then noDirectivesLine marker path else []

def scanOutcome (verbose : Bool) (marker : Text) (format : Format) (file : SourceFile) : Outcome :=
  Outcome.ofLogged verbose (scanFailure file.path) (scanSuccess marker file.path format)
    (file.findings marker)

def Words.format (words : Words) : Except Text Format :=
  match words.value? .format with
  | none => .ok .json
  | some value =>
    match Format.ofName? value with
    | some format => .ok format
    | none => .error value

def commandPlan (page : Page) (args : List Text)
    (next : Words → Format → Text → List Text → Plan) : Plan :=
  match Words.read page.switches none args with
  | .error fault => .settled (.refused page (.badSwitch fault))
  | .ok words =>
    if words.has .help then .settled (.help page)
    else
      match words.format with
      | .error value => .settled (.refused page (.unknownFormat value))
      | .ok format =>
        match words.arguments with
        | [] => .settled (.refused page .missingArgument)
        | argument :: extra => next words format argument extra

def Outcome.unlessExtra (page : Page) (extra : List Text) (outcome : Outcome) : Outcome :=
  match extra with
  | [] => outcome
  | first :: more => .refused page (.extraArguments first more)

def parsePlan (verbose : Bool) (args : List Text) : Plan :=
  commandPlan .parse args fun _ format directive extra =>
    .settled (.unlessExtra .parse extra (parseOutcome verbose format directive))

def Words.markerOr (words : Words) (setting? : Option Text) : Text :=
  (words.value? .marker).getD <| (setting?.filter (!·.isEmpty)).getD Comment.defaultMarker

def scanPlan (verbose : Bool) (setting? : Option Text) (args : List Text) : Plan :=
  commandPlan .scan args fun words format path extra =>
    .lookUp path fun node =>
      match node with
      | .missing => .refused .scan (.missingFile path)
      | .directory => .refused .scan (.directory path)
      | .file bytes =>
        .unlessExtra .scan extra <|
          scanOutcome verbose (words.markerOr setting?) format ⟨shownPath path, bytes⟩

-- A word that names no command may still be an option of the program, behind a `--`.
def unknownCommandPlan (name : Text) (args : List Text) : Plan :=
  .settled <|
    match Words.read Page.program.switches none (name :: args) with
    | .error fault => .refused .program (.badSwitch fault)
    | .ok words =>
      if words.has .help then .help .program else .refused .program (.noSuchCommand name)

def plan (setting? : Option Text) (args : List Text) : Plan :=
  if args = [] then .settled { exit := 2, notice := Page.program.help }
  else
    match Words.read Page.program.switches none args with
    | .error fault => .settled (.refused .program (.badSwitch fault))
    | .ok words =>
      if words.has .help then .settled (.help .program)
      else
        match words.arguments with
        | [] => .settled (.refused .program .missingCommand)
        | name :: rest =>
          if name = "parse".toList then parsePlan (words.has .verbose) rest
          else if name = "scan".toList then scanPlan (words.has .verbose) setting? rest
          else unknownCommandPlan name rest

def run (tree : FileTree) (setting? : Option Text) (args : List Text) : Outcome :=
  (plan setting? args).run tree

end RequestBinding.CommandLine
