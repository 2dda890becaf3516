import RequestBinding.CommandLine.Switch
import RequestBinding.Comment
import RequestBinding.Datum.Basic
import RequestBinding.Text.Quoted

set_option autoImplicit false

namespace RequestBinding.CommandLine

inductive Page where
  | program
  | parse
  | scan
  deriving DecidableEq

namespace Page

def name : Page → Text
  | program => "main".toList
  | parse => "main parse".toList
  | scan => "main scan".toList

def usage (page : Page) : Text :=
  "Usage: ".toList ++ page.name ++
    match page with
    | program => " [OPTIONS] COMMAND [ARGS]...\n".toList
    | parse => " [OPTIONS] DIRECTIVE\n".toList
    | scan => " [OPTIONS] SOURCE_PATH\n".toList

def hint (page : Page) : Text :=
  "Try '".toList ++ page.name ++ " --help' for help.\n".toList

def about : Page → List String
  | program =>
    ["  Param Directive — parse HTTP parameter binding directives.", "", "Options:",
      "  -v, --verbose  Enable verbose (DEBUG) logging.",
      "  --help         Show this message and exit.", "", "Commands:",
      "  parse  Parse a single directive body and print its bindings.",
      "  scan   Find directive comments in a source file and print their bindings."]
  | parse =>
    ["  Parse a single directive body and print its bindings.", "", "Options:",
      "  --format [json|yaml]  Output format.",
      "  --help                Show this message and exit."]
  | scan =>
    ["  Find directive comments in a source file and print their bindings.", "", "Options:",
      "  --marker TEXT         Comment marker that introduces a directive.  [default:",
      "                        http:param]",
      "  --format [json|yaml]  Output format.",
      "  --help                Show this message and exit."]

def help (page : Page) : Text :=
  page.usage ++ '\n' :: page.about.flatMap fun line => line.toList ++ ['\n']

def switches : Page → Switches
  | program => ⟨[.verbose, .help], [('v', .verbose)], false⟩
  | parse => ⟨[.format, .help], [], true⟩
  | scan => ⟨[.marker, .format, .help], [], true⟩

def argument : Page → Text
  | program => "COMMAND".toList
  | parse => "DIRECTIVE".toList
  | scan => "SOURCE_PATH".toList

end Page

inductive Refusal where
  | badSwitch (fault : SwitchFault)
  | missingCommand
  | noSuchCommand (name : Text)
  | unknownFormat (value : Text)
  | missingArgument
  | missingFile (path : Text)
  | directory (path : Text)
  | extraArguments (first : Text) (more : List Text)
  deriving DecidableEq

namespace Refusal

def message (page : Page) : Refusal → Text
  -- Options with names close to an unknown one are not suggested.
  | badSwitch (.unknown name) => "No such option ".toList ++ Text.quoted name ++ ['.']
  | badSwitch (.valueMissing s) =>
    "Option ".toList ++ Text.quoted s.name ++ " requires an argument.".toList
  | badSwitch (.valueGiven s) =>
    "Option ".toList ++ Text.quoted s.name ++ " does not take a value.".toList
  | missingCommand => "Missing command.".toList
  | noSuchCommand name => "No such command ".toList ++ Text.quoted name ++ ['.']
  | unknownFormat value =>
    "Invalid value for '--format': ".toList ++ Text.quoted value ++ " is not one of ".toList ++
      Text.joined ", " (Format.all.map fun format => Text.quoted format.name) ++ ['.']
  | missingArgument => "Missing argument ".toList ++ Text.quoted page.argument ++ ['.']
  | missingFile path =>
    "Invalid value for ".toList ++ Text.quoted page.argument ++ ": File ".toList ++
      Text.quoted path ++ " does not exist.".toList
  | directory path =>
    "Invalid value for ".toList ++ Text.quoted page.argument ++ ": File ".toList ++
      Text.quoted path ++ " is a directory.".toList
  | extraArguments first more =>
    let noun := if more.isEmpty then "argument" else "arguments"
    "Got unexpected extra ".toList ++ noun.toList ++ " (".toList ++
      Text.joined " " (first :: more) ++ [')']

-- The usage of the command is recalled, unless only the value of an option is amiss.
def recallsUsage : Refusal → Bool
  | badSwitch (.valueMissing _) | badSwitch (.valueGiven _) => false
  | _ => true

end Refusal

end RequestBinding.CommandLine
