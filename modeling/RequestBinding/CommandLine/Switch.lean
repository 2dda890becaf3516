import RequestBinding.Text.Basic

set_option autoImplicit false

namespace RequestBinding.CommandLine

inductive Switch where
  | verbose
  | help
  | marker
  | format
  deriving DecidableEq

namespace Switch

def name : Switch → Text
  | verbose => "--verbose".toList
  | help => "--help".toList
  | marker => "--marker".toList
  | format => "--format".toList

def takesValue : Switch → Bool
  | verbose | help => false
  | marker | format => true

end Switch

-- If they are `mixed`, switches may also stand between the arguments and behind them.
structure Switches where
  named : List Switch
  letters : List (Char × Switch)
  mixed : Bool

inductive SwitchFault where
  | unknown (name : Text)
  | valueMissing (s : Switch)
  | valueGiven (s : Switch)
  deriving DecidableEq

inductive Word where
  | argument
  | terminator
  | given (switches : List (Switch × Text))
  | awaiting (s : Switch)

namespace Switches

def find? (switches : Switches) (name : Text) : Option Switch :=
  switches.named.find? fun s => s.name = name

def ofLetters (switches : Switches) : Text → Except SwitchFault (List (Switch × Text))
  | [] => .ok []
  | c :: rest =>
    match switches.letters.lookup c with
    | some s => (switches.ofLetters rest).map ((s, []) :: ·)
    | none => .error (.unknown ['-', c])

def ofName (s : Switch) : (value? : Option Text) → Except SwitchFault Word
  | some value => if s.takesValue then .ok (.given [(s, value)]) else .error (.valueGiven s)
  | none => if s.takesValue then .ok (.awaiting s) else .ok (.given [(s, [])])

def classify (switches : Switches) (word : Text) : Except SwitchFault Word :=
  match word with
  | ['-', '-'] => .ok .terminator
  | '-' :: c :: rest =>
    let (name, value?) :=
      match word.cut? '=' with
      | some (name, value) => (name, some value)
      | none => (word, none)
    match switches.find? name with
    | some s => ofName s value?
    | none =>
      -- One dash in front makes a group of letters of what is no name.
      if c = '-' then .error (.unknown name) else (switches.ofLetters (c :: rest)).map .given
  | _ => .ok .argument

end Switches

structure Words where
  given : List (Switch × Text)
  arguments : List Text

namespace Words

def has (w : Words) (s : Switch) : Bool :=
  w.given.any fun entry => entry.1 = s

def value? (w : Words) (s : Switch) : Option Text :=
  (w.given.reverse.find? fun entry => entry.1 = s).map Prod.snd

def addSwitches (switches : List (Switch × Text)) (w : Words) : Words :=
  { w with given := switches ++ w.given }

def addArgument (argument : Text) (w : Words) : Words :=
  { w with arguments := argument :: w.arguments }

def read (switches : Switches) : (awaiting : Option Switch) → List Text → Except SwitchFault Words
  | none, [] => .ok ⟨[], []⟩
  | some s, [] => .error (.valueMissing s)
  -- The next word is the value, whatever it looks like.
  | some s, value :: rest => (read switches none rest).map (addSwitches [(s, value)])
  | none, word :: rest =>
    match switches.classify word with
    | .error fault => .error fault
    | .ok .terminator => .ok ⟨[], rest⟩
    | .ok (.given found) => (read switches none rest).map (addSwitches found)
    | .ok (.awaiting s) => read switches (some s) rest
    | .ok .argument =>
      if switches.mixed then (read switches none rest).map (addArgument word)
      else .ok ⟨[], word :: rest⟩

end Words

end RequestBinding.CommandLine
