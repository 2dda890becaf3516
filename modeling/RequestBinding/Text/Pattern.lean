import RequestBinding.Text.Basic

set_option autoImplicit false

namespace RequestBinding.Text

inductive Pattern where
  | never
  | empty
  | oneOf (chars : Text)
  | both (p q : Pattern)
  | either (p q : Pattern)
  | many (p : Pattern)

namespace Pattern

def acceptsEmpty : Pattern → Bool
  | never => false
  | empty => true
  | oneOf _ => false
  | both p q => p.acceptsEmpty && q.acceptsEmpty
  | either p q => p.acceptsEmpty || q.acceptsEmpty
  | many _ => true

-- These two keep the patterns that `after` builds from growing with the text.
def andThen : Pattern → Pattern → Pattern
  | never, _ => never
  | empty, q => q
  | p, q => both p q

def orElse : Pattern → Pattern → Pattern
  | never, q => q
  | p, never => p
  | p, q => either p q

def after (c : Char) : Pattern → Pattern
  | never => never
  | empty => never
  | oneOf chars => if chars.contains c then empty else never
  | both p q =>
    if p.acceptsEmpty then ((p.after c).andThen q).orElse (q.after c) else (p.after c).andThen q
  | either p q => (p.after c).orElse (q.after c)
  | many p => (p.after c).andThen (many p)

def accepts (p : Pattern) (t : Text) : Bool :=
  (t.foldl (fun left c => left.after c) p).acceptsEmpty

def chars (s : String) : Pattern :=
  oneOf s.toList

def sequence : List Pattern → Pattern
  | [] => empty
  | p :: more => both p (sequence more)

def anyOf : List Pattern → Pattern
  | [] => never
  | p :: more => either p (anyOf more)

def word (choices : List String) : Pattern :=
  anyOf (choices.map fun choice => sequence (choice.toList.map fun c => oneOf [c]))

def optional (p : Pattern) : Pattern :=
  either empty p

def atLeastOne (p : Pattern) : Pattern :=
  both p (many p)

end Pattern

end RequestBinding.Text
