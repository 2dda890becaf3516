import RequestBinding.Comment
import RequestBinding.Datum.Basic
import RequestBinding.Directive
import RequestBinding.Schema.Problem
import RequestBinding.Text.Basic

set_option autoImplicit false

namespace RequestBinding

def Parameter.toDatum (p : Parameter) : Datum :=
  .object
    [("location".toList, .text p.location.name), ("name".toList, .text p.name),
      ("required".toList, .bool p.required), ("param_type".toList, .text p.paramType),
      ("description".toList, .text p.description)]

def Binding.toDatum (b : Binding) : Datum :=
  .object
    [("arg_name".toList, .text b.argName),
      ("options".toList, .list (b.options.map Parameter.toDatum))]

def Comment.toDatum (c : Comment) : Datum :=
  .object [("line".toList, .int c.line), ("text".toList, .text c.text)]

def Finding.toDatum (f : Finding) : Datum :=
  .object
    [("line".toList, .int f.line), ("bindings".toList, .list (f.bindings.map Binding.toDatum))]

def trueWords : List Text :=
  ["true".toList, "t".toList, "yes".toList, "y".toList, "on".toList, "1".toList]

def falseWords : List Text :=
  ["false".toList, "f".toList, "no".toList, "n".toList, "off".toList, "0".toList]

def boolOfWord? (t : Text) : Option Bool :=
  if (t.map Char.toLower) ∈ trueWords then some true
  else if (t.map Char.toLower) ∈ falseWords then some false
  else none

def plainNat? (t : Text) : Option Nat :=
  if t = [] ∨ ¬ t.all Char.isDigit ∨ (t.head? = some '0' ∧ t ≠ ['0']) then none
  else some (t.foldl (fun value c => value * 10 + (c.toNat - '0'.toNat)) 0)

def plainInt? : Text → Option Int
  | '-' :: digits => (plainNat? digits).map fun n => -(n : Int)
  | digits => (plainNat? digits).map fun n => (n : Int)

-- A point counts only with zeros behind it, and only with nothing else.
def withoutFraction (t : Text) : Text :=
  match t.cut? '.' with
  | some (whole, zeros) => if zeros ≠ [] ∧ zeros.all (· = '0') then whole else t
  | none => t

-- Where nothing else stands, the last zero or underscore stays.
def withoutLeadingZeros (t : Text) : Text :=
  let rest := t.dropWhile fun c => c = '0' || c = '_'
  if rest = [] then t.drop (t.length - 1) else rest

def withoutGaps? (t : Text) : Option Text :=
  if [] ∈ t.splitOn '_' then none else some (t.splitOn '_').flatten

-- A minus sign behind the leading zeros becomes the sign of the number.
def plainForm? (t : Text) : Option Text :=
  if t.head?.any Char.isDigit then withoutGaps? (withoutLeadingZeros (withoutFraction t)) else none

def intOfText? (t : Text) : Option Int :=
  match Text.trimWhere Text.isSpace t with
  | '-' :: body => (plainForm? body).bind fun plain => plainInt? ('-' :: plain)
  | '+' :: body => (plainForm? body).bind plainInt?
  | body => (plainForm? body).bind plainInt?

namespace Datum

open Checked

def toText : Datum → Checked Text
  | text t => valid t
  | _ => problem .notText

@[simp] theorem toText_text (t : Text) : toText (text t) = valid t := rfl

def toBool : Datum → Checked Bool
  | bool b => valid b
  | int n => if n = 1 then valid true else if n = 0 then valid false else problem .unreadableBool
  | text t => ofOption .unreadableBool (boolOfWord? t)
  | _ => problem .notBool

@[simp] theorem toBool_bool (b : Bool) : toBool (bool b) = valid b := rfl

def toInt : Datum → Checked Int
  | int n => valid n
  | bool b => valid (if b then 1 else 0)
  | text t => ofOption .unreadableInt (intOfText? t)
  | _ => problem .notInt

@[simp] theorem toInt_int (n : Int) : toInt (int n) = valid n := rfl

def toLocation : Datum → Checked Location
  | text t => ofOption .notLocation (Location.ofName? t)
  | _ => problem .notLocation

@[simp] theorem toLocation_name (location : Location) :
    toLocation (text location.name) = valid location := by
  rw [toLocation, Location.ofName?_name, ofOption]

def toList {α : Type} (read : Datum → Checked α) : Datum → Checked (List α)
  | list items => eachFrom read 0 items
  | _ => problem .notList

end Datum

abbrev Fields := List (Text × Datum)

namespace Fields

variable {α : Type}

def required (fields : Fields) (name : String) (read : Datum → Checked α) : Checked α :=
  Checked.under (.key name.toList) <|
    match fields.lookup name.toList with
    | some value => read value
    | none => .problem .missing

def optional (fields : Fields) (name : String) (default : α) (read : Datum → Checked α) :
    Checked α :=
  match fields.lookup name.toList with
  | some value => (read value).under (.key name.toList)
  | none => .valid default

end Fields

-- Fields of other names are ignored, and no rule ties one field to another.

def Parameter.ofFields (fields : Fields) : Checked Parameter :=
  (fields.optional "location" .query Datum.toLocation).map Parameter.mk
    |>.apply (fields.optional "name" [] Datum.toText)
    |>.apply (fields.optional "required" false Datum.toBool)
    |>.apply (fields.optional "param_type" [] Datum.toText)
    |>.apply (fields.optional "description" [] Datum.toText)

def Parameter.ofDatum : Datum → Checked Parameter
  | .object fields => ofFields fields
  | _ => .problem (.notRecord "Parameter".toList)

def Binding.ofFields (fields : Fields) : Checked Binding :=
  (fields.required "arg_name" Datum.toText).map Binding.mk
    |>.apply (fields.optional "options" [] (Datum.toList Parameter.ofDatum))

def Binding.ofDatum : Datum → Checked Binding
  | .object fields => ofFields fields
  | _ => .problem (.notRecord "Binding".toList)

def Comment.ofFields (fields : Fields) : Checked Comment :=
  (fields.required "line" Datum.toInt).map Comment.mk
    |>.apply (fields.required "text" Datum.toText)

def Comment.ofDatum : Datum → Checked Comment
  | .object fields => ofFields fields
  | _ => .problem (.notRecord "DirectiveComment".toList)

end RequestBinding
