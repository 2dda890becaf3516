import RequestBinding.Datum.YamlScalar
import RequestBinding.Text.Basic
import RequestBinding.Text.Quoted

set_option autoImplicit false

namespace RequestBinding

inductive Datum where
  | null
  | bool (b : Bool)
  | int (n : Int)
  | text (t : Text)
  | list (items : List Datum)
  | object (fields : List (Text × Datum))

theorem Datum.elementInduction {P : Datum → Prop} (null : P .null) (bool : ∀ flag, P (.bool flag))
    (int : ∀ n, P (.int n)) (text : ∀ content, P (.text content))
    (list : ∀ items, (∀ item ∈ items, P item) → P (.list items))
    (object : ∀ fields, (∀ field ∈ fields, P field.2) → P (.object fields)) : ∀ d, P d
  | .null => null
  | .bool flag => bool flag
  | .int n => int n
  | .text content => text content
  | .list items => list items fun item _ => elementInduction null bool int text list object item
  | .object fields =>
    object fields fun field _ => elementInduction null bool int text list object field.2
decreasing_by
  all_goals simp only [Datum.list.sizeOf_spec, Datum.object.sizeOf_spec]
  · have smaller := List.sizeOf_lt_of_mem ‹item ∈ items›
    omega
  · have smaller := List.sizeOf_lt_of_mem ‹field ∈ fields›
    have value : sizeOf field = 1 + sizeOf field.1 + sizeOf field.2 := rfl
    omega

namespace Datum

def jsonChar (c : Char) : Text :=
  if c = '"' || c = '\\' then ['\\', c]
  else if c = '\n' then ['\\', 'n']
  else if c = '\r' then ['\\', 'r']
  else if c = '\t' then ['\\', 't']
  else if c = '\x08' then ['\\', 'b']
  else if c = '\x0c' then ['\\', 'f']
  else if c.toNat < 0x20 then '\\' :: 'u' :: Text.hex Text.lowerDigits 4 c.toNat
  else [c]

def jsonText (t : Text) : Text :=
  '"' :: t.flatMap jsonChar ++ ['"']

def jsonBreak (margin : Nat) (first : Bool) : Text :=
  if first then Text.newline margin else ',' :: Text.newline margin

-- Brackets around nothing stay on one line.
def jsonClose {α : Type} (margin : Nat) (content : List α) (bracket : Char) : Text :=
  if content.isEmpty then [bracket] else Text.newline margin ++ [bracket]

mutual

def json (margin : Nat) : Datum → Text
  | null => "null".toList
  | bool b => if b then "true".toList else "false".toList
  | int n => Text.decimal n
  | text t => jsonText t
  | list items => '[' :: jsonItems (margin + 2) true items ++ jsonClose margin items ']'
  | object fields => '{' :: jsonFields (margin + 2) true fields ++ jsonClose margin fields '}'

def jsonItems (margin : Nat) (first : Bool) : List Datum → Text
  | [] => []
  | item :: rest =>
    jsonBreak margin first ++ item.json margin ++ jsonItems margin false rest

def jsonFields (margin : Nat) (first : Bool) : List (Text × Datum) → Text
  | [] => []
  | (key, value) :: rest =>
    jsonBreak margin first ++ jsonText key ++ ": ".toList ++ value.json margin ++
      jsonFields margin false rest

end

-- How the text of a value is set off from the key ahead of it, and the margin of its lines.
def yamlLead (margin : Nat) : Datum → Text
  | list (_ :: _) => Text.newline margin
  | object (_ :: _) => Text.newline (margin + 2)
  | _ => [' ']

def yamlInner (margin : Nat) : Datum → Nat
  | object (_ :: _) => margin + 2
  | _ => margin

def yamlBreak (margin : Nat) (first : Bool) : Text :=
  if first then [] else Text.newline margin

mutual

def yaml (margin column : Nat) : Datum → Text
  | null => "null".toList
  | bool b => if b then "true".toList else "false".toList
  | int n => Text.decimal n
  | text t => Yaml.scalar (margin + 2) column t
  | list items => if items.isEmpty then "[]".toList else yamlItems margin true items
  | object fields => if fields.isEmpty then ['{', '}'] else yamlFields margin true fields

def yamlItems (margin : Nat) (first : Bool) : List Datum → Text
  | [] => []
  | item :: rest =>
    yamlBreak margin first ++ "- ".toList ++ item.yaml (margin + 2) (margin + 2) ++
      yamlItems margin false rest

def yamlFields (margin : Nat) (first : Bool) : List (Text × Datum) → Text
  | [] => []
  | (key, value) :: rest =>
    yamlBreak margin first ++ key ++ ':' :: yamlLead margin value ++
      value.yaml (yamlInner margin value) (margin + key.length + 2) ++
      yamlFields margin false rest

end

end Datum

inductive Format where
  | json
  | yaml
  deriving DecidableEq

namespace Format

def all : List Format := [json, yaml]

def name : Format → Text
  | json => "json".toList
  | yaml => "yaml".toList

def ofName? (t : Text) : Option Format :=
  all.find? fun format => format.name = t

def render (format : Format) (d : Datum) : Text :=
  match format with
  | json => d.json 0
  | yaml => d.yaml 0 0

end Format

end RequestBinding
