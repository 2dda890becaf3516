import RequestBinding.Text.Pattern
import RequestBinding.Text.Quoted

set_option autoImplicit false

namespace RequestBinding.Yaml

open RequestBinding.Text (Pattern)
open RequestBinding.Text.Pattern

-- The words and forms that a plain scalar would give to a value other than a text.

def digit : Pattern := chars "0123456789"

def digitOrGap : Pattern := chars "0123456789_"

def sign : Pattern := optional (chars "+-")

def exponent : Pattern :=
  optional (sequence [chars "eE", chars "+-", atLeastOne digit])

-- Numbers to the base of sixty, such as hours, minutes and seconds.
def sixties : Pattern :=
  atLeastOne (sequence [chars ":", optional (chars "012345"), digit])

def constant : Pattern :=
  word
    ["yes", "Yes", "YES", "no", "No", "NO", "true", "True", "TRUE", "false", "False", "FALSE", "on",
      "On", "ON", "off", "Off", "OFF", "~", "null", "Null", "NULL", "<<", "="]

def integer : Pattern :=
  both sign <| anyOf
    [sequence [word ["0b"], atLeastOne (chars "01_")],
      sequence [chars "0", atLeastOne (chars "01234567_")],
      chars "0",
      sequence [chars "123456789", many digitOrGap],
      sequence [word ["0x"], atLeastOne (chars "0123456789abcdefABCDEF_")],
      sequence [chars "123456789", many digitOrGap, sixties]]

def fraction : Pattern :=
  anyOf
    [sequence [sign, digit, many digitOrGap, chars ".", many digitOrGap, exponent],
      sequence [chars ".", digit, many digitOrGap, exponent],
      sequence [sign, digit, many digitOrGap, sixties, chars ".", many digitOrGap],
      sequence [sign, word [".inf", ".Inf", ".INF"]],
      word [".nan", ".NaN", ".NAN"]]

def oneOrTwoDigits : Pattern := both digit (optional digit)

def twoDigits : Pattern := both digit digit

def year : Pattern := both twoDigits twoDigits

def zone : Pattern :=
  optional <| either (chars "Z") <|
    sequence [chars "+-", oneOrTwoDigits, optional (sequence [chars ":", twoDigits])]

def date : Pattern :=
  anyOf
    [sequence [year, chars "-", twoDigits, chars "-", twoDigits],
      sequence
        [year, chars "-", oneOrTwoDigits, chars "-", oneOrTwoDigits, chars "Tt", oneOrTwoDigits,
          chars ":", twoDigits, chars ":", twoDigits, optional (sequence [chars ".", many digit]),
          zone]]

def implicitValue : Pattern :=
  anyOf [constant, integer, fraction, date]

def isReadable (c : Char) : Bool :=
  Text.inRanges [(0x20, 0x7E), (0xA0, 0xD7FF), (0xE000, 0xFFFD), (0x10000, 0x10FFFE)] c &&
    c != '\uFEFF'

-- Under double quotes the characters beyond U+FFFF are escaped too.
def isPlainInQuotes (c : Char) : Bool :=
  isReadable c && c.toNat ≤ 0xFFFD && c != '"' && c != '\\'

inductive Style where
  | plain
  | singleQuoted
  | doubleQuoted
  deriving DecidableEq

def startsLikeIndicator (t : Text) : Bool :=
  "---".toList.isPrefixOf t || "...".toList.isPrefixOf t ||
    t.head?.any fun c => "#,[]\x7b\x7d&*!|>'\"%@`".toList.contains c

-- A text with blanks in it might need quotes for their sake.
def Style.ofText (t : Text) : Style :=
  if t.any (!isReadable ·) then doubleQuoted
  else if t = [] || startsLikeIndicator t || t = ['?'] || t = ['-'] || t.getLast? = some ':' ||
      implicitValue.accepts t then
    singleQuoted
  else plain

def singleQuote (t : Text) : Text :=
  '\'' :: t.flatMap (fun c => if c = '\'' then ['\'', '\''] else [c]) ++ ['\'']

def escape (c : Char) : Text :=
  if c = '"' || c = '\\' then ['\\', c]
  else if c = '\x00' then ['\\', '0']
  else if c = '\x07' then ['\\', 'a']
  else if c = '\x08' then ['\\', 'b']
  else if c = '\x1b' then ['\\', 'e']
  else Text.codeEscape Text.upperDigits c

def width : Nat := 80

-- A backslash at the end of a line joins the next line to it, without the spaces it begins with.
def fold (margin : Nat) : Text :=
  '\\' :: Text.newline margin

def foldedFrom (margin : Nat) : (column : Nat) → (afterEscape : Bool) → Text → Text
  | _, _, [] => []
  | column, afterEscape, c :: rest =>
    if isPlainInQuotes c then
      -- A line is folded only behind an escape, and never ahead of the last character.
      if afterEscape && !rest.isEmpty && decide (width < column) then
        fold margin ++ c :: foldedFrom margin (margin + 1) false rest
      else
        c :: foldedFrom margin (column + 1) false rest
    else
      let column := column + (escape c).length
      if !rest.isEmpty && decide (width + 1 < column) then
        escape c ++ fold margin ++ foldedFrom margin margin true rest
      else
        escape c ++ foldedFrom margin column true rest

def doubleQuote (margin column : Nat) : Text → Text
  | [] => ['"', '"']
  | c :: rest =>
    let first := if isPlainInQuotes c then [c] else escape c
    '"' :: first ++
      foldedFrom margin (column + 1 + first.length) (!isPlainInQuotes c) rest ++ ['"']

def scalar (margin column : Nat) (t : Text) : Text :=
  match Style.ofText t with
  | .plain => t
  | .singleQuoted => singleQuote t
  | .doubleQuoted => doubleQuote margin column t

end RequestBinding.Yaml
