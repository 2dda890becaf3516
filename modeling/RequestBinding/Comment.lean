import RequestBinding.Directive
import RequestBinding.Text.Basic
import RequestBinding.Text.Utf8

set_option autoImplicit false

namespace RequestBinding

structure Comment where
  line : Int
  text : Text
  deriving DecidableEq, Repr

namespace Comment

def defaultMarker : Text := "http:param".toList

def afterMarker? (marker : Text) : Text → Option Text
  | [] => if marker = [] then some [] else none
  | c :: rest =>
    match marker.isPrefixOf? (c :: rest) with
    | some [] => some []
    | some (d :: after) =>
      if Text.isBlank d then some (d :: after)
      else if Text.isBlank c then afterMarker? marker rest
      else none
    -- The marker may begin with blanks itself, so every place among the blanks is tried.
    | none => if Text.isBlank c then afterMarker? marker rest else none

def afterLeader? : Text → Option Text
  | '#' :: rest => some rest
  | '/' :: '/' :: rest => some rest
  | _ => none

def body? (marker line : Text) : Option Text :=
  ((afterLeader? (line.dropWhile Text.isBlank)).bind (afterMarker? marker)).map Text.strip

def ofLinesFrom (marker : Text) : (first : Nat) → List Text → List Comment
  | _, [] => []
  | first, line :: rest =>
    match body? marker line with
    | some text => ⟨first, text⟩ :: ofLinesFrom marker (first + 1) rest
    | none => ofLinesFrom marker (first + 1) rest

def ofText (marker text : Text) : List Comment :=
  ofLinesFrom marker 1 (Text.lines (Text.unifyNewlines text))

end Comment

-- A file under the name that messages give it.
structure SourceFile where
  path : Text
  bytes : List UInt8

inductive SourceError where
  | encoding (fault : Utf8.Fault)
  | directive (line : Int) (error : DirectiveError)
  deriving DecidableEq

structure Finding where
  line : Int
  bindings : List Binding
  deriving DecidableEq, Repr

namespace SourceFile

def scanRecord (file : SourceFile) (marker : Text) : Record where
  level := .info
  source := .comments
  message :=
    "Scanning ".toList ++ file.path ++ " for ".toList ++ Text.quoted marker ++
      " directives".toList

def commentRecord (file : SourceFile) (comment : Comment) : Record where
  level := .debug
  source := .comments
  message := file.path ++ ':' :: Text.decimal comment.line ++ ": ".toList ++ comment.text

def comments (file : SourceFile) (marker : Text) : Logged Utf8.Fault (List Comment) :=
  (((Logged.ofExcept (Utf8.decode file.bytes)).map (Comment.ofText marker)).noting
    fun found => found.map file.commentRecord).before [file.scanRecord marker]

def finding (comment : Comment) : Logged SourceError Finding :=
  ((Directive.parse comment.text).mapError (.directive comment.line)).map (Finding.mk comment.line)

def findings (file : SourceFile) (marker : Text) : Logged SourceError (List Finding) :=
  ((file.comments marker).mapError .encoding).andThen (Logged.each finding)

end SourceFile

end RequestBinding
