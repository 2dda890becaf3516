import RequestBinding.Text.Basic

set_option autoImplicit false

namespace RequestBinding.CommandLine

inductive Node where
  | missing
  | directory
  | file (bytes : List UInt8)
  deriving DecidableEq

-- A place in the file system, as seen from the working directory; its names lead from there.
inductive Place where
  | inside (names : List Text)
  | outside
  deriving DecidableEq

structure FileTree where
  entries : List (List Text × Option (List UInt8))

namespace FileTree

-- An entry without content is a directory.
def ofPaths (entries : List (Text × Option (List UInt8))) : FileTree :=
  ⟨entries.map fun entry => ((entry.1.splitOn '/').filter (!·.isEmpty), entry.2)⟩

def node (tree : FileTree) : Place → Node
  | .outside => .directory
  | .inside [] => .directory
  | .inside names =>
    match tree.entries.lookup names with
    | some (some bytes) => .file bytes
    | some none => .directory
    | none =>
      -- The names ahead of an entry are directories.
      if tree.entries.any fun entry => names.isPrefixOf entry.1 then .directory else .missing

def step (tree : FileTree) (name : Text) (place : Place) : Option Place :=
  if tree.node place ≠ .directory then none
  else if name = [] ∨ name = ['.'] then some place
  else
    match place with
    | .outside => if name = ['.', '.'] then some .outside else none
    | .inside names =>
      if name = ['.', '.'] then some (if names = [] then .outside else .inside names.dropLast)
      else some (.inside (names ++ [name]))

def walk (tree : FileTree) : List Text → Place → Option Place
  | [], place => some place
  | name :: rest, place => (tree.step name place).bind (tree.walk rest)

def find (tree : FileTree) (path : Text) : Node :=
  if path = [] then .missing
  else
    let start : Place := if path.head? = some '/' then .outside else .inside []
    ((tree.walk (path.splitOn '/') start).map tree.node).getD .missing

end FileTree

def shownPath (path : Text) : Text :=
  let slashes := path.takeWhile (· = '/')
  -- Two slashes at the front, and no more, are a root of their own.
  let root := if slashes.length = 2 then slashes else slashes.take 1
  let names := (path.splitOn '/').filter fun name => name ≠ [] ∧ name ≠ ['.']
  let shown := root ++ Text.joined "/" names
  if shown = [] then ['.'] else shown

end RequestBinding.CommandLine
