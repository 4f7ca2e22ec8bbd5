import EnergyAudit.Text.Lines

/-! # Paths

A path is a string of names between slashes.  Empty names and single dots inside it do not matter,
a dot at its start does: two paths are the same if their components are. -/

namespace EnergyAudit.Path

/-- A part of a path. -/
inductive Component where
  | root
  | here
  | parent
  | name (text : String)
deriving DecidableEq, Repr

def Component.rank : Component → Nat
  | .root => 0
  | .here => 1
  | .parent => 2
  | .name _ => 3

/-- Order of components: by kind, and names by their bytes. -/
def Component.before : Component → Component → Bool
  | .name a, .name b => decide (a < b)
  | a, b => decide (a.rank < b.rank)

/-- The strings between the slashes of a path. -/
def pieces (path : String) : List String :=
  (Text.splitOn '/' path.toList).map String.ofList

/-- Whether the path starts at the root. -/
def isAbsolute (path : String) : Bool :=
  path.toList.head? == some '/'

/-- The component that a string between slashes stands for, if it matters. -/
def component? (piece : String) : Option Component :=
  if piece == "" || piece == "." then none
  else if piece == ".." then some .parent
  else some (.name piece)

def components (path : String) : List Component :=
  let start :=
    if isAbsolute path then [Component.root]
    else if (pieces path).head? == some "." then [Component.here]
    else []
  start ++ (pieces path).filterMap component?

def componentsBefore : List Component → List Component → Bool
  | [], [] => false
  | [], _ :: _ => true
  | _ :: _, [] => false
  | a :: as, b :: bs => if a == b then componentsBefore as bs else a.before b

def before (a b : String) : Bool :=
  componentsBefore (components a) (components b)

def same (a b : String) : Bool :=
  components a == components b

/-- The path `rest` as seen from `base`.  An absolute path replaces what precedes it. -/
def join (base rest : String) : String :=
  if isAbsolute rest then rest
  else if base == "" || base.toList.getLast? == some '/' then base ++ rest
  else base ++ "/" ++ rest

def fileName? (path : String) : Option String :=
  match (components path).getLast? with
  | some (.name text) => some text
  | _ => none

/-- Splits a file name at its last dot: the characters before it and those behind it. -/
def splitLastDot (name : List Char) : Option (List Char × List Char) :=
  if name.contains '.' then
    let back := name.reverse
    some ((back.dropWhile (· != '.')).drop 1 |>.reverse, (back.takeWhile (· != '.')).reverse)
  else none

/-- What follows the last dot of the file name, unless the name starts with it. -/
def extension? (path : String) : Option String :=
  match fileName? path with
  | none => none
  | some name =>
      match splitLastDot name.toList with
      | some (stem, extension) =>
          if stem.isEmpty then none else some (String.ofList extension)
      | none => none

def Component.text : Component → String
  | .root => ""
  | .here => "."
  | .parent => ".."
  | .name text => text

def ofComponents (parts : List Component) : String :=
  if parts == [.root] then "/" else "/".intercalate (parts.map Component.text)

/-- The path of the directory that holds what the path names; empty if the path is a mere name. -/
def parent (path : String) : String :=
  ofComponents (components path).dropLast

/-- The path with the extension added to the file name at its end. -/
def withExtension? (path extension : String) : Option String :=
  (fileName? path).map fun name => join (parent path) (name ++ "." ++ extension)

end EnergyAudit.Path
