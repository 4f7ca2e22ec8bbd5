import EnergyAudit.Files.Path
import EnergyAudit.Text.Utf8

/-! # Trees of files

A tree holds files, directories and symbolic links, each at a location: the names on the way from
the root to it.  The root itself is always a directory. -/

namespace EnergyAudit

/-- Names on the way from the root. -/
abbrev Location := List String

/-- What may stand at a location. -/
inductive Entry where
  | file (content : ByteArray)
  | link (target : String)
  | directory

def Entry.isFile : Entry → Bool
  | .file _ => true
  | _ => false

def Entry.isDirectory : Entry → Bool
  | .directory => true
  | _ => false

/-- Whether two entries hold the same. -/
def Entry.agrees : Entry → Entry → Bool
  | .file content, .file other => content.toList == other.toList
  | .link target, .link other => target == other
  | .directory, .directory => true
  | _, _ => false

/-- Files, directories and links with their locations.  The first entry of a location counts. -/
structure Tree where
  entries : List (Location × Entry)

/-- Why a path cannot be used. -/
inductive AccessError where
  | notFound
  | notDirectory
  | isDirectory
  | tooManyLinks
  | alreadyThere
  /-- The path or a name in it has too many bytes. -/
  | nameTooLong
  /-- The path holds the character NUL. -/
  | nulInName
deriving DecidableEq, Repr

/-- The failure in the words of the system. -/
def AccessError.display : AccessError → String
  | .notFound => "No such file or directory (os error 2)"
  | .notDirectory => "Not a directory (os error 20)"
  | .isDirectory => "Is a directory (os error 21)"
  | .tooManyLinks => "Too many levels of symbolic links (os error 40)"
  | .alreadyThere => "File exists (os error 17)"
  | .nameTooLong => "File name too long (os error 36)"
  | .nulInName => "file name contained an unexpected NUL byte"

/-- Where a path leads: to an entry, or to a free name in a directory. -/
inductive Place where
  | present (location : Location) (entry : Entry)
  | vacant (location : Location)

namespace Tree

def empty : Tree := ⟨[]⟩

def entryAt? (tree : Tree) (location : Location) : Option Entry :=
  if location.isEmpty then some .directory
  else (tree.entries.find? (·.1 == location)).map (·.2)

/-- The tree with the entry at the location, in place of what stood there. -/
def put (tree : Tree) (location : Location) (entry : Entry) : Tree :=
  ⟨tree.entries.filter (·.1 != location) ++ [(location, entry)]⟩

/-- The tree without the entry at the location. -/
def erase (tree : Tree) (location : Location) : Tree :=
  ⟨tree.entries.filter (·.1 != location)⟩

/-- How many links may be followed on one path. -/
def maxLinks : Nat := 40

def maxNameBytes : Nat := 255

def maxPathBytes : Nat := 4095

/-- Goes from a directory along the names.  Where a link is followed, `follow` goes on from the
directory that its target is read from, along the target and the names that are left.  A link at the
very end is followed only on demand. -/
def walkNames (tree : Tree) (followLast : Bool)
    (follow : Location → List String → Except AccessError Place) (start : Location) :
    List String → Except AccessError Place
  | [] => .ok (.present start .directory)
  | name :: rest =>
      if name == "" || name == "." then walkNames tree followLast follow start rest
      else if name == ".." then walkNames tree followLast follow start.dropLast rest
      else if maxNameBytes < name.utf8ByteSize then .error .nameTooLong
      else
        match tree.entryAt? (start ++ [name]) with
        | none => if rest.isEmpty then .ok (.vacant (start ++ [name])) else .error .notFound
        | some .directory => walkNames tree followLast follow (start ++ [name]) rest
        | some (.file content) =>
            if rest.isEmpty then .ok (.present (start ++ [name]) (.file content))
            else .error .notDirectory
        | some (.link target) =>
            if rest.isEmpty && !followLast then .ok (.present (start ++ [name]) (.link target))
            else
              follow (if Path.isAbsolute target then [] else start) (Path.pieces target ++ rest)

/-- Goes from a directory along the names, at most `links` times through a link. -/
def walk (tree : Tree) (followLast : Bool) : (links : Nat) → Location → List String →
    Except AccessError Place
  | 0 => walkNames tree followLast fun _ _ => .error .tooManyLinks
  | left + 1 => walkNames tree followLast (walk tree followLast left)

/-- Where the path leads, seen from a directory. -/
def locate (tree : Tree) (start : Location) (followLast : Bool) (path : String) :
    Except AccessError Place :=
  if path.toList.contains '\x00' then .error .nulInName
  else if path == "" then .error .notFound
  else if maxPathBytes < path.utf8ByteSize then .error .nameTooLong
  else
    walk tree followLast maxLinks (if Path.isAbsolute path then [] else start) (Path.pieces path)

/-- The tree with directories at the location and on the way to it, where there is nothing yet. -/
def withDirectories (tree : Tree) (location : Location) : Tree :=
  (List.range location.length).foldl (fun tree n =>
    let above := location.take (n + 1)
    if (tree.entryAt? above).isNone then tree.put above .directory else tree) tree

def freshName (tree : Tree) : String :=
  let lengths := (tree.entries.flatMap (·.1)).map String.length
  String.ofList ('.' :: 't' :: 'm' :: 'p' :: List.replicate (lengths.foldl (· + ·) 0) '0')

end Tree

end EnergyAudit
