import EnergyAudit.Files.Tree

/-! # Workspaces

A workspace is a tree of files with a working directory, from which relative paths are read.  Its
operations are those of a file system: reading, writing, making directories, replacing and removing
files. -/

namespace EnergyAudit

/-- A tree of files seen from a working directory. -/
structure Workspace where
  tree : Tree
  directory : Location

namespace Workspace

def directoryPath (w : Workspace) : String := "/" ++ "/".intercalate w.directory

/-- The path as it is read from the root. -/
def absolute (w : Workspace) (path : String) : String := Path.join w.directoryPath path

/-- Where the path leads, links at its end included. -/
def locate (w : Workspace) (path : String) : Except AccessError Place :=
  w.tree.locate w.directory true path

def entry? (w : Workspace) (path : String) : Option Entry :=
  match w.locate path with
  | .ok (.present _ entry) => some entry
  | _ => none

def isFile (w : Workspace) (path : String) : Bool :=
  (w.entry? path).any Entry.isFile

def isDirectory (w : Workspace) (path : String) : Bool :=
  (w.entry? path).any Entry.isDirectory

/-- The bytes of the file that the path leads to. -/
def read (w : Workspace) (path : String) : Except AccessError ByteArray :=
  match w.locate path with
  | .ok (.present _ (.file content)) => .ok content
  | .ok (.present _ _) => .error .isDirectory
  | .ok (.vacant _) => .error .notFound
  | .error e => .error e

/-- Writes the file that the path leads to, which may be new. -/
def write (w : Workspace) (path : String) (content : ByteArray) : Except AccessError Workspace :=
  match w.locate path with
  | .ok (.present location (.file _)) =>
      .ok { w with tree := w.tree.put location (.file content) }
  | .ok (.present _ _) => .error .isDirectory
  | .ok (.vacant location) => .ok { w with tree := w.tree.put location (.file content) }
  | .error e => .error e

/-- Makes the directory that the path names, unless it is there. -/
def makeDirectory (w : Workspace) (path : String) : Except AccessError Workspace :=
  if w.isDirectory path then .ok w
  else
    match w.tree.locate w.directory false path with
    | .ok (.present _ _) => .error .alreadyThere
    | .ok (.vacant location) => .ok { w with tree := w.tree.put location .directory }
    | .error e => .error e

def pathStarts (path : String) : List String :=
  let parts := Path.components path
  (List.range parts.length).map fun n => Path.ofComponents (parts.take (n + 1))

/-- Makes the directory that the first of the paths names.  The others lead there, the nearest one
first, and are made before it where something on the way is missing. -/
def makeAlong (w : Workspace) : List String → Workspace × Option AccessError
  | [] => (w, none)
  | path :: parents =>
      match w.makeDirectory path with
      | .ok w' => (w', none)
      | .error .notFound =>
          match makeAlong w parents with
          | (w', some e) => (w', some e)
          | (w', none) =>
              match w'.makeDirectory path with
              | .ok w'' => (w'', none)
              | .error e => (w', some e)
      | .error e => (w, some e)

/-- Makes the directory that the path names and those on the way to it. -/
def makeDirectories (w : Workspace) (path : String) : Workspace × Option AccessError :=
  w.makeAlong (pathStarts path).reverse

/-- Puts a file in place of what the path names, which must not be a directory.  A link is replaced,
not followed. -/
def replaceFile (w : Workspace) (path : String) (content : ByteArray) :
    Except AccessError Workspace :=
  match w.tree.locate w.directory false path with
  | .ok (.present _ .directory) => .error .isDirectory
  | .ok (.present location _) => .ok { w with tree := w.tree.put location (.file content) }
  | .ok (.vacant location) => .ok { w with tree := w.tree.put location (.file content) }
  | .error e => .error e

/-- Removes the file or link that the path names. -/
def remove (w : Workspace) (path : String) : Except AccessError Workspace :=
  match w.tree.locate w.directory false path with
  | .ok (.present _ .directory) => .error .isDirectory
  | .ok (.present location _) => .ok { w with tree := w.tree.erase location }
  | .ok (.vacant _) => .error .notFound
  | .error e => .error e

end Workspace

end EnergyAudit
