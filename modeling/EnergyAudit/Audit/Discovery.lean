import EnergyAudit.Audit.Report
import EnergyAudit.Files.RawPath

/-! # Discovery of source files

Roots are files or directories.  A file root counts if its extension is wanted, whatever its name;
of a directory, every file with a wanted extension counts that is reached without going through a
link or a directory of a skipped name.  A directory is searched under its path from the root, and is
left out where that path is too long.  The files found are put in the order of their paths, each path
once, and cut off at a greatest number. -/

namespace EnergyAudit.Audit

/-- Names of directories that are not searched. -/
def skippedDirectories : List String :=
  ["venv", ".venv", "node_modules", "__pycache__", ".git", "test", "tests", "migrations"]

/-- Which files are wanted, and how many at most. -/
structure DiscoveryOptions where
  extensions : List String
  maxFiles : Nat

def DiscoveryOptions.wants (options : DiscoveryOptions) (path : String) : Bool :=
  match Path.extension? path with
  | some extension => options.extensions.contains extension
  | none => false

/-- Whether the names lead from the directory at `base`, whose path is `root`, to a file of the tree,
through directories that are searched. -/
def isReached (tree : Tree) (root : String) (base : Location) (names : List String) : Bool :=
  !names.isEmpty
    && (tree.entryAt? (base ++ names)).any Entry.isFile
    && (List.range (names.length - 1)).all fun n =>
      let above := names.take (n + 1)
      (tree.entryAt? (base ++ above)).any Entry.isDirectory
        && !above.getLast?.any skippedDirectories.contains
        && (above.foldl Path.join root).utf8ByteSize ≤ Tree.maxPathBytes

/-- The names that lead from the directory at `base`, whose path is `root`, to each file below it. -/
def filesBelow (tree : Tree) (root : String) (base : Location) : List (List String) :=
  tree.entries.filterMap fun (location, _) =>
    if base.isPrefixOf location && isReached tree root base (location.drop base.length) then
      some (location.drop base.length)
    else none

def filesOfRoot (w : Workspace) (options : DiscoveryOptions) (root : String) : List String :=
  match w.locate root with
  | .ok (.present _ (.file _)) => if options.wants root then [root] else []
  | .ok (.present location .directory) =>
      let paths := (filesBelow w.tree root location).map fun names => names.foldl Path.join root
      paths.filter options.wants
  | _ => []

/-- Puts a path in its place, unless the same path is there. -/
def insertPath (path : String) : List String → List String
  | [] => [path]
  | other :: paths =>
      if Path.same path other then other :: paths
      else if Path.before path other then path :: other :: paths
      else other :: insertPath path paths

/-- The wanted files of all roots in the order of their paths, without a limit. -/
def allFiles (w : Workspace) (options : DiscoveryOptions) (roots : List String) : List String :=
  (roots.flatMap (filesOfRoot w options)).foldl (fun paths path => insertPath path paths) []

/-- The wanted files of the roots. -/
def discover (w : Workspace) (options : DiscoveryOptions) (roots : List String) : List String :=
  (allFiles w options roots).take options.maxFiles

/-- The file at the path, under the name that is shown for it. -/
def sourceFile (contents : Contents) (path : RawPath) : SourceFile :=
  ⟨path.display, (contents path).map fun content => Text.decodeLossy content.toList⟩

/-- Audits what the paths lead to. -/
def ofPaths (contents : Contents) (rules : List Rule) (paths : List RawPath)
    (threshold : Severity) : AuditReport :=
  AuditReport.ofFiles rules (paths.map (sourceFile contents)) threshold

/-- Audits what the paths, written as text, lead to in a workspace. -/
def run (w : Workspace) (rules : List Rule) (paths : List String) (threshold : Severity) :
    AuditReport :=
  ofPaths w.contents rules (paths.map RawPath.ofText) threshold

end EnergyAudit.Audit
