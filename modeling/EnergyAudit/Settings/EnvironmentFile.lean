import EnergyAudit.Files.Workspace
import EnergyAudit.Settings.Environment
import EnergyAudit.Text.Alphanumeric
import EnergyAudit.Text.Blank
import EnergyAudit.Text.Lines

/-! # Files of environment variables

A file `.env` assigns variables, one to a line.  A value may stand in single or in double quotes, in
which it may go over several lines, and outside of single quotes it may name other variables after a
dollar sign.  What the environment has already is kept.  The first line that is no assignment ends
the reading, and what stands before it counts. -/

namespace EnergyAudit.EnvironmentFile

/-! ## Lines -/

/-- Where in a line the text stands, as far as the end of the line depends on it. -/
inductive LineState where
  | plain
  /-- After a blank, where a comment may begin. -/
  | blank
  | escaped
  | single
  | singleEscaped
  | double
  | doubleEscaped
deriving DecidableEq, Repr

namespace LineState

/-- The state after a character outside of quotes. -/
def ofPlain : Char → LineState
  | '\\' => .escaped
  | '"' => .double
  | '\'' => .single
  | _ => .plain

/-- The state after a character; `none` if a comment begins with it. -/
def next? (state : LineState) (c : Char) : Option LineState :=
  match state with
  | .plain => some (if Text.isBlank c && c != '\n' && c != '\r' then .blank else ofPlain c)
  | .blank => if c == '#' then none else some (ofPlain c)
  | .escaped => some .plain
  | .single => some (if c == '\\' then .singleEscaped else if c == '\'' then .plain else .single)
  | .singleEscaped => some .single
  | .double => some (if c == '\\' then .doubleEscaped else if c == '"' then .plain else .double)
  | .doubleEscaped => some .double

/-- The characters up to a comment, and the state after them unless one begins. -/
def scan (state : LineState) : List Char → List Char × Option LineState
  | [] => ([], some state)
  | c :: rest =>
      match state.next? c with
      | none => ([], none)
      | some next =>
          let (kept, last) := scan next rest
          (c :: kept, last)

end LineState

/-- The bytes without the mark of UTF-8 they may start with. -/
def dropMark : List UInt8 → List UInt8
  | 0xef :: 0xbb :: 0xbf :: rest => rest
  | bytes => bytes

/-- The bytes cut after each line feed. -/
def cutLines : List UInt8 → List (List UInt8)
  | [] => []
  | b :: rest =>
      if b == 10 then [b] :: cutLines rest
      else
        match cutLines rest with
        | [] => [[b]]
        | line :: lines => (b :: line) :: lines

def dropLineEnd (line : List Char) : List Char :=
  if line.getLast? == some '\n' then Text.dropCarriageReturn line.dropLast else line

/-- The assignments, each of one or more lines, where `begun` is what the lines before hold of the
first one.  A line that is not UTF-8, or that nothing ends, is `none`. -/
def assignments (begun : List Char) (state : LineState) :
    List (Option String) → List (Option (List Char))
  | [] => if state == .plain then [] else [none]
  | none :: _ => [none]
  | some line :: lines =>
      let text := line.toList
      if begun.isEmpty && (Text.trimStart text).head? == some '#' then
        assignments [] .plain lines
      else
        match state.scan text with
        | (kept, none) => some (begun ++ kept) :: assignments [] .plain lines
        | (kept, some .plain) => some (dropLineEnd (begun ++ kept)) :: assignments [] .plain lines
        | (kept, some state) => assignments (begun ++ kept) state lines

/-! ## Values -/

/-- Where in a value the text stands. -/
inductive ValueState where
  | plain
  | escaped
  | single
  | double
  | doubleEscaped
  /-- In the name of a variable, which is inside of double quotes if `quoted`. -/
  | name (quoted : Bool) (read : List Char)
  /-- In the name of a variable in braces. -/
  | braced (quoted : Bool) (read : List Char)
  /-- After a blank, where nothing but a comment may follow. -/
  | after
deriving DecidableEq, Repr

def ValueState.outside (quoted : Bool) : ValueState :=
  if quoted then .double else .plain

/-- What a character after a backslash stands for. -/
def unescape? : Char → Option Char
  | 'n' => some '\n'
  | '\\' => some '\\'
  | '\'' => some '\''
  | '"' => some '"'
  | '$' => some '$'
  | ' ' => some ' '
  | _ => none

/-- What a character adds to a value, and the state after it; `none` if it may not stand there. -/
def ValueState.step (lookup : String → String) (state : ValueState) (c : Char) :
    Option (List Char × ValueState) :=
  match state with
  | .after => if c == ' ' || c == '\t' then some ([], .after) else none
  | .escaped => (unescape? c).map fun c => ([c], .plain)
  | .doubleEscaped => (unescape? c).map fun c => ([c], .double)
  | .single => some (if c == '\'' then ([], .plain) else ([c], .single))
  | .name quoted read =>
      if Text.isAlphanumeric c then some ([], .name quoted (read ++ [c]))
      else if c == '\x7b' && read.isEmpty then some ([], .braced quoted [])
      else
        let value := (lookup (String.ofList read)).toList
        if c == '$' then some (value, .name quoted [])
        else some (value ++ [c], .outside quoted)
  | .braced quoted read =>
      if c == '\x7d' then some ((lookup (String.ofList read)).toList, .outside quoted)
      else some ([], .braced quoted (read ++ [c]))
  | .double =>
      if c == '$' then some ([], .name true [])
      else if c == '"' then some ([], .plain)
      else if c == '\\' then some ([], .doubleEscaped)
      else some ([c], .double)
  | .plain =>
      if c == '$' then some ([], .name false [])
      else if c == '\'' then some ([], .single)
      else if c == '"' then some ([], .double)
      else if c == '\\' then some ([], .escaped)
      else if c == ' ' || c == '\t' then some ([], .after)
      else some ([c], .plain)

/-- The value that the text denotes, where `lookup` gives the values of variables. -/
def value? (lookup : String → String) (state : ValueState) : List Char → Option (List Char)
  | [] =>
      match state with
      | .plain | .escaped | .after => some []
      | .name false read => some (lookup (String.ofList read)).toList
      | _ => none
  | c :: rest =>
      if state == .after && c == '#' then some []
      else
        match state.step lookup c with
        | none => none
        | some (added, state) => (value? lookup state rest).map (added ++ ·)

/-! ## Assignments -/

def startsName (c : Char) : Bool := c.isAlpha || c == '_'

/-- Whether the character may stand in a name. -/
def continuesName (c : Char) : Bool := c.isAlphanum || c == '_' || c == '.'

/-- The name at the start of the text, and what follows it and the blanks after it. -/
def takeName? (text : List Char) : Option (String × List Char) :=
  if text.head?.any startsName then
    some (String.ofList (text.takeWhile continuesName),
      Text.trimStart (text.dropWhile continuesName))
  else none

/-- What follows an equals sign and the blanks after it. -/
def afterEquals? : List Char → Option (List Char)
  | '=' :: rest => some (Text.trimStart rest)
  | _ => none

/-- The name that a line assigns to, and the text of its value.  The word `export` may stand in
front, but may be a name as well. -/
def target? (line : List Char) : Option (String × List Char) := do
  let (name, rest) ← takeName? line
  match afterEquals? rest with
  | some text => some (name, text)
  | none =>
      if name == "export" then
        let (name, rest) ← takeName? rest
        some (name, ← afterEquals? rest)
      else none

/-- What a line comes to. -/
inductive Line where
  | nothing
  | assignment (name value : String)
deriving DecidableEq, Repr

def line? (lookup : String → String) (line : List Char) : Option Line :=
  let text := Text.trim line
  if text.isEmpty || text.head? == some '#' then some .nothing
  else do
    let (name, text) ← target? text
    if text.head? == some '#' then some (.assignment name "")
    else
      let value ← value? lookup .plain text
      some (.assignment name (String.ofList value))

/-- The environment with the assignments up to the first line that is none.  It is `none` if a value
holds the character NUL, which the environment cannot keep. -/
def assign (environment : Environment) : List (Option (List Char)) → Option Environment
  | [] => some environment
  | none :: _ => some environment
  | some text :: rest =>
      match line? (fun name => (environment.get? name).getD "") text with
      | none => some environment
      | some .nothing => assign environment rest
      | some (.assignment name value) =>
          if (environment.get? name).isSome then assign environment rest
          else if value.toList.contains '\x00' then none
          else assign (environment ++ [(name, value)]) rest

def assignAll (environment : Environment) (content : List UInt8) : Option Environment :=
  assign environment
    (assignments [] .plain ((cutLines (dropMark content)).map fun line =>
      Text.decode? ⟨line.toArray⟩))

/-! ## The file -/

def fileName : String := ".env"

/-- The content of the first file of the name in the directories. -/
def find? (w : Workspace) : List Location → Option ByteArray
  | [] => none
  | directory :: rest =>
      match w.tree.locate directory true fileName with
      | .ok (.present _ (.file content)) => some content
      | .ok _ => find? w rest
      | .error .notFound => find? w rest
      | .error _ => none

def upward (directory : Location) : List Location :=
  (List.range (directory.length + 1)).reverse.map directory.take

def load (w : Workspace) (environment : Environment) : Option Environment :=
  match find? w (upward w.directory) with
  | none => some environment
  | some content => assignAll environment content.toList

end EnergyAudit.EnvironmentFile
