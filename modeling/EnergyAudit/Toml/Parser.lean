import EnergyAudit.Toml.Document
import EnergyAudit.Toml.Lexical
import EnergyAudit.Toml.Scalar

/-! # Parsing TOML

A document is a sequence of headers and of keys with values, one to a line.  Values may be lists and
tables within the line, at most `maxDepth` of them inside one another. -/

namespace EnergyAudit.Toml

/-- How many lists and inline tables may stand inside one another. -/
def maxDepth : Nat := 79

/-- Reads something from the start of a text and hands back the rest. -/
abbrev Reader (α : Type) := List Char → Option (α × List Char)

/-- The items of a list up to its end; a comma may follow the last one. -/
def items? (item? : Reader ConfigValue) (s : List Char) :
    Option (List ConfigValue × List Char) :=
  match skipLines s with
  | ']' :: rest => some ([], rest)
  | start =>
      match item? start with
      | none => none
      | some (item, rest) =>
          match skipLines rest with
          | ']' :: rest => some ([item], rest)
          | ',' :: rest =>
              if rest.length < s.length then
                (items? item? rest).map fun (items, rest) => (item :: items, rest)
              else none
          | _ => none
termination_by s.length

def pair? (value? : Reader ConfigValue) (s : List Char) :
    Option ((List String × ConfigValue) × List Char) :=
  match key? s with
  | none => none
  | some (key, rest) =>
      match rest with
      | '=' :: rest => (value? (skipSpaces rest)).map fun (value, rest) => ((key, value), rest)
      | _ => none

/-- The pairs of an inline table up to its end, at least one. -/
def pairs? (value? : Reader ConfigValue) (s : List Char) :
    Option (List (List String × ConfigValue) × List Char) :=
  match pair? value? s with
  | none => none
  | some (pair, rest) =>
      match skipSpaces rest with
      | '\x7d' :: rest => some ([pair], rest)
      | ',' :: rest =>
          if rest.length < s.length then
            (pairs? value? rest).map fun (pairs, rest) => (pair :: pairs, rest)
          else none
      | _ => none
termination_by s.length

def inlineTable? (pairs : List (List String × ConfigValue)) : Option ConfigValue :=
  (pairs.foldlM (fun members (key, value) => Members.add? key value members) []).map fun members =>
    .table (valuesOf members)

/-- A string, or a word. -/
def single? (s : List Char) : Option (ConfigValue × List Char) :=
  match s with
  | '"' :: _ | '\'' :: _ => (text? s).map fun (text, rest) => (.str (String.ofList text), rest)
  | s =>
      let (word, rest) := word s
      (scalar? word).map (·, rest)

/-- A value with at most so many lists and tables inside one another. -/
def value? : Nat → Reader ConfigValue
  | 0, s => single? s
  | depth + 1, s =>
      match s with
      | '[' :: rest => (items? (value? depth) rest).map fun (items, rest) => (.list items, rest)
      | '\x7b' :: rest =>
          match skipSpaces rest with
          | '\x7d' :: rest => some (.table [], rest)
          | rest => do
              let (pairs, rest) ← pairs? (value? depth) rest
              let table ← inlineTable? pairs
              return (table, rest)
      | s => single? s

/-- What follows the header of a table: its path up to the bracket. -/
def header? (s : List Char) : Option (List String × List Char) :=
  match key? s with
  | some (path, ']' :: rest) => some (path, rest)
  | _ => none

/-- A statement, up to the end of its line. -/
def statement? : Reader Statement
  | '[' :: '[' :: rest =>
      match header? rest with
      | some (path, ']' :: rest) => some (.itemHeader path, rest)
      | _ => none
  | '[' :: rest => (header? rest).map fun (path, rest) => (.tableHeader path, rest)
  | s => (pair? (value? maxDepth) s).map fun ((key, value), rest) => (.pair key value, rest)

def statements? (s : List Char) : Option (List Statement) :=
  match skipLines s with
  | [] => some []
  | start =>
      match statement? start with
      | none => none
      | some (statement, rest) =>
          match lineEnd? rest with
          | none => none
          | some rest =>
              if rest.length < s.length then (statements? rest).map (statement :: ·) else none
termination_by s.length

/-- The document that the text holds, as a table. -/
def parse? (text : String) : Option ConfigValue :=
  ((statements? text.toList).bind build?).bind resolve?

end EnergyAudit.Toml
