import EnergyAudit.Json.Token

/-! # Words of TOML

Spaces, comments, line ends, strings in their four forms, and keys.  Each reader takes what it can
from the start of the text and hands back the rest. -/

namespace EnergyAudit.Toml

/-- Whether `c` is a space within a line. -/
def isSpace (c : Char) : Bool := c == ' ' || c == '\t'

/-- The text without the spaces it starts with. -/
def skipSpaces (s : List Char) : List Char := s.dropWhile isSpace

/-- Whether `c` may stand in a comment. -/
def isCommentChar (c : Char) : Bool := c == '\t' || (' ' ≤ c && c != '\x7f')

/-- What follows a line end; `none` if there is no line end. -/
def newline? : List Char → Option (List Char)
  | '\n' :: rest => some rest
  | '\r' :: '\n' :: rest => some rest
  | _ => none

/-- What follows the end of a line that may hold spaces and a comment; the text may end here,
too. -/
def lineEnd? (s : List Char) : Option (List Char) :=
  let rest := match skipSpaces s with
    | '#' :: comment => comment.dropWhile isCommentChar
    | rest => rest
  if rest.isEmpty then some [] else newline? rest

/-- Skips spaces, comments and line ends. -/
def skipLines (s : List Char) : List Char :=
  match lineEnd? s with
  | some rest => if rest.length < s.length then skipLines rest else rest
  | none => skipSpaces s
termination_by s.length

/-! ## Strings -/

/-- The character with a number in hexadecimal digits. -/
def charOfHex? (digits : List Char) : Option Char := do
  let values ← digits.mapM Json.hexDigit?
  let n := values.foldl (fun n value => 16 * n + value) 0
  if n.isValidChar then some (Char.ofNat n) else none

/-- The character that an escape stands for; the backslash has been read. -/
def escaped? : List Char → Option (Char × List Char)
  | 'b' :: rest => some ('\x08', rest)
  | 't' :: rest => some ('\t', rest)
  | 'n' :: rest => some ('\n', rest)
  | 'f' :: rest => some ('\x0c', rest)
  | 'r' :: rest => some ('\r', rest)
  | '"' :: rest => some ('"', rest)
  | '\\' :: rest => some ('\\', rest)
  | 'u' :: rest =>
      if rest.length < 4 then none else (charOfHex? (rest.take 4)).map (·, rest.drop 4)
  | 'U' :: rest =>
      if rest.length < 8 then none else (charOfHex? (rest.take 8)).map (·, rest.drop 8)
  | _ => none

/-- The rest of a string on one line, in which escapes count. -/
def basic? : List Char → Option (List Char × List Char)
  | [] => none
  | '"' :: rest => some ([], rest)
  | '\\' :: rest =>
      match escaped? rest with
      | none => none
      | some (c, after) =>
          if after.length ≤ rest.length then
            (basic? after).map fun (text, rest) => (c :: text, rest)
          else none
  | c :: rest =>
      if isCommentChar c then (basic? rest).map fun (text, rest) => (c :: text, rest) else none
termination_by s => s.length

/-- The rest of a string on one line, in which every character stands for itself. -/
def literal? : List Char → Option (List Char × List Char)
  | [] => none
  | '\'' :: rest => some ([], rest)
  | c :: rest =>
      if isCommentChar c then (literal? rest).map fun (text, rest) => (c :: text, rest) else none

/-- What follows the quotes that a text starts with, if they end a string of several lines, and the
quotes that still belong to the string: at most two stand before the three that end it. -/
def closing? (quote : Char) (s : List Char) : Option (List Char × List Char) :=
  let quotes := (s.takeWhile (· == quote)).length
  if quotes < 3 then none
  else
    let taken := min quotes 5
    some (List.replicate (taken - 3) quote, s.drop taken)

/-- Skips spaces and line ends. -/
def skipBlanks (s : List Char) : List Char :=
  match newline? (skipSpaces s) with
  | some rest => if rest.length < s.length then skipBlanks rest else rest
  | none => skipSpaces s
termination_by s.length

/-- Skips spaces and line ends, if there is a line end on this line. -/
def foldedLine? (s : List Char) : Option (List Char) :=
  (newline? (skipSpaces s)).map skipBlanks

/-- The rest of a string of several lines.  Where escapes count, one at the end of a line takes the
line end and the blanks after it out of the string. -/
def multiline? (quote : Char) (escapes : Bool) (s : List Char) : Option (List Char × List Char) :=
  match closing? quote s with
  | some ended => some ended
  | none =>
      let next : Option (List Char × List Char) :=
        match s with
        | [] => none
        | '\\' :: rest =>
            if escapes then
              match foldedLine? rest with
              | some after => some ([], after)
              | none => (escaped? rest).map fun (c, after) => ([c], after)
            else some (['\\'], rest)
        | c :: rest =>
            match newline? s with
            | some after => some (['\n'], after)
            | none => if isCommentChar c then some ([c], rest) else none
      match next with
      | none => none
      | some (piece, after) =>
          if after.length < s.length then
            (multiline? quote escapes after).map fun (text, rest) => (piece ++ text, rest)
          else none
termination_by s.length

/-- The text without the line end it starts with. -/
def dropNewline (s : List Char) : List Char := (newline? s).getD s

def lineText? : List Char → Option (List Char × List Char)
  | '"' :: rest => basic? rest
  | '\'' :: rest => literal? rest
  | _ => none

/-- A string of any form. -/
def text? : List Char → Option (List Char × List Char)
  | '"' :: '"' :: '"' :: rest => multiline? '"' true (dropNewline rest)
  | '\'' :: '\'' :: '\'' :: rest => multiline? '\'' false (dropNewline rest)
  | s => lineText? s

/-! ## Keys -/

/-- Whether `c` may stand in a key without quotes. -/
def isKeyChar (c : Char) : Bool := c.isAlphanum || c == '_' || c == '-'

/-- A key, with or without quotes. -/
def simpleKey? (s : List Char) : Option (String × List Char) :=
  match lineText? s with
  | some (text, rest) => some (String.ofList text, rest)
  | none =>
      let key := s.takeWhile isKeyChar
      if key.isEmpty then none else some (String.ofList key, s.dropWhile isKeyChar)

def keyParts? (s : List Char) : Option (List String × List Char) :=
  match simpleKey? (skipSpaces s) with
  | none => none
  | some (part, rest) =>
      let rest := skipSpaces rest
      match rest with
      | '.' :: after =>
          if after.length < s.length then
            (keyParts? after).map fun (parts, rest) => (part :: parts, rest)
          else none
      | _ => some ([part], rest)
termination_by s.length

def maxKeyParts : Nat := 79

/-- A key of one or more parts. -/
def key? (s : List Char) : Option (List String × List Char) :=
  (keyParts? s).filter fun (parts, _) => parts.length ≤ maxKeyParts

end EnergyAudit.Toml
