/-! # Faults of JSON text

The ways in which a text fails to be a JSON document that can be read, and the places in it.  A
place is a line and the count of bytes on it that have been read when the fault shows. -/

namespace EnergyAudit.Json

/-- Why a text is no document that can be read. -/
inductive Fault where
  | unfinishedList
  | unfinishedObject
  | unfinishedString
  | unfinishedValue
  /-- A key without a colon behind it. -/
  | noColon
  /-- An item of a list that neither a comma nor the end of the list follows. -/
  | noItemEnd
  /-- A member of an object that neither a comma nor the end of the object follows. -/
  | noMemberEnd
  /-- A word that starts like a literal and goes on otherwise. -/
  | brokenWord
  | noValue
  | unknownEscape
  | brokenNumber
  | numberOutOfRange
  | rawControlCharacter
  | keyNotString
  /-- Half of a surrogate pair beside an escape that is not the other half. -/
  | unpairedSurrogate
  /-- Half of a surrogate pair without an escape behind it. -/
  | unfinishedPair
  | trailingComma
  | trailingText
  | tooDeep
deriving DecidableEq, Repr

def Fault.message : Fault → String
  | .unfinishedList => "EOF while parsing a list"
  | .unfinishedObject => "EOF while parsing an object"
  | .unfinishedString => "EOF while parsing a string"
  | .unfinishedValue => "EOF while parsing a value"
  | .noColon => "expected `:`"
  | .noItemEnd => "expected `,` or `]`"
  | .noMemberEnd => "expected `,` or `\x7d`"
  | .brokenWord => "expected ident"
  | .noValue => "expected value"
  | .unknownEscape => "invalid escape"
  | .brokenNumber => "invalid number"
  | .numberOutOfRange => "number out of range"
  | .rawControlCharacter =>
      "control character (\\u0000-\\u001F) found while parsing a string"
  | .keyNotString => "key must be a string"
  | .unpairedSurrogate => "lone leading surrogate in hex escape"
  | .unfinishedPair => "unexpected end of hex escape"
  | .trailingComma => "trailing comma"
  | .trailingText => "trailing characters"
  | .tooDeep => "recursion limit exceeded"

/-- A place in a text. -/
structure Place where
  line : Nat
  /-- Bytes between the start of the line and the place. -/
  column : Nat
deriving DecidableEq, Repr

def Place.start : Place := ⟨1, 0⟩

/-- The place that lies `bytes` bytes of the text further on. -/
def Place.advance (place : Place) (bytes : Nat) : List Char → Place
  | [] => place
  | c :: rest =>
      if bytes < c.utf8Size then { place with column := place.column + bytes }
      else if c == '\n' then advance ⟨place.line + 1, 0⟩ (bytes - c.utf8Size) rest
      else
        advance { place with column := place.column + c.utf8Size } (bytes - c.utf8Size) rest

/-- A fault and its place. -/
structure Malformation where
  fault : Fault
  place : Place
deriving DecidableEq, Repr

def Malformation.message (m : Malformation) : String :=
  m.fault.message ++ " at line " ++ toString m.place.line ++ " column "
    ++ toString m.place.column

end EnergyAudit.Json
