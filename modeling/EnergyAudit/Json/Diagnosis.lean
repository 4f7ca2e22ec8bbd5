import EnergyAudit.Json.Fault
import EnergyAudit.Json.Parser
import EnergyAudit.Text.Utf8

/-! # Diagnosis of JSON text

A text that is refused as a whole document has a first fault: a token that is broken or that stands
for no value, a token out of place, a container too deep inside others, or an end that comes too
early.  The diagnosis follows the parser up to it.  Faults are found at the count of bytes that are
then left of the text, since that is what a reader knows that goes on from front to back. -/

namespace EnergyAudit.Json

/-- A fault in front of the last `unread` bytes of the text. -/
structure Spot where
  fault : Fault
  unread : Nat

def Spot.before (fault : Fault) (rest : List Char) : Spot := ⟨fault, Text.utf8Width rest⟩

def Spot.at (fault : Fault) (rest : List Char) : Spot := ⟨fault, Text.utf8Width rest - 1⟩

/-- The fault of an escape that lacks its four hexadecimal digits in front of the text. -/
def hexSpot (s : List Char) : Spot :=
  if Text.utf8Width s < 4 then ⟨.unfinishedString, 0⟩ else ⟨.unknownEscape, Text.utf8Width s - 4⟩

/-- Whether the unit is the first half of a surrogate pair. -/
def isHighSurrogate (unit : Nat) : Bool := 0xd800 ≤ unit && unit < 0xdc00

/-- Whether the unit is the second half of a surrogate pair. -/
def isLowSurrogate (unit : Nat) : Bool := 0xdc00 ≤ unit && unit < 0xe000

/-- The fault of a text that does not start with the escape of a second half. -/
def partnerSpot? : List Char → Option Spot
  | [] => some ⟨.unfinishedString, 0⟩
  | ['\\'] => some ⟨.unfinishedString, 0⟩
  | '\\' :: 'u' :: a :: b :: c :: d :: rest =>
      match hexUnit? a b c d with
      | none => some (hexSpot (a :: b :: c :: d :: rest))
      | some unit => if isLowSurrogate unit then none else some (.before .unpairedSurrogate rest)
  | '\\' :: 'u' :: rest => some (hexSpot rest)
  | '\\' :: rest => some (.at .unfinishedPair rest)
  | rest => some (.at .unfinishedPair rest)

/-- The first fault of a string after its opening quote. -/
def textSpot? : List Char → Option Spot
  | [] => some ⟨.unfinishedString, 0⟩
  | '"' :: _ => none
  | ['\\'] => some ⟨.unfinishedString, 0⟩
  | '\\' :: 'u' :: a :: b :: c :: d :: rest =>
      match hexUnit? a b c d with
      | none => some (hexSpot (a :: b :: c :: d :: rest))
      | some unit =>
          if isLowSurrogate unit then some (.before .unpairedSurrogate rest)
          else if isHighSurrogate unit then (partnerSpot? rest).or (textSpot? (rest.drop 6))
          else textSpot? rest
  | '\\' :: 'u' :: rest => some (hexSpot rest)
  | '\\' :: letter :: rest =>
      if (escaped? letter).isSome then textSpot? rest
      else some (.at .unknownEscape (letter :: rest))
  | c :: rest =>
      if c < ' ' then some (.before .rawControlCharacter rest) else textSpot? rest
termination_by s => s.length
decreasing_by all_goals simp only [List.length_cons, List.length_drop]; omega

/-- The fault of a text that does not start with the rest of a literal. -/
def wordSpot (literal : List Char) (s : List Char) : Spot :=
  match literal, s with
  | l :: literal, c :: rest =>
      if l == c then wordSpot literal rest else .at .brokenWord (c :: rest)
  | _, rest => .before .unfinishedValue rest

/-- The fault where digits are wanted and the text starts with something else. -/
def digitSpot (s : List Char) : Spot :=
  if s.isEmpty then ⟨.unfinishedValue, 0⟩ else .at .brokenNumber s

def greatestExponent : Nat := UInt32.size / 2 - 1

/-- The text after as many digits as it takes to exceed the greatest exponent, or after all. -/
def afterExponent (value : Nat) : List Char → List Char
  | [] => []
  | c :: rest =>
      if !c.isDigit then c :: rest
      else
        let value := 10 * value + (c.toNat - '0'.toNat)
        if greatestExponent < value then rest else afterExponent value rest

/-- The fault of a number behind its whole part and its fraction. -/
def powerSpot (s : List Char) : Spot :=
  match s with
  | [] => .before .numberOutOfRange []
  | c :: rest =>
      if c == 'e' || c == 'E' then
        let digits := (Decimal.takeSign rest).2
        if (digits.takeWhile Char.isDigit).isEmpty then digitSpot digits
        else .before .numberOutOfRange (afterExponent 0 digits)
      else .before .numberOutOfRange (c :: rest)

/-- The fault of a number behind its whole part. -/
def fractionSpot : List Char → Spot
  | '.' :: rest =>
      if (rest.takeWhile Char.isDigit).isEmpty then digitSpot rest
      else powerSpot (rest.dropWhile Char.isDigit)
  | rest => powerSpot rest

/-- The fault of a number after its minus sign. -/
def numberSpot : List Char → Spot
  | '0' :: rest =>
      if (rest.head?.map Char.isDigit).getD false then .at .brokenNumber rest
      else fractionSpot rest
  | s =>
      if (s.takeWhile Char.isDigit).isEmpty then digitSpot s
      else fractionSpot (s.dropWhile Char.isDigit)

/-- The fault of a token that is broken or stands for no value. -/
def tokenSpot : List Char → Spot
  | 'n' :: rest => wordSpot "ull".toList rest
  | 't' :: rest => wordSpot "rue".toList rest
  | 'f' :: rest => wordSpot "alse".toList rest
  | '"' :: rest => (textSpot? rest).getD (.before .unfinishedString rest)
  | '-' :: rest => numberSpot rest
  | s => if (s.head?.map Char.isDigit).getD false then numberSpot s else .at .noValue s

/-- Whether the token is complete and yet stands for no value. -/
def Token.isUnreadable : Token → Bool
  | .halvedString | .boundlessNumber => true
  | _ => false

def Token.opens : Token → Bool
  | .arrayOpen | .objectOpen => true
  | _ => false

def Demand.takesValue : Demand → Bool
  | .value | .valueOrClose => true
  | _ => false

def Demand.takesKey : Demand → Bool
  | .key | .keyOrClose => true
  | _ => false

/-- Whether the innermost open container is a list. -/
def ParseState.isInList (state : ParseState) : Bool :=
  match state.stack with
  | .items _ :: _ => true
  | _ => false

/-- The fault of a text that goes on with something that may not stand there. -/
def ParseState.misplaced (state : ParseState) (s : List Char) : Fault :=
  match state.demand with
  | .value => if state.isInList && s.head? == some ']' then .trailingComma else .noValue
  | .valueOrClose => .noValue
  | .key => if s.head? == some '\x7d' then .trailingComma else .keyNotString
  | .keyOrClose => .keyNotString
  | .colon => .noColon
  | .commaOrClose => if state.isInList then .noItemEnd else .noMemberEnd
  | .nothing _ => .trailingText

/-- The fault of a text that ends too early, if it does. -/
def ParseState.endFault? (state : ParseState) : Option Fault :=
  match state.demand with
  | .value | .key => some .unfinishedValue
  | .valueOrClose => some .unfinishedList
  | .keyOrClose | .colon => some .unfinishedObject
  | .commaOrClose => some (if state.isInList then .unfinishedList else .unfinishedObject)
  | .nothing _ => none

/-- The fault at the front of a text that starts with no token. -/
def ParseState.brokenSpot (state : ParseState) (s : List Char) : Spot :=
  if state.demand.takesValue || (state.demand.takesKey && s.head? == some '"') then tokenSpot s
  else .at (state.misplaced s) s

/-- The first fault from the state on, in a text that may hold `maxDepth` containers inside one
another. -/
def ParseState.spot? (state : ParseState) : List Char → Option Spot
  | [] => state.endFault?.map (⟨·, 0⟩)
  | c :: s =>
      if isSpace c then state.spot? s
      else
        match _h : lexToken? (c :: s) with
        | none => some (state.brokenSpot (c :: s))
        | some (token, rest) =>
            match state.step token with
            | none => some (.at (state.misplaced (c :: s)) (c :: s))
            | some next =>
                if token.isUnreadable then some (tokenSpot (c :: s))
                else if token.opens && maxDepth ≤ state.stack.length then
                  some (.at .tooDeep (c :: s))
                else next.spot? rest
termination_by s => s.length
decreasing_by
  · simp
  · exact lexToken?_shorter (by assumption)

/-- The first fault of the text, if it is no document that can be read as a whole. -/
def malformation? (text : String) : Option Malformation :=
  (ParseState.initial.spot? text.toList).map fun spot =>
    ⟨spot.fault, Place.start.advance (text.utf8ByteSize - spot.unread) text.toList⟩

end EnergyAudit.Json
