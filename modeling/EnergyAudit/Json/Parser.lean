import EnergyAudit.Json.Token
import EnergyAudit.Json.Value

/-! # Parsing JSON

The parser goes through the tokens once with a stack of the containers that are open.  It accepts
strict JSON, and keeps a part that stands for no value as unreadable.  A document that is read as a
whole has to be readable in all its parts, with at most `maxDepth` containers inside one another. -/

namespace EnergyAudit.Json

/-- A container that is open, with what it holds so far, last one first.  A key may be unreadable,
and then it is missing here. -/
inductive Frame where
  | items (done : List Json)
  | members (done : List (Option String × Json))
  /-- An object whose last key still lacks its value. -/
  | member (done : List (Option String × Json)) (key : Option String)

/-- What the text has to go on with. -/
inductive Demand where
  | value
  | valueOrClose
  | key
  | keyOrClose
  | colon
  | commaOrClose
  /-- Nothing, since the document is complete. -/
  | nothing (document : Json)

/-- Where the parser stands. -/
structure ParseState where
  stack : List Frame
  demand : Demand

/-- Hands a complete value to the innermost open container. -/
def ParseState.deliver (value : Json) : List Frame → Option ParseState
  | [] => some ⟨[], .nothing value⟩
  | .items done :: stack => some ⟨.items (value :: done) :: stack, .commaOrClose⟩
  | .member done key :: stack => some ⟨.members ((key, value) :: done) :: stack, .commaOrClose⟩
  | .members _ :: _ => none

/-- The object with the members, if each key can be read. -/
def ofMembers (members : List (Option String × Json)) : Json :=
  match members.mapM fun (key, value) => key.map (·, value) with
  | some members => .obj members
  | none => .unreadable

def ParseState.startValue (stack : List Frame) : Token → Option ParseState
  | .null => deliver .null stack
  | .bool value => deliver (.bool value) stack
  | .int value => deliver (.int value) stack
  | .float value => deliver (.float value) stack
  | .str value => deliver (.str value) stack
  | .halvedString | .boundlessNumber => deliver .unreadable stack
  | .arrayOpen => some ⟨.items [] :: stack, .valueOrClose⟩
  | .objectOpen => some ⟨.members [] :: stack, .keyOrClose⟩
  | .arrayClose | .objectClose | .colon | .comma => none

/-- Reads a token at the end of a container. -/
def ParseState.close : List Frame → Token → Option ParseState
  | .items done :: stack, .arrayClose => deliver (.arr done.reverse) stack
  | .members done :: stack, .objectClose => deliver (ofMembers done.reverse) stack
  | _, _ => none

/-- Reads the key of a member, if the token is a string. -/
def ParseState.startMember (done : List (Option String × Json)) (stack : List Frame) :
    Token → Option ParseState
  | .str key => some ⟨.member done (some key) :: stack, .colon⟩
  | .halvedString => some ⟨.member done none :: stack, .colon⟩
  | _ => none

def ParseState.step (state : ParseState) (token : Token) : Option ParseState :=
  match state.demand, token, state.stack with
  | .value, token, stack => startValue stack token
  | .valueOrClose, .arrayClose, stack => close stack .arrayClose
  | .valueOrClose, token, stack => startValue stack token
  | .key, token, .members done :: stack => startMember done stack token
  | .keyOrClose, .objectClose, stack => close stack .objectClose
  | .keyOrClose, token, .members done :: stack => startMember done stack token
  | .colon, .colon, stack => some ⟨stack, .value⟩
  | .commaOrClose, .comma, .items done :: stack => some ⟨.items done :: stack, .value⟩
  | .commaOrClose, .comma, .members done :: stack => some ⟨.members done :: stack, .key⟩
  | .commaOrClose, token, stack => close stack token
  | _, _, _ => none

/-- Reads the tokens in turn. -/
def ParseState.run (state : ParseState) : List Token → Option ParseState
  | [] => some state
  | token :: tokens => (state.step token).bind (·.run tokens)

def ParseState.initial : ParseState := ⟨[], .value⟩

/-- The document of the text, with every member of its objects in the order of the text, and with
what stands for no value left unreadable. -/
def parse? (text : String) : Option Json := do
  let tokens ← tokens? text.toList
  let state ← ParseState.initial.run tokens
  match state.demand with
  | .nothing document => some document
  | _ => none

/-- How many containers may stand inside one another in a document that is read as a whole. -/
def maxDepth : Nat := 127

/-- The document of the text if all of it can be read, where the last member of a key wins. -/
def parseMerged? (text : String) : Option Json := do
  let document ← parse? text
  if document.isReadable maxDepth then some document.merged else none

end EnergyAudit.Json
