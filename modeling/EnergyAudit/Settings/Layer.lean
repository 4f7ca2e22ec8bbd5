import EnergyAudit.Decimal.Reading
import EnergyAudit.Settings.Value
import EnergyAudit.Text.Lowercase

/-! # Layers of a configuration

A configuration is made of layers, each a table, of which a later one wins.  Tables are merged key
by key, with keys in small letters; anything else, lists included, is replaced as a whole.  The
entries of a layer are laid down in the order in which they come up.  A key of a layer may be a path
with dots and indices, which leads into the tables and lists below.  A negative index counts from
the end of a list; where it leads in front of the list, there is no configuration. -/

namespace EnergyAudit

/-- A step into a value. -/
inductive KeyStep where
  | member (name : String)
  | item (index : Int)
deriving DecidableEq, Repr

/-- A way into a table: the first key, and the steps from there. -/
structure KeyPath where
  head : String
  steps : List KeyStep
deriving DecidableEq, Repr

namespace KeyPath

/-- Whether `c` may stand in a part of a path. -/
def isPartChar (c : Char) : Bool := c.isAlphanum || c == ' ' || c == '_' || c == '-'

def isIndexSpace (c : Char) : Bool := c == ' ' || c == '\t'

/-- A minus sign in front of the text, and the rest of it. -/
def takeMinus : List Char → Bool × List Char
  | '-' :: rest => (true, rest)
  | rest => (false, rest)

def index? (s : List Char) : Option (Int × List Char) :=
  let (negative, rest) := takeMinus (s.dropWhile isIndexSpace)
  let digits := rest.takeWhile Char.isDigit
  let magnitude : Int := Decimal.natOfDigits digits
  let n := if negative then -magnitude else magnitude
  match (rest.dropWhile Char.isDigit).dropWhile isIndexSpace with
  | ']' :: rest => if digits.isEmpty || !ConfigValue.fits n then none else some (n, rest)
  | _ => none

/-- The step that the text starts with. -/
def step? : List Char → Option (KeyStep × List Char)
  | '.' :: rest =>
      let name := rest.takeWhile isPartChar
      if name.isEmpty then none
      else some (.member (String.ofList name), rest.dropWhile isPartChar)
  | '[' :: rest => (index? rest).map fun (n, rest) => (.item n, rest)
  | _ => none

/-- The steps that make up the text. -/
def steps? (s : List Char) : Option (List KeyStep) :=
  if s.isEmpty then some []
  else
    match step? s with
    | none => none
    | some (step, rest) =>
        if rest.length < s.length then (steps? rest).map (step :: ·) else none
termination_by s.length

/-- The path that a key stands for; a key that is no path stands for itself. -/
def ofKey (key : String) : KeyPath :=
  let s := key.toList
  let head := s.takeWhile isPartChar
  match steps? (s.dropWhile isPartChar) with
  | some steps => if head.isEmpty then ⟨key, []⟩ else ⟨String.ofList head, steps⟩
  | none => ⟨key, []⟩

end KeyPath

namespace ConfigValue

mutual

/-- What becomes of a value when another is laid over it. -/
def overlay (existing : Option ConfigValue) : ConfigValue → ConfigValue
  | .table incoming => overlayMembers (existing.getD (.table [])) incoming
  | .null => .null
  | .bool value => .bool value
  | .int value => .int value
  | .float value => .float value
  | .str value => .str value
  | .list items => .list items

/-- Lays the members over a value, which turns into a table unless there are none. -/
def overlayMembers (existing : ConfigValue) : List (String × ConfigValue) → ConfigValue
  | [] => existing
  | (key, value) :: incoming =>
      let name := Text.lowercase key
      overlayMembers
        (.table (put name (overlay (get? existing.members name) value) existing.members)) incoming

end

/-- The items with one at the index, filled up with nulls as far as needed. -/
def putItem (index : Nat) (value : ConfigValue) (items : List ConfigValue) : List ConfigValue :=
  (items ++ List.replicate (index + 1 - items.length) ConfigValue.null).set index value

/-- How many items a list may have. -/
def maxItems : Nat := UInt32.size

/-- The position that an index means in a list of so many items, if a list can have it. -/
def position? (length : Nat) : Int → Option Nat
  | .ofNat index => if index < maxItems then some index else none
  | .negSucc below => if below < length then some (length - 1 - below) else none

/-- Lays a value over what the steps lead to.  What stands in the way is replaced. -/
def assign? (value : ConfigValue) (existing : ConfigValue) :
    KeyStep → List KeyStep → Option ConfigValue
  | .member key, [] =>
      let name := Text.lowercase key
      some (.table (put name (overlay (get? existing.members name) value) existing.members))
  | .member key, step :: steps =>
      let name := Text.lowercase key
      let slot := (get? existing.members name).getD .null
      (assign? value slot step steps).map fun inner => .table (put name inner existing.members)
  | .item index, [] =>
      (position? existing.items.length index).map fun position =>
        .list (putItem position value existing.items)
  | .item index, step :: steps =>
      match position? existing.items.length index with
      | none => none
      | some position =>
          let slot := existing.items[position]?.getD .null
          (assign? value slot step steps).map fun inner =>
            .list (putItem position inner existing.items)

/-- Lays a value over what a key of the table leads to. -/
def assignKey? (table : ConfigValue) (key : String) (value : ConfigValue) : Option ConfigValue :=
  let path := KeyPath.ofKey key
  assign? value table (.member path.head) path.steps

/-- Lays a layer over the ones before it. -/
def addLayer? (table : ConfigValue) (layer : List (String × ConfigValue)) : Option ConfigValue :=
  layer.foldlM (fun table (key, value) => table.assignKey? key value) table

end ConfigValue

end EnergyAudit
