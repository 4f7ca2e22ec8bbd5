import EnergyAudit.Settings.Value

/-! # Tables of a TOML document

A document is built from its statements one by one.  Every table remembers how it came to be, since
that decides what may still be added: a table with a header of its own is closed to dotted keys from
elsewhere, one that only stands on the way to another may get its header later, and a value is
closed to everything. -/

namespace EnergyAudit.Toml

/-- How a table came to be. -/
inductive Origin where
  /-- By a header of its own. -/
  | header
  /-- On the way to another table. -/
  | implied
  /-- By a dotted key. -/
  | dotted
deriving DecidableEq, Repr

/-- What a key stands for while the document is built. -/
inductive Node where
  | value (value : ConfigValue)
  | table (origin : Origin) (members : List (String × Node))
  /-- A list of tables, last one first. -/
  | tables (back : List (List (String × Node)))

/-- Keys with what they stand for. -/
abbrev Members := List (String × Node)

namespace Members

def get? (members : Members) (key : String) : Option Node :=
  (members.find? (·.1 == key)).map (·.2)

def put (key : String) (node : Node) : Members → Members
  | [] => [(key, node)]
  | member :: rest =>
      if member.1 == key then (key, node) :: rest else member :: put key node rest

/-- Changes the members of the table at the path.  Tables on the way are made where there are none;
of a list of tables, the last one counts. -/
def change? (f : Members → Option Members) : List String → Members → Option Members
  | [], members => f members
  | key :: path, members =>
      match get? members key with
      | none => (change? f path []).map fun sub => put key (.table .implied sub) members
      | some (.table origin sub) =>
          (change? f path sub).map fun sub => put key (.table origin sub) members
      | some (.tables (last :: back)) =>
          (change? f path last).map fun last => put key (.tables (last :: back)) members
      | some (.tables []) | some (.value _) => none

def addNew? (key : String) (value : ConfigValue) (members : Members) : Option Members :=
  if (get? members key).isNone then some (put key (.value value) members) else none

/-- Adds a value at a dotted key.  The table that it goes to has to be one made by dotted keys. -/
def addDotted? (key : String) (value : ConfigValue) : List String → Members → Option Members
  | [], members => addNew? key value members
  | part :: path, members =>
      match get? members part with
      | none =>
          (addDotted? key value path []).map fun sub => put part (.table .dotted sub) members
      | some (.table .dotted sub) =>
          (addDotted? key value path sub).map fun sub => put part (.table .dotted sub) members
      | some (.table .implied sub) =>
          if path.isEmpty then none
          else
            (addDotted? key value path sub).map fun sub => put part (.table .implied sub) members
      | some (.tables (last :: back)) =>
          if path.isEmpty then none
          else
            (addDotted? key value path last).map fun last =>
              put part (.tables (last :: back)) members
      | some (.tables []) | some (.table .header _) | some (.value _) => none

/-- Adds a value at a key of one or more parts. -/
def add? (key : List String) (value : ConfigValue) (members : Members) : Option Members :=
  match key.getLast? with
  | some last => addDotted? last value key.dropLast members
  | none => none

/-- Gives the table at the key its header. -/
def openTable? (key : String) (members : Members) : Option Members :=
  match get? members key with
  | none => some (put key (.table .header []) members)
  | some (.table .implied sub) => some (put key (.table .header sub) members)
  | some _ => none

/-- Adds a table to the list of tables at the key. -/
def openItem? (key : String) (members : Members) : Option Members :=
  match get? members key with
  | none => some (put key (.tables [[]]) members)
  | some (.tables back) => some (put key (.tables ([] :: back)) members)
  | some _ => none

end Members

mutual

def Node.toValue : Node → ConfigValue
  | .value value => value
  | .table _ members => .table (valuesOf members)
  | .tables back => .list (tablesOf back).reverse

/-- The members of a table in the end. -/
def valuesOf : List (String × Node) → List (String × ConfigValue)
  | [] => []
  | (key, node) :: members => (key, node.toValue) :: valuesOf members

/-- The tables of a list in the end, last one first. -/
def tablesOf : List (List (String × Node)) → List ConfigValue
  | [] => []
  | members :: back => .table (valuesOf members) :: tablesOf back

end

/-- A statement of a document. -/
inductive Statement where
  | tableHeader (path : List String)
  | itemHeader (path : List String)
  | pair (key : List String) (value : ConfigValue)

/-- A document being built: the root and the path of the table that pairs go to. -/
structure Building where
  root : Members
  path : List String

/-- Opens what a header names. -/
def Building.open? (building : Building) (open? : String → Members → Option Members)
    (path : List String) : Option Building :=
  match path.getLast? with
  | some last => (building.root.change? (open? last) path.dropLast).map (⟨·, path⟩)
  | none => none

def Building.add? (building : Building) : Statement → Option Building
  | .tableHeader path => building.open? Members.openTable? path
  | .itemHeader path => building.open? Members.openItem? path
  | .pair key value =>
      (building.root.change? (Members.add? key value) building.path).map (⟨·, building.path⟩)

def build? (statements : List Statement) : Option ConfigValue :=
  (statements.foldlM Building.add? ⟨[], []⟩).map fun building => .table (valuesOf building.root)

end EnergyAudit.Toml
