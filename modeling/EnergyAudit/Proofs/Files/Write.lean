import EnergyAudit.Proofs.Files.Directories
import EnergyAudit.Proofs.Files.Outline

/-! # Files after a write

What is written to a file is read again, along the path that it was written along and along every
other one that leads there.  All other files are read as before, since a file in place of another
one, or in a free place, is on the way to nothing. -/

namespace EnergyAudit

/-- The place as it is once a file with the content was written at the location. -/
def Place.written (location : Location) (content : ByteArray) : Place → Place
  | .present other (.file old) => .present other (.file (if other = location then content else old))
  | .vacant other => if other = location then .present other (.file content) else .vacant other
  | place => place

/-- What the file at the place holds. -/
def Place.content? : Place → Option ByteArray
  | .present _ (.file content) => some content
  | _ => none

theorem Place.content?_written {place : Place} {location : Location}
    (elsewhere : place.location ≠ location) (content : ByteArray) :
    (place.written location content).content? = place.content? := by
  rcases place with ⟨other, old | target | _⟩ | other
  · simp only [written, if_neg (show other ≠ location from elsewhere)]
  · rfl
  · rfl
  · simp only [written, if_neg (show other ≠ location from elsewhere)]

namespace Tree

variable {tree : Tree} {followLast : Bool} {location : Location}

/-- Whether a file can be put at the location without anything else getting lost. -/
def FreeForFile (tree : Tree) (location : Location) : Prop :=
  ∀ entry, tree.entryAt? location = some entry → ∃ content, entry = .file content

theorem FreeForFile.ne_nil (free : tree.FreeForFile location) : location ≠ [] := by
  rintro rfl
  obtain ⟨content, same⟩ := free .directory rfl
  exact nomatch same

/-- Where names lead once a file was written is where they have led, with the file in it. -/
theorem walkNames_put_file (free : tree.FreeForFile location) (content : ByteArray)
    {follow follow' : Location → List String → Except AccessError Place}
    (onward : ∀ start names, (follow' start names).toOption =
      (follow start names).toOption.map (Place.written location content))
    (start : Location) (names : List String) :
    (walkNames (tree.put location (.file content)) followLast follow' start names).toOption =
      (walkNames tree followLast follow start names).toOption.map
        (Place.written location content) := by
  induction names generalizing start with
  | nil => rfl
  | cons name rest ih =>
      simp only [walkNames]
      split
      · exact ih start
      · split
        · exact ih start.dropLast
        · split
          · rfl
          · -- At the file itself the way ends, before as after; all other entries are the same.
            by_cases same : start ++ [name] = location
            · rw [same, entryAt?_put_same free.ne_nil]
              cases found : tree.entryAt? location with
              | none =>
                  dsimp only
                  cases rest.isEmpty with
                  | false => rfl
                  | true => simp [Except.toOption, Place.written]
              | some entry =>
                  obtain ⟨old, rfl⟩ := free entry found
                  dsimp only
                  cases rest.isEmpty with
                  | false => rfl
                  | true => simp [Except.toOption, Place.written]
            · rw [entryAt?_put_other same]
              cases tree.entryAt? (start ++ [name]) with
              | none =>
                  dsimp only
                  cases rest.isEmpty with
                  | false => rfl
                  | true => simp [Except.toOption, Place.written, same]
              | some entry =>
                  cases entry with
                  | directory => exact ih (start ++ [name])
                  | file old =>
                      dsimp only
                      cases rest.isEmpty with
                      | false => rfl
                      | true => simp [Except.toOption, Place.written, same]
                  | link target =>
                      dsimp only
                      split
                      · rfl
                      · exact onward _ _

theorem walk_put_file (free : tree.FreeForFile location) (content : ByteArray) (links : Nat)
    (start : Location) (names : List String) :
    (walk (tree.put location (.file content)) followLast links start names).toOption =
      (walk tree followLast links start names).toOption.map (Place.written location content) := by
  induction links generalizing start names with
  | zero => exact walkNames_put_file free content (fun _ _ => rfl) start names
  | succ left ih => exact walkNames_put_file free content ih start names

theorem locate_put_file (free : tree.FreeForFile location) (content : ByteArray)
    (start : Location) (followLast : Bool) (path : String) :
    (locate (tree.put location (.file content)) start followLast path).toOption =
      (locate tree start followLast path).toOption.map (Place.written location content) := by
  unfold locate
  split
  · rfl
  · split
    · rfl
    · split
      · rfl
      · exact walk_put_file free content _ _ _

end Tree

namespace Workspace

variable {w w' : Workspace} {path other : String} {content : ByteArray} {location : Location}

/-- The location that the path leads to. -/
def location? (w : Workspace) (path : String) : Option Location :=
  (w.locate path).toOption.map Place.location

/-- A write puts a file where the path leads, to a free place or in place of another file. -/
theorem exists_place_of_write (written : w.write path content = .ok w') :
    ∃ place, w.locate path = .ok place ∧ w.tree.FreeForFile place.location ∧
      place.written place.location content = .present place.location (.file content) ∧
        w' = w.put place.location (.file content) := by
  have stands {place : Place} (located : w.locate path = .ok place)
      (noDirectory : place.entry? ≠ some .directory) :
      w.tree.entryAt? place.location = place.entry? :=
    Tree.entryAt?_of_walk (locate_eq_ok.mp located).2 noDirectory
  unfold write at written
  split at written
  case h_1 location old located =>
      refine ⟨_, located, ?_, by simp [Place.written, Place.location], (Except.ok.inj written).symm⟩
      intro entry found
      rw [stands located nofun] at found
      exact ⟨old, (Option.some.inj found).symm⟩
  case h_2 => exact nomatch written
  case h_3 location located =>
      refine ⟨_, located, ?_, by simp [Place.written, Place.location], (Except.ok.inj written).symm⟩
      intro entry found
      rw [stands located nofun] at found
      exact nomatch found
  case h_4 => exact nomatch written

theorem location?_of_locate {place : Place} (located : w.locate path = .ok place) :
    w.location? path = some place.location := by
  rw [location?, located]
  rfl

/-- Nothing but the file that is written changes. -/
theorem entryAt?_of_write (written : w.write path content = .ok w')
    (elsewhere : w.location? path ≠ some location) :
    w'.tree.entryAt? location = w.tree.entryAt? location := by
  obtain ⟨place, located, -, -, rfl⟩ := exists_place_of_write written
  rw [location?_of_locate located] at elsewhere
  exact Tree.entryAt?_put_other (fun same => elsewhere (congrArg some same.symm)) ..

theorem locate_of_write (written : w.write path content = .ok w')
    (located : w.location? path = some location) (other : String) :
    (w'.locate other).toOption =
      (w.locate other).toOption.map (Place.written location content) := by
  obtain ⟨place, known, free, -, rfl⟩ := exists_place_of_write written
  rw [location?_of_locate known] at located
  cases located
  exact Tree.locate_put_file free content w.directory true other

theorem toOption_read (w : Workspace) (path : String) :
    (w.read path).toOption = (w.locate path).toOption.bind Place.content? := by
  unfold read
  cases w.locate path with
  | error e => rfl
  | ok place => rcases place with ⟨location, content | target | _⟩ | location <;> rfl

theorem read_of_write (written : w.write path content = .ok w') :
    (w'.read path).toOption = some content := by
  obtain ⟨place, located, -, new, -⟩ := exists_place_of_write written
  rw [toOption_read, locate_of_write written (location?_of_locate located), located]
  simp only [Except.toOption, Option.map_some, Option.bind_some, new, Place.content?]

/-- Whether both paths lead to the same place. -/
def SamePlace (w : Workspace) (path other : String) : Prop :=
  ∃ location, w.location? path = some location ∧ w.location? other = some location

theorem read_of_write_elsewhere (written : w.write path content = .ok w')
    (elsewhere : ¬ w.SamePlace path other) :
    (w'.read other).toOption = (w.read other).toOption := by
  obtain ⟨place, located, -⟩ := exists_place_of_write written
  have known := location?_of_locate located
  rw [toOption_read, toOption_read, locate_of_write written known]
  cases found : w.locate other with
  | error e => rfl
  | ok place' =>
      apply Place.content?_written
      intro same
      exact elsewhere ⟨place.location, known, same ▸ location?_of_locate found⟩

end Workspace

end EnergyAudit
