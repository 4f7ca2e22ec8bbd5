import EnergyAudit.Proofs.Files.Tree
import EnergyAudit.Files.Workspace

/-! # Trees that differ in what their files hold

Where a path leads, and whether a file can be written there, does not hang on what the files of the
tree hold. -/

namespace EnergyAudit

namespace Place

/-- The place with nothing in its file. -/
def outline : Place → Place
  | .present location (.file _) => .present location (.file .empty)
  | place => place

/-- Whether a file can be written at the place. -/
def writable : Place → Except AccessError Unit
  | .present _ (.file _) => .ok ()
  | .present _ _ => .error .isDirectory
  | .vacant _ => .ok ()

theorem writable_outline (place : Place) : place.outline.writable = place.writable := by
  rcases place with ⟨location, content | target | _⟩ | location <;> rfl

end Place

namespace Tree

variable {tree tree' : Tree} {followLast : Bool}

/-- Whether the trees differ at most in what their files hold. -/
def SameOutline (tree tree' : Tree) : Prop :=
  ∀ location, tree.entryAt? location = tree'.entryAt? location ∨
    ∃ content content', tree.entryAt? location = some (.file content) ∧
      tree'.entryAt? location = some (.file content')

theorem SameOutline.refl (tree : Tree) : tree.SameOutline tree := fun _ => .inl rfl

theorem sameOutline_put_file (tree : Tree) (location : Location) (content content' : ByteArray) :
    (tree.put location (.file content)).SameOutline (tree.put location (.file content')) := by
  intro other
  by_cases root : other = []
  · subst root
    exact .inl rfl
  · by_cases same : other = location
    · subst same
      exact .inr ⟨content, content', entryAt?_put_same root .., entryAt?_put_same root ..⟩
    · rw [entryAt?_put_other same, entryAt?_put_other same]
      exact .inl rfl

theorem walkNames_outline (same : tree.SameOutline tree')
    {follow follow' : Location → List String → Except AccessError Place}
    (onward : ∀ start names,
      (follow start names).map Place.outline = (follow' start names).map Place.outline)
    (start : Location) (names : List String) :
    (walkNames tree followLast follow start names).map Place.outline =
      (walkNames tree' followLast follow' start names).map Place.outline := by
  induction names generalizing start with
  | nil => rfl
  | cons name rest ih =>
      simp only [walkNames]
      split
      · exact ih start
      · split
        · exact ih start.dropLast
        · split
          · rfl
          · rcases same (start ++ [name]) with entry | ⟨content, content', file, file'⟩
            · rw [entry]
              split
              · rfl
              · exact ih (start ++ [name])
              · rfl
              · split
                · rfl
                · exact onward _ _
            · -- A file ends the way if a name is left, and is where it leads otherwise.
              simp only [file, file']
              split <;> rfl

theorem walk_outline (same : tree.SameOutline tree') (links : Nat) (start : Location)
    (names : List String) :
    (walk tree followLast links start names).map Place.outline =
      (walk tree' followLast links start names).map Place.outline := by
  induction links generalizing start names with
  | zero => exact walkNames_outline same (fun _ _ => rfl) start names
  | succ left ih => exact walkNames_outline same ih start names

theorem locate_outline (same : tree.SameOutline tree') (start : Location) (followLast : Bool)
    (path : String) :
    (locate tree start followLast path).map Place.outline =
      (locate tree' start followLast path).map Place.outline := by
  unfold locate
  split
  · rfl
  · split
    · rfl
    · split
      · rfl
      · exact walk_outline same _ _ _

end Tree

namespace Workspace

variable {w w' : Workspace}

theorem map_write (w : Workspace) (path : String) (content : ByteArray) :
    (w.write path content).map (fun _ => ()) = (w.locate path).bind Place.writable := by
  unfold write
  cases w.locate path with
  | error e => rfl
  | ok place => rcases place with ⟨location, content | target | _⟩ | location <;> rfl

theorem locate_bind_writable (w : Workspace) (path : String) :
    (w.locate path).bind Place.writable =
      ((w.locate path).map Place.outline).bind Place.writable := by
  cases w.locate path with
  | error e => rfl
  | ok place => exact place.writable_outline.symm

/-- Whether the workspaces differ at most in what their files hold. -/
structure SameOutline (w w' : Workspace) : Prop where
  tree : w.tree.SameOutline w'.tree
  directory : w.directory = w'.directory

theorem SameOutline.refl (w : Workspace) : w.SameOutline w := ⟨.refl w.tree, rfl⟩

/-- Whether a file can be written depends neither on what it is to hold nor on what the files of the
workspace hold. -/
theorem SameOutline.write (same : w.SameOutline w') (path : String)
    (content content' : ByteArray) :
    (w.write path content).map (fun _ => ()) = (w'.write path content').map (fun _ => ()) := by
  have places := Tree.locate_outline same.tree w.directory true path
  rw [map_write, map_write, locate_bind_writable, locate_bind_writable, locate, locate, places,
    same.directory]

end Workspace

end EnergyAudit
