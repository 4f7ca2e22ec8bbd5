import EnergyAudit.Proofs.Files.Tree

/-! # The way to a place

Names lead from one directory to another if each of them is a directory or a link to one, seen from
where the names before it lead.  Whatever else a path names is found from the directory that all
names before its last one lead to. -/

namespace EnergyAudit

/-- Whether the name matters on a path: it is neither empty nor a single dot. -/
def Path.matters (name : String) : Bool := !(name == "" || name == ".")

/-- Where the place is. -/
def Place.location : Place → Location
  | .present location _ => location
  | .vacant location => location

/-- What stands at the place. -/
def Place.entry? : Place → Option Entry
  | .present _ entry => some entry
  | .vacant _ => none

namespace Tree

/-- A name that an entry may have. -/
structure IsEntryName (name : String) : Prop where
  matters : Path.matters name = true
  noParent : name ≠ ".."
  short : name.utf8ByteSize ≤ maxNameBytes

/-- The names lead from one directory to another, with `links` links that may be followed before
and `left` after. -/
inductive Leads (tree : Tree) : Nat → Location → List String → Nat → Location → Prop
  | here (links : Nat) (start : Location) : Leads tree links start [] links start
  | skip {links left : Nat} {start target : Location} {name : String} {names : List String}
      (idle : Path.matters name = false) (rest : Leads tree links start names left target) :
      Leads tree links start (name :: names) left target
  | up {links left : Nat} {start target : Location} {names : List String}
      (rest : Leads tree links start.dropLast names left target) :
      Leads tree links start (".." :: names) left target
  | into {links left : Nat} {start target : Location} {name : String} {names : List String}
      (entryName : IsEntryName name) (found : tree.entryAt? (start ++ [name]) = some .directory)
      (rest : Leads tree links (start ++ [name]) names left target) :
      Leads tree links start (name :: names) left target
  | follow {links left : Nat} {start target : Location} {name path : String}
      {names : List String} (entryName : IsEntryName name)
      (found : tree.entryAt? (start ++ [name]) = some (.link path))
      (rest : Leads tree links (if Path.isAbsolute path then [] else start)
        (Path.pieces path ++ names) left target) :
      Leads tree (links + 1) start (name :: names) left target

variable {tree : Tree} {followLast : Bool} {links left : Nat} {start target : Location}

/-! ## Going along one more name -/

theorem walk_nil : walk tree followLast links start [] = .ok (.present start .directory) := by
  cases links <;> rfl

theorem walk_idle {name : String} (idle : Path.matters name = false) (rest : List String) :
    walk tree followLast links start (name :: rest) = walk tree followLast links start rest := by
  have skipped : (name == "" || name == ".") = true := by
    simpa only [Path.matters, Bool.not_eq_false'] using idle
  cases links <;> exact if_pos skipped

theorem walk_up (rest : List String) :
    walk tree followLast links start (".." :: rest) =
      walk tree followLast links start.dropLast rest := by
  cases links <;> rfl

theorem walk_name {name : String} (entryName : IsEntryName name) (rest : List String) :
    walk tree followLast links start (name :: rest) =
      match tree.entryAt? (start ++ [name]) with
      | none => if rest.isEmpty then .ok (.vacant (start ++ [name])) else .error .notFound
      | some .directory => walk tree followLast links (start ++ [name]) rest
      | some (.file content) =>
          if rest.isEmpty then .ok (.present (start ++ [name]) (.file content))
          else .error .notDirectory
      | some (.link target) =>
          if rest.isEmpty && !followLast then .ok (.present (start ++ [name]) (.link target))
          else
            match links with
            | 0 => .error .tooManyLinks
            | left + 1 =>
                walk tree followLast left (if Path.isAbsolute target then [] else start)
                  (Path.pieces target ++ rest) := by
  have matters : ¬ (name == "" || name == ".") = true := by
    simpa [Path.matters] using entryName.matters
  have noParent : ¬ (name == "..") = true := by simpa using entryName.noParent
  have short : ¬ maxNameBytes < name.utf8ByteSize := Nat.not_lt.mpr entryName.short
  cases links with
  | zero => exact (if_neg matters).trans ((if_neg noParent).trans (if_neg short))
  | succ left => exact (if_neg matters).trans ((if_neg noParent).trans (if_neg short))

/-- What one more name comes to where going along the names succeeds. -/
inductive Steps (tree : Tree) (followLast : Bool) :
    Nat → Location → String → List String → Place → Prop
  | skip {links : Nat} {start : Location} {name : String} {rest : List String} {place : Place}
      (idle : Path.matters name = false)
      (onward : walk tree followLast links start rest = .ok place) :
      Steps tree followLast links start name rest place
  | up {links : Nat} {start : Location} {rest : List String} {place : Place}
      (onward : walk tree followLast links start.dropLast rest = .ok place) :
      Steps tree followLast links start ".." rest place
  | into {links : Nat} {start : Location} {name : String} {rest : List String} {place : Place}
      (entryName : IsEntryName name) (found : tree.entryAt? (start ++ [name]) = some .directory)
      (onward : walk tree followLast links (start ++ [name]) rest = .ok place) :
      Steps tree followLast links start name rest place
  | follow {left : Nat} {start : Location} {name path : String} {rest : List String}
      {place : Place} (entryName : IsEntryName name)
      (found : tree.entryAt? (start ++ [name]) = some (.link path))
      (followed : rest ≠ [] ∨ followLast = true)
      (onward : walk tree followLast left (if Path.isAbsolute path then [] else start)
        (Path.pieces path ++ rest) = .ok place) :
      Steps tree followLast (left + 1) start name rest place
  | ends {links : Nat} {start : Location} {name : String} {place : Place}
      (entryName : IsEntryName name) (located : place.location = start ++ [name])
      (found : place.entry? = tree.entryAt? (start ++ [name]))
      (noDirectory : place.entry? ≠ some .directory) :
      Steps tree followLast links start name [] place

theorem steps_of_walk {name : String} {rest : List String} {place : Place}
    (walked : walk tree followLast links start (name :: rest) = .ok place) :
    Steps tree followLast links start name rest place := by
  by_cases matters : Path.matters name = true
  case neg =>
      rw [Bool.not_eq_true] at matters
      exact .skip matters (walk_idle matters rest ▸ walked)
  case pos =>
    by_cases parent : name = ".."
    case pos =>
        subst parent
        exact .up (walk_up rest ▸ walked)
    case neg =>
      by_cases short : name.utf8ByteSize ≤ maxNameBytes
      case neg =>
          have idle : ¬ (name == "" || name == ".") = true := by
            simpa [Path.matters] using matters
          have long : maxNameBytes < name.utf8ByteSize := Nat.not_le.mp short
          cases links <;>
            rw [walk, walkNames, if_neg idle, if_neg (by simpa using parent), if_pos long]
              at walked <;>
            simp at walked
      case pos =>
        have entryName : IsEntryName name := ⟨matters, parent, short⟩
        rw [walk_name entryName] at walked
        cases found : tree.entryAt? (start ++ [name]) with
        | none =>
            rw [found] at walked
            cases rest with
            | nil =>
                obtain rfl := Except.ok.inj walked
                exact .ends entryName rfl found.symm (by simp [Place.entry?])
            | cons next rest => simp at walked
        | some entry =>
            rw [found] at walked
            cases entry with
            | directory => exact .into entryName found walked
            | file content =>
                cases rest with
                | nil =>
                    obtain rfl := Except.ok.inj walked
                    exact .ends entryName rfl found.symm (by simp [Place.entry?])
                | cons next rest => simp at walked
            | link path =>
                by_cases kept : (rest.isEmpty && !followLast) = true
                · simp only [kept, if_true] at walked
                  obtain rfl := Except.ok.inj walked
                  obtain rfl : rest = [] := by simp_all
                  exact .ends entryName rfl found.symm (by simp [Place.entry?])
                · simp only [kept, Bool.false_eq_true, if_false] at walked
                  cases links with
                  | zero => simp at walked
                  | succ left => exact .follow entryName found (by simp_all; tauto) walked

/-- Going along names is finite: names get fewer, and where a link puts more names in front of
them, there are fewer links to follow. -/
theorem walk_induction {motive : Nat → Location → List String → Prop}
    (none : ∀ links start, motive links start [])
    (more : ∀ links start name rest, (∀ start, motive links start rest) →
      (∀ left start names, left < links → motive left start names) →
        motive links start (name :: rest))
    (links : Nat) (start : Location) (names : List String) : motive links start names := by
  -- The links come first, since following one may put any number of names in front.
  induction links using Nat.strongRecOn generalizing start names with
  | ind links fewer =>
      induction names generalizing start with
      | nil => exact none links start
      | cons name rest shorter =>
          exact more links start name rest shorter fun left start names less =>
            fewer left less start names

/-- What stands at the end of a way that is no directory is what the tree has there. -/
theorem entryAt?_of_walk {links : Nat} {start : Location} {names : List String} {place : Place}
    (walked : walk tree followLast links start names = .ok place)
    (noDirectory : place.entry? ≠ some .directory) :
    tree.entryAt? place.location = place.entry? := by
  induction links, start, names using walk_induction with
  | none links start =>
      rw [walk_nil] at walked
      cases walked
      exact absurd rfl noDirectory
  | more links start name rest shorter fewer =>
      cases steps_of_walk walked with
      | skip _ onward => exact shorter start onward
      | up onward => exact shorter _ onward
      | into _ _ onward => exact shorter _ onward
      | follow _ _ _ onward => exact fewer _ _ _ (Nat.lt_succ_self _) onward
      | ends _ located found _ => rw [located, found]

/-! ## Names that lead to a directory -/

/-- Going along names that lead to a directory is going on from there. -/
theorem Leads.walk_append {names rest : List String}
    (leads : Leads tree links start names left target) (goesOn : rest ≠ [] ∨ followLast = true) :
    walk tree followLast links start (names ++ rest) = walk tree followLast left target rest := by
  induction leads with
  | here links start => rfl
  | skip idle _ ih => rw [List.cons_append, walk_idle idle, ih]
  | up _ ih => rw [List.cons_append, walk_up, ih]
  | into entryName found _ ih => rw [List.cons_append, walk_name entryName, found, ih]
  | @follow links left start target name path names entryName found _ ih =>
      have followed : ¬ ((names ++ rest).isEmpty && !followLast) = true := by
        rcases goesOn with more | last
        · simp [more]
        · simp [last]
      rw [List.cons_append, walk_name entryName, found]
      simp only
      rw [if_neg followed, ← ih, List.append_assoc]

theorem Leads.walk {names : List String} (leads : Leads tree links start names left target) :
    walk tree true links start names = .ok (.present target .directory) := by
  have whole : Tree.walk tree true links start (names ++ []) = _ := leads.walk_append (.inr rfl)
  rw [List.append_nil] at whole
  exact whole.trans walk_nil

/-- Names that something follows have to lead to a directory. -/
theorem exists_leads_of_walk_append {names rest : List String} {place : Place}
    (goesOn : rest ≠ [])
    (walked : walk tree followLast links start (names ++ rest) = .ok place) :
    ∃ left target, Leads tree links start names left target := by
  generalize whole : names ++ rest = all at walked
  induction links, start, all using walk_induction generalizing names with
  | none links start => exact absurd (List.append_eq_nil_iff.mp whole).2 goesOn
  | more links start name tail shorter fewer =>
      rcases List.append_eq_cons_iff.mp whole with ⟨rfl, _⟩ | ⟨names, rfl, same⟩
      · exact ⟨links, start, .here links start⟩
      · cases steps_of_walk walked with
        | skip idle onward =>
            obtain ⟨left, target, leads⟩ := shorter start same.symm onward
            exact ⟨left, target, .skip idle leads⟩
        | up onward =>
            obtain ⟨left, target, leads⟩ := shorter _ same.symm onward
            exact ⟨left, target, .up leads⟩
        | into entryName found onward =>
            obtain ⟨left, target, leads⟩ := shorter _ same.symm onward
            exact ⟨left, target, .into entryName found leads⟩
        | @follow left _ _ path _ _ entryName found _ onward =>
            have split : (Path.pieces path ++ names) ++ rest = Path.pieces path ++ tail := by
              rw [same, List.append_assoc]
            obtain ⟨left, target, leads⟩ := fewer left _ _ (Nat.lt_succ_self left) split onward
            exact ⟨left, target, .follow entryName found leads⟩
        | ends => exact absurd (List.append_eq_nil_iff.mp same.symm).2 goesOn

theorem exists_leads_of_walk {names : List String}
    (walked : walk tree true links start names = .ok (.present target .directory)) :
    ∃ left, Leads tree links start names left target := by
  induction links, start, names using walk_induction with
  | none links start =>
      rw [walk_nil] at walked
      cases walked
      exact ⟨links, .here links _⟩
  | more links start name rest shorter fewer =>
      cases steps_of_walk walked with
      | skip idle onward =>
          obtain ⟨left, leads⟩ := shorter start onward
          exact ⟨left, .skip idle leads⟩
      | up onward =>
          obtain ⟨left, leads⟩ := shorter _ onward
          exact ⟨left, .up leads⟩
      | into entryName found onward =>
          obtain ⟨left, leads⟩ := shorter _ onward
          exact ⟨left, .into entryName found leads⟩
      | follow entryName found _ onward =>
          obtain ⟨left, leads⟩ := fewer _ _ _ (Nat.lt_succ_self _) onward
          exact ⟨left, .follow entryName found leads⟩
      | ends _ _ _ noDirectory => exact absurd rfl noDirectory

/-- Where names lead to does not depend on what is said of them. -/
theorem Leads.rest {names more : List String} {left left' : Nat} {target target' : Location}
    (leads : Leads tree links start names left target)
    (whole : Leads tree links start (names ++ more) left' target') :
    Leads tree left target more left' target' := by
  induction leads with
  | here links start => exact whole
  | skip idle _ ih =>
      cases whole with
      | skip _ rest => exact ih rest
      | up => simp [Path.matters] at idle
      | into entryName => simp [entryName.matters] at idle
      | follow entryName => simp [entryName.matters] at idle
  | up _ ih =>
      cases whole with
      | skip idle => simp [Path.matters] at idle
      | up rest => exact ih rest
      | into entryName => exact absurd rfl entryName.noParent
      | follow entryName => exact absurd rfl entryName.noParent
  | into entryName found _ ih =>
      cases whole with
      | skip idle => simp [entryName.matters] at idle
      | up => exact absurd rfl entryName.noParent
      | into _ _ rest => exact ih rest
      | follow _ link => simp [found] at link
  | follow entryName found _ ih =>
      cases whole with
      | skip idle => simp [entryName.matters] at idle
      | up => exact absurd rfl entryName.noParent
      | into _ directory => simp [found] at directory
      | follow _ link rest =>
          simp only [found, Option.some.injEq, Entry.link.injEq] at link
          subst link
          exact ih (by rwa [List.append_assoc])

theorem Leads.target_eq {names : List String} {left left' : Nat} {target target' : Location}
    (leads : Leads tree links start names left target)
    (again : Leads tree links start names left' target') : target' = target := by
  have rest : Leads tree left target [] left' target' := leads.rest (by rwa [List.append_nil])
  cases rest
  rfl

theorem Leads.append {names more : List String} {left left' : Nat} {target target' : Location}
    (leads : Leads tree links start names left target)
    (goesOn : Leads tree left target more left' target') :
    Leads tree links start (names ++ more) left' target' := by
  induction leads with
  | here links start => exact goesOn
  | skip idle _ ih => exact .skip idle (ih goesOn)
  | up _ ih => exact .up (ih goesOn)
  | into entryName found _ ih => exact .into entryName found (ih goesOn)
  | follow entryName found _ ih =>
      have rest := ih goesOn
      rw [List.append_assoc] at rest
      exact .follow entryName found rest

theorem leads_of_idle {names : List String} (idle : ∀ name ∈ names, Path.matters name = false) :
    Leads tree links start names links start := by
  induction names with
  | nil => exact .here links start
  | cons name names ih =>
      exact .skip (idle name List.mem_cons_self)
        (ih fun later member => idle later (List.mem_cons_of_mem _ member))

/-- Names that do not matter may be put in or left out anywhere. -/
theorem Leads.congr {names names' : List String}
    (leads : Leads tree links start names left target)
    (same : names.filter Path.matters = names'.filter Path.matters) :
    Leads tree links start names' left target := by
  have skipped {before : List String} {links : Nat} {start : Location}
      (idle : ∀ name ∈ before, ¬ Path.matters name = true) :
      Leads tree links start before links start :=
    leads_of_idle fun name member => by simpa using idle name member
  induction leads generalizing names' with
  | here links start =>
      exact leads_of_idle fun name member => by
        have none := List.filter_eq_nil_iff.mp same.symm name member
        simpa using none
  | skip idle _ ih =>
      rw [List.filter_cons_of_neg (by simp [idle])] at same
      exact ih same
  | up _ ih =>
      rw [List.filter_cons_of_pos (by decide)] at same
      obtain ⟨before, after, rfl, idle, _, same⟩ := List.filter_eq_cons_iff.mp same.symm
      exact (skipped idle).append (.up (ih same.symm))
  | into entryName found _ ih =>
      rw [List.filter_cons_of_pos entryName.matters] at same
      obtain ⟨before, after, rfl, idle, _, same⟩ := List.filter_eq_cons_iff.mp same.symm
      exact (skipped idle).append (.into entryName found (ih same.symm))
  | @follow _ _ _ _ _ path names entryName found _ ih =>
      rw [List.filter_cons_of_pos entryName.matters] at same
      obtain ⟨before, after, rfl, idle, _, same⟩ := List.filter_eq_cons_iff.mp same.symm
      have alike : (Path.pieces path ++ names).filter Path.matters =
          (Path.pieces path ++ after).filter Path.matters := by
        rw [List.filter_append, List.filter_append, same]
      exact (skipped idle).append (.follow entryName found (ih alike))

/-- Only directories and links matter for where names lead to. -/
theorem Leads.mono {tree' : Tree} {names : List String}
    (kept : ∀ location entry, tree.entryAt? location = some entry →
      (∀ content, entry ≠ .file content) → tree'.entryAt? location = some entry)
    (leads : Leads tree links start names left target) :
    Leads tree' links start names left target := by
  induction leads with
  | here links start => exact .here links start
  | skip idle _ ih => exact .skip idle ih
  | up _ ih => exact .up ih
  | into entryName found _ ih => exact .into entryName (kept _ _ found nofun) ih
  | follow entryName found _ ih => exact .follow entryName (kept _ _ found nofun) ih

/-! ## Places that are no directories -/

theorem walk_singleton {name : String} {place : Place}
    (walked : walk tree false links start [name] = .ok place)
    (noDirectory : place.entry? ≠ some .directory) :
    IsEntryName name ∧ place.location = start ++ [name] ∧
      place.entry? = tree.entryAt? (start ++ [name]) := by
  have elsewhere {location : Location} (onward : walk tree false links location [] = .ok place) :
      False := by
    rw [walk_nil] at onward
    obtain rfl := Except.ok.inj onward
    exact noDirectory rfl
  cases steps_of_walk walked with
  | skip _ onward => exact (elsewhere onward).elim
  | up onward => exact (elsewhere onward).elim
  | into _ _ onward => exact (elsewhere onward).elim
  | follow _ _ followed _ => simp at followed
  | ends entryName located found _ => exact ⟨entryName, located, found⟩

/-- What is no directory is named by the last name of a path, in the directory that the names before
it lead to. -/
theorem exists_name_of_walk {names : List String} {place : Place}
    (walked : walk tree false links start names = .ok place)
    (noDirectory : place.entry? ≠ some .directory) :
    ∃ before name left target, names = before ++ [name] ∧ IsEntryName name ∧
      Leads tree links start before left target ∧ place.location = target ++ [name] ∧
        place.entry? = tree.entryAt? (target ++ [name]) := by
  rcases List.eq_nil_or_concat names with rfl | ⟨before, name, rfl⟩
  · rw [walk_nil] at walked
    obtain rfl := Except.ok.inj walked
    exact absurd rfl noDirectory
  · rw [List.concat_eq_append] at walked ⊢
    obtain ⟨left, target, leads⟩ := exists_leads_of_walk_append (by simp) walked
    rw [leads.walk_append (.inl (by simp))] at walked
    obtain ⟨entryName, located, found⟩ := walk_singleton walked noDirectory
    exact ⟨before, name, left, target, rfl, entryName, leads, located, found⟩

/-- A file in place of another one, or in a free place, is in nobody's way. -/
theorem Leads.put_file {names : List String} {left : Nat} {target location : Location}
    (leads : Leads tree links start names left target)
    (replaced : ∀ entry, tree.entryAt? location = some entry → ∃ content, entry = .file content)
    (content : ByteArray) :
    Leads (tree.put location (.file content)) links start names left target := by
  apply leads.mono
  intro other entry found noFile
  have different : other ≠ location := by
    rintro rfl
    obtain ⟨old, same⟩ := replaced entry found
    exact noFile old same
  rw [entryAt?_put_other different, found]

/-- What leads to a directory past a new file has led there before. -/
theorem Leads.of_put_file {names : List String} {left : Nat} {target location : Location}
    {content : ByteArray} (some : location ≠ [])
    (leads : Leads (tree.put location (.file content)) links start names left target) :
    Leads tree links start names left target := by
  apply leads.mono
  intro other entry found noFile
  by_cases same : other = location
  · subst same
    rw [entryAt?_put_same some, Option.some.injEq] at found
    exact absurd found.symm (noFile content)
  · rwa [entryAt?_put_other same] at found

end Tree

end EnergyAudit
