import EnergyAudit.Files.Workspace
import EnergyAudit.Proofs.Files.Path
import EnergyAudit.Proofs.Files.Tree

/-! # Making directories

Where a directory is there, making it changes nothing.  Where it is missing, it is made in a place
below which there is nothing, provided that its path goes down only. -/

namespace EnergyAudit

/-- What a path has to be for the system to look at it. -/
structure Path.Usable (path : String) : Prop where
  text : path.toList.contains '\x00' = false
  nonempty : path ≠ ""
  short : path.utf8ByteSize ≤ Tree.maxPathBytes

namespace Workspace

/-- Where the names of a path are read from. -/
def start (w : Workspace) (path : String) : Location :=
  if Path.isAbsolute path then [] else w.directory

/-- Whether the names of the path lead to the directory at the location. -/
def LeadsTo (w : Workspace) (path : String) (location : Location) : Prop :=
  ∃ left, w.tree.Leads Tree.maxLinks (w.start path) (Path.pieces path) left location

/-- The workspace with the entry at the location. -/
def put (w : Workspace) (location : Location) (entry : Entry) : Workspace :=
  { w with tree := w.tree.put location entry }

variable {w w' : Workspace} {path : String} {location : Location}

theorem locate_eq_ok {followLast : Bool} {place : Place} :
    w.tree.locate w.directory followLast path = .ok place ↔
      Path.Usable path ∧
        w.tree.walk followLast Tree.maxLinks (w.start path) (Path.pieces path) = .ok place := by
  unfold Tree.locate
  split
  case isTrue nul =>
      simp only [reduceCtorEq, false_iff, not_and]
      intro usable
      rw [usable.text] at nul
      contradiction
  case isFalse nul =>
    split
    case isTrue empty =>
        simp only [reduceCtorEq, false_iff, not_and]
        intro usable
        exact absurd (beq_iff_eq.mp empty) usable.nonempty
    case isFalse empty =>
      split
      case isTrue long =>
          simp only [reduceCtorEq, false_iff, not_and]
          intro usable
          exact absurd usable.short (Nat.not_le.mpr long)
      case isFalse long =>
          have usable : Path.Usable path :=
            ⟨Bool.eq_false_iff.mpr nul, by simpa using empty, Nat.not_lt.mp long⟩
          simp only [usable, true_and]
          rfl

theorem isDirectory_iff_locate :
    w.isDirectory path = true ↔ ∃ location, w.locate path = .ok (.present location .directory) := by
  unfold isDirectory entry?
  constructor
  · intro directory
    split at directory
    case h_1 location entry located =>
        cases entry with
        | directory => exact ⟨location, located⟩
        | file content => contradiction
        | link target => contradiction
    case h_2 => contradiction
  · rintro ⟨location, located⟩
    rw [located]
    rfl

theorem isDirectory_iff :
    w.isDirectory path = true ↔ Path.Usable path ∧ ∃ location, w.LeadsTo path location := by
  rw [isDirectory_iff_locate]
  constructor
  · rintro ⟨location, located⟩
    obtain ⟨usable, walked⟩ := locate_eq_ok.mp located
    obtain ⟨left, leads⟩ := Tree.exists_leads_of_walk walked
    exact ⟨usable, location, left, leads⟩
  · rintro ⟨usable, location, left, leads⟩
    exact ⟨location, locate_eq_ok.mpr ⟨usable, leads.walk⟩⟩

/-- A directory that could be made was there, or is new at the end of its path. -/
theorem makeDirectory_cases (made : w.makeDirectory path = .ok w') :
    (w.isDirectory path = true ∧ w' = w) ∨
      ∃ before name left target, Path.pieces path = before ++ [name] ∧ Tree.IsEntryName name ∧
        w.tree.Leads Tree.maxLinks (w.start path) before left target ∧
          w.tree.entryAt? (target ++ [name]) = none ∧ w' = w.put (target ++ [name]) .directory := by
  unfold makeDirectory at made
  split at made
  case isTrue directory =>
      simp only [Except.ok.injEq] at made
      exact .inl ⟨directory, made.symm⟩
  case isFalse =>
      split at made
      case h_1 => contradiction
      case h_2 location located =>
          simp only [Except.ok.injEq] at made
          obtain ⟨before, name, left, target, cut, entryName, leads, rfl, vacant⟩ :=
            Tree.exists_name_of_walk (locate_eq_ok.mp located).2 (by nofun)
          exact .inr ⟨before, name, left, target, cut, entryName, leads, vacant.symm, made.symm⟩
      case h_3 => contradiction

/-! ## Directories that are there -/

/-- What is the start of a way to a directory is not made anew. -/
theorem isDirectory_of_makeDirectory {more : List String} {left : Nat}
    (leads : w.tree.Leads Tree.maxLinks (w.start path) (Path.pieces path ++ more) left location)
    (made : w.makeDirectory path = .ok w') : w.isDirectory path = true ∧ w' = w := by
  rcases makeDirectory_cases made with
    there | ⟨before, name, _, target, cut, entryName, way, vacant, _⟩
  · exact there
  · rw [cut, List.append_assoc] at leads
    cases way.rest leads with
    | skip idle => simp [entryName.matters] at idle
    | up => exact absurd rfl entryName.noParent
    | into _ found => simp [vacant] at found
    | follow _ found => simp [vacant] at found

/-- What making a directory, and those on the way to it where need be, comes to. -/
inductive MakesAlong (w : Workspace) : List String → Workspace → Option AccessError → Prop
  | nothing : MakesAlong w [] w none
  | made {path : String} {parents : List String} {w' : Workspace}
      (made : w.makeDirectory path = .ok w') : MakesAlong w (path :: parents) w' none
  | refused {path : String} {parents : List String} {e : AccessError}
      (refused : w.makeDirectory path = .error e) : MakesAlong w (path :: parents) w (some e)
  | stopped {path : String} {parents : List String} {w' : Workspace} {e : AccessError}
      (missing : w.makeDirectory path = .error .notFound)
      (stopped : MakesAlong w parents w' (some e)) : MakesAlong w (path :: parents) w' (some e)
  | after {path : String} {parents : List String} {w' w'' : Workspace}
      (missing : w.makeDirectory path = .error .notFound) (before : MakesAlong w parents w' none)
      (made : w'.makeDirectory path = .ok w'') : MakesAlong w (path :: parents) w'' none
  | refusedAfter {path : String} {parents : List String} {w' : Workspace} {e : AccessError}
      (missing : w.makeDirectory path = .error .notFound) (before : MakesAlong w parents w' none)
      (refused : w'.makeDirectory path = .error e) :
      MakesAlong w (path :: parents) w' (some e)

theorem makesAlong (w : Workspace) (paths : List String) :
    w.MakesAlong paths (w.makeAlong paths).1 (w.makeAlong paths).2 := by
  induction paths with
  | nil => exact .nothing
  | cons path parents ih =>
      unfold makeAlong
      split
      · rename_i made
        exact .made made
      · rename_i missing
        rcases before : w.makeAlong parents with ⟨w', _ | e⟩
        · rw [before] at ih
          dsimp only
          split
          · rename_i made
            exact .after missing ih made
          · rename_i refused
            exact .refusedAfter missing ih refused
        · rw [before] at ih
          exact .stopped missing ih
      · rename_i refused
        exact .refused refused

theorem makeDirectories_of_isDirectory
    (directory : ∀ last ∈ (pathStarts path).getLast?, w.isDirectory last = true) :
    w.makeDirectories path = (w, none) := by
  unfold makeDirectories
  rw [← List.head?_reverse] at directory
  cases starts : (pathStarts path).reverse with
  | nil => rfl
  | cons last parents =>
      rw [starts] at directory
      simp only [makeAlong, makeDirectory, directory last rfl, if_true]

/-- A start of a path is made of the first of its components. -/
theorem exists_parts_of_mem_pathStarts {start : String} (member : start ∈ pathStarts path) :
    ∃ parts rest, Path.components path = parts ++ rest ∧ parts ≠ [] ∧
      start = Path.ofComponents parts := by
  simp only [pathStarts, List.mem_map, List.mem_range] at member
  obtain ⟨n, less, rfl⟩ := member
  refine ⟨(Path.components path).take (n + 1), (Path.components path).drop (n + 1),
    (List.take_append_drop ..).symm, ?_, rfl⟩
  intro none
  have := congrArg List.length none
  simp only [List.length_take, List.length_nil] at this
  omega

theorem start_ofComponents {parts rest : List Path.Component}
    (whole : Path.components path = parts ++ rest) (some : parts ≠ []) :
    w.start (Path.ofComponents parts) = w.start path := by
  simp only [start, Path.isAbsolute_ofComponents some ⟨rest, whole.symm⟩]

theorem filter_ofComponents_of_append {parts rest : List Path.Component}
    (whole : Path.components path = parts ++ rest) (some : parts ≠ []) :
    (Path.pieces (Path.ofComponents parts)).filter Path.matters =
      (parts.map Path.Component.text).filter Path.matters :=
  Path.filter_ofComponents some fun _ member =>
    Path.slash_not_mem_components (whole ▸ List.mem_append_left rest member)

/-- The names of a start of a path go on to where the path leads. -/
theorem exists_leads_of_mem_pathStarts (leads : w.LeadsTo path location) {start : String}
    (member : start ∈ pathStarts path) : ∃ more left,
      w.tree.Leads Tree.maxLinks (w.start start) (Path.pieces start ++ more) left location := by
  obtain ⟨left, leads⟩ := leads
  obtain ⟨parts, rest, whole, some, rfl⟩ := exists_parts_of_mem_pathStarts member
  refine ⟨rest.map Path.Component.text, left, ?_⟩
  rw [start_ofComponents whole some]
  apply leads.congr
  rw [← Path.filter_components, whole, List.map_append, List.filter_append, List.filter_append,
    filter_ofComponents_of_append whole some]

/-- Where a directory is there, none is made on the way to it. -/
theorem MakesAlong.eq_of_leadsTo (leads : w.LeadsTo path location) {paths : List String}
    {failure : Option AccessError} (starts : ∀ start ∈ paths, start ∈ pathStarts path)
    (makes : w.MakesAlong paths w' failure) :
    w' = w ∧ (failure = none → ∀ last ∈ paths.head?, w.isDirectory last = true) := by
  have there {start : String} {made : Workspace} (member : start ∈ pathStarts path)
      (first : w.makeDirectory start = .ok made) : w.isDirectory start = true ∧ made = w := by
    obtain ⟨more, left, way⟩ := exists_leads_of_mem_pathStarts leads member
    exact isDirectory_of_makeDirectory way first
  induction makes with
  | nothing => exact ⟨rfl, fun _ => nofun⟩
  | made made =>
      obtain ⟨directory, same⟩ := there (starts _ List.mem_cons_self) made
      exact ⟨same, fun _ last head => Option.some.inj head ▸ directory⟩
  | refused => exact ⟨rfl, nofun⟩
  | stopped _ _ ih => exact ⟨(ih (List.forall_mem_cons.mp starts).2).1, nofun⟩
  | after missing _ made ih =>
      obtain ⟨rfl, -⟩ := ih (List.forall_mem_cons.mp starts).2
      exact nomatch missing.symm.trans made
  | refusedAfter _ _ _ ih => exact ⟨(ih (List.forall_mem_cons.mp starts).2).1, nofun⟩

/-- Where a directory is there, making it works only by leaving everything as it is. -/
theorem makeDirectories_of_leadsTo (leads : w.LeadsTo path location)
    (made : w.makeDirectories path = (w', none)) :
    w' = w ∧ ∀ last ∈ (pathStarts path).getLast?, w.isDirectory last = true := by
  have makes := w.makesAlong (pathStarts path).reverse
  rw [← makeDirectories, made] at makes
  obtain ⟨same, directory⟩ := makes.eq_of_leadsTo leads fun _ => List.mem_reverse.mp
  rw [List.head?_reverse] at directory
  exact ⟨same, directory rfl⟩

/-! ## Directories that are missing -/

/-- The starts of the path that these components make up. -/
def startsOf (parts : List Path.Component) : List String :=
  (List.range parts.length).map fun n => Path.ofComponents (parts.take (n + 1))

theorem startsOf_concat (parts : List Path.Component) (part : Path.Component) :
    startsOf (parts ++ [part]) = startsOf parts ++ [Path.ofComponents (parts ++ [part])] := by
  rw [startsOf, List.length_append, List.length_singleton, List.range_succ, List.map_append]
  congr 1
  · refine List.map_congr_left fun n less => ?_
    have bound := List.mem_range.mp less
    rw [List.take_append_of_le_length bound]
  · rw [List.map_singleton, List.take_of_length_le (by simp)]

/-- Whether the names lead to a directory below which there is nothing. -/
def LeadsToBare (w : Workspace) (start : Location) (names : List String) : Prop :=
  ∃ left location, w.tree.Leads Tree.maxLinks start names left location ∧ w.tree.Bare location

/-- The directory that is made at the end of a way is bare. -/
theorem leadsToBare_put {before : List String} {name : String} {left : Nat} {start : Location}
    (entryName : Tree.IsEntryName name)
    (leads : w.tree.Leads Tree.maxLinks start before left location)
    (vacant : w.tree.entryAt? (location ++ [name]) = none)
    (bare : w.tree.Bare (location ++ [name])) :
    (w.put (location ++ [name]) .directory).LeadsToBare start (before ++ [name]) := by
  have kept : ∀ other entry, w.tree.entryAt? other = some entry →
      (∀ content, entry ≠ .file content) →
        (w.put (location ++ [name]) .directory).tree.entryAt? other = some entry := by
    intro other entry found _
    have different : other ≠ location ++ [name] := by
      rintro rfl
      simp [vacant] at found
    exact (Tree.entryAt?_put_other different w.tree .directory).trans found
  have there : (w.put (location ++ [name]) .directory).tree.entryAt? (location ++ [name]) =
      some .directory := Tree.entryAt?_put_same (by simp) w.tree .directory
  have way := (leads.mono kept).append (.into entryName there (.here ..))
  exact ⟨left, location ++ [name], way, bare.put .directory⟩

theorem LeadsToBare.congr {start : Location} {names names' : List String}
    (bare : w.LeadsToBare start names)
    (same : names.filter Path.matters = names'.filter Path.matters) :
    w.LeadsToBare start names' := by
  obtain ⟨left, location, leads, nothing⟩ := bare
  exact ⟨left, location, leads.congr same, nothing⟩

/-- Where nothing stands, names lead further only if they do not matter. -/
theorem leads_bare {links left : Nat} {target : Location} {names : List String}
    (bare : w.tree.Bare location) (down : ".." ∉ names)
    (leads : w.tree.Leads links location names left target) : target = location := by
  induction names generalizing links with
  | nil =>
      cases leads
      rfl
  | cons name names ih =>
      rw [List.mem_cons, not_or] at down
      obtain ⟨noParent, down⟩ := down
      cases leads with
      | skip _ rest => exact ih down rest
      | up => exact absurd rfl noParent
      | into _ found => simp [bare [name] (by simp)] at found
      | follow _ found => simp [bare [name] (by simp)] at found

/-- After one more component of its path, a bare directory is followed by a bare directory. -/
theorem leadsToBare_makeDirectory {done rest : List Path.Component} {part : Path.Component}
    (whole : Path.components path = (done ++ [part]) ++ rest) (noParent : part.text ≠ "..")
    (bare : w.LeadsToBare (w.start path) (done.map Path.Component.text))
    (made : w.makeDirectory (Path.ofComponents (done ++ [part])) = .ok w') :
    w'.LeadsToBare (w.start path) ((done ++ [part]).map Path.Component.text) := by
  obtain ⟨left, location, leads, nothing⟩ := bare
  have starts := start_ofComponents (w := w) whole (by simp)
  have names := filter_ofComponents_of_append whole (by simp)
  rw [List.map_append, List.map_singleton] at names ⊢
  rcases makeDirectory_cases made with
    ⟨there, rfl⟩ | ⟨before, name, left', target, cut, entryName, way, vacant, rfl⟩
  · obtain ⟨_, location', left', reached⟩ := isDirectory_iff.mp there
    rw [starts] at reached
    have whole := reached.congr names
    have down : ".." ∉ [part.text] := fun parent => noParent (List.mem_singleton.mp parent).symm
    have same := leads_bare nothing down (leads.rest whole)
    exact ⟨left', location', whole, same ▸ nothing⟩
  · rw [starts] at way
    rw [cut] at names
    have bare : w.tree.Bare (target ++ [name]) := by
      have further := names
      rw [List.filter_append, List.filter_append,
        List.filter_cons_of_pos entryName.matters] at further
      by_cases matters : Path.matters part.text = true
      · rw [List.filter_cons_of_pos matters] at further
        have target_eq := leads.target_eq (way.congr (List.append_inj_left' further rfl))
        exact target_eq ▸ nothing.append [name]
      · rw [List.filter_cons_of_neg matters] at further
        have again : w.tree.Leads _ _ (before ++ [name]) left location :=
          leads.congr (by simpa [entryName.matters] using further.symm)
        cases way.rest again with
        | skip idle => simp [entryName.matters] at idle
        | up => exact absurd rfl entryName.noParent
        | into _ found => simp [vacant] at found
        | follow _ found => simp [vacant] at found
    exact (leadsToBare_put entryName way vacant bare).congr names

/-- In a proper tree a component of a path that has to be made leads to a bare directory. -/
theorem makeDirectory_unchanged_or_bare {done rest : List Path.Component} {part : Path.Component}
    (proper : w.tree.Proper) (whole : Path.components path = (done ++ [part]) ++ rest)
    (made : w.makeDirectory (Path.ofComponents (done ++ [part])) = .ok w') :
    w' = w ∨ w'.LeadsToBare (w.start path) ((done ++ [part]).map Path.Component.text) := by
  have starts := start_ofComponents (w := w) whole (by simp)
  have names := filter_ofComponents_of_append whole (by simp)
  rcases makeDirectory_cases made with
    ⟨_, same⟩ | ⟨before, name, left, target, cut, entryName, way, vacant, rfl⟩
  · exact .inl same
  · rw [starts] at way
    rw [cut] at names
    exact .inr ((leadsToBare_put entryName way vacant (proper.bare vacant)).congr names)

theorem directory_of_makeDirectory (made : w.makeDirectory path = .ok w') :
    w'.directory = w.directory := by
  rcases makeDirectory_cases made with ⟨_, rfl⟩ | ⟨_, _, _, _, _, _, _, _, rfl⟩
  · rfl
  · rfl

/-- Whether the path starts with a way to a directory below which there is nothing. -/
def MadeBare (w w' : Workspace) (path : String) : Prop :=
  w'.directory = w.directory ∧ ∃ done rest, Path.components path = done ++ rest ∧
    w'.LeadsToBare (w.start path) (done.map Path.Component.text)

/-- Where something is made on the way, nothing is below the end of it; and if all could be made,
the end of it is where the components lead. -/
theorem MakesAlong.unchanged_or_bare {parts more : List Path.Component}
    {failure : Option AccessError} (proper : w.tree.Proper)
    (whole : Path.components path = parts ++ more) (noParent : ∀ part ∈ parts, part.text ≠ "..")
    (makes : w.MakesAlong (startsOf parts).reverse w' failure) :
    (w' = w ∨ w.MadeBare w' path) ∧ (failure = none →
      w' = w ∨ w'.directory = w.directory ∧
        w'.LeadsToBare (w.start path) (parts.map Path.Component.text)) := by
  induction parts using List.reverseRecOn generalizing more w' failure with
  | nil =>
      cases makes
      exact ⟨.inl rfl, fun _ => .inl rfl⟩
  | append_singleton parts part ih =>
      have step : Path.components path = parts ++ ([part] ++ more) := by
        rw [whole, List.append_assoc]
      have below : ∀ earlier ∈ parts, earlier.text ≠ ".." :=
        fun earlier member => noParent earlier (List.mem_append_left _ member)
      have bareAt {made : Workspace}
          (bare : made.directory = w.directory ∧ made.LeadsToBare (w.start path)
            ((parts ++ [part]).map Path.Component.text)) : w.MadeBare made path :=
        ⟨bare.1, parts ++ [part], more, whole, bare.2⟩
      rw [startsOf_concat, List.reverse_append, List.reverse_singleton,
        List.singleton_append] at makes
      cases makes with
      | made made =>
          have bare := (makeDirectory_unchanged_or_bare proper whole made).imp_right
            fun bare => And.intro (directory_of_makeDirectory made) bare
          exact ⟨bare.imp_right bareAt, fun _ => bare⟩
      | refused => exact ⟨.inl rfl, nofun⟩
      | stopped _ stopped => exact ⟨(ih step below stopped).1, nofun⟩
      | @after _ _ w₁ _ missing before made =>
          have kept := directory_of_makeDirectory made
          rcases (ih step below before).2 rfl with rfl | ⟨same, bare⟩
          · exact nomatch missing.symm.trans made
          · have starts : w₁.start path = w.start path := by simp only [start, same]
            have next := leadsToBare_makeDirectory whole
              (noParent part (List.mem_append_right _ List.mem_cons_self)) (starts.symm ▸ bare) made
            have bare := And.intro (kept.trans same) (starts ▸ next)
            exact ⟨.inr (bareAt bare), fun _ => .inr bare⟩
      | refusedAfter _ before _ => exact ⟨(ih step below before).1, nofun⟩

theorem noParent_of_down (down : ".." ∉ Path.pieces path) :
    ∀ part ∈ Path.components path, part.text ≠ ".." := by
  intro part member parent
  have listed : ".." ∈ ((Path.components path).map Path.Component.text).filter Path.matters := by
    rw [List.mem_filter]
    exact ⟨List.mem_map.mpr ⟨part, member, parent⟩, by decide⟩
  rw [Path.filter_components] at listed
  exact down (List.mem_filter.mp listed).1

theorem take_pathStarts (path : String) (count : Nat) :
    (pathStarts path).take count = startsOf ((Path.components path).take count) := by
  simp only [pathStarts, startsOf, ← List.map_take, List.take_range, List.length_take]
  refine List.map_congr_left fun n less => ?_
  have short : n + 1 ≤ count := by
    have bound := List.mem_range.mp less
    omega
  rw [List.take_take, Nat.min_eq_left short]

/-- Making some of the directories of a path that goes down only changes nothing, or ends in a
directory that is new and empty. -/
theorem makeAlong_take_unchanged_or_bare (proper : w.tree.Proper) (down : ".." ∉ Path.pieces path)
    (count : Nat) (made : (w.makeAlong ((pathStarts path).take count).reverse).1 = w') :
    w' = w ∨ w.MadeBare w' path := by
  have makes := w.makesAlong ((pathStarts path).take count).reverse
  rw [made, take_pathStarts] at makes
  have whole : Path.components path =
      (Path.components path).take count ++ (Path.components path).drop count := by simp
  exact (makes.unchanged_or_bare proper whole
    fun part member => noParent_of_down down part (List.mem_of_mem_take member)).1

/-- Nothing stands in a directory that was missing before it was made. -/
theorem entryAt?_of_missing (proper : w.tree.Proper) (down : ".." ∉ Path.pieces path)
    (missing : ¬ ∃ location, w.LeadsTo path location) {count : Nat}
    (made : (w.makeAlong ((pathStarts path).take count).reverse).1 = w')
    (leads : w'.LeadsTo path location) (name : String) :
    w'.tree.entryAt? (location ++ [name]) = none := by
  rcases makeAlong_take_unchanged_or_bare proper down count made with
    rfl | ⟨kept, done, rest, whole, left, bare, way, nothing⟩
  · exact absurd ⟨location, leads⟩ missing
  · have onward : ".." ∉ rest.map Path.Component.text := by
      intro parent
      obtain ⟨part, member, text⟩ := List.mem_map.mp parent
      exact noParent_of_down down part (whole ▸ List.mem_append_right done member) text
    obtain ⟨left', reached⟩ := leads
    have start : w'.start path = w.start path := by simp only [start, kept]
    have reached := reached.congr (Path.filter_components path).symm
    rw [start, whole, List.map_append] at reached
    rw [leads_bare nothing onward (way.rest reached)]
    exact nothing [name] (List.cons_ne_nil _ _)

end Workspace

end EnergyAudit
