import EnergyAudit.Proofs.Files.Directories
import Mathlib.Data.List.Infix

/-! # Plain paths

A path is plain if no link stands on its way and it climbs only at its start.  It leads to where its
names say, and two plain paths to one place that start alike have the same components.  What is
found below a directory is found again under the path of the directory with more names behind it. -/

namespace EnergyAudit

namespace Path

def Component.isName : Component → Bool
  | .name _ => true
  | _ => false

/-- The names of a path that matter, parents included. -/
def names (path : String) : List String := (pieces path).filter matters

/-- What the components of a path start with before the first name. -/
def anchor (path : String) : List Component := (components path).takeWhile (!·.isName)

/-- The components of a path from the first name on. -/
def descent (path : String) : List Component := (components path).dropWhile (!·.isName)

variable {path other base name : String} {component : Component}

theorem anchor_append_descent (path : String) : anchor path ++ descent path = components path :=
  List.takeWhile_append_dropWhile

theorem component?_cases {piece : String} (stands : component? piece = some component) :
    component = .parent ∨
      component = .name piece ∧ matters piece = true ∧ piece ≠ ".." := by
  have matter : matters piece = true := by rw [← component?_isSome, stands, Option.isSome_some]
  by_cases parent : piece = ".."
  · subst parent
    exact .inl (Option.some.inj stands).symm
  · rw [component?_eq_name matter parent] at stands
    exact .inr ⟨(Option.some.inj stands).symm, matter, parent⟩

/-- Behind its first name a path has parents and names that matter only. -/
theorem cases_of_mem_descent (member : component ∈ descent path) :
    component = .parent ∨
      ∃ name, component = .name name ∧ matters name = true ∧ name ≠ ".." := by
  have later : component ∈ (pieces path).filterMap component? := by
    unfold descent components at member
    rw [List.dropWhile_append_of_pos] at member
    · exact (List.dropWhile_suffix _).subset member
    · intro first start
      split at start
      · rw [List.mem_singleton.mp start]
        rfl
      · split at start
        · rw [List.mem_singleton.mp start]
          rfl
        · exact nomatch start
  obtain ⟨piece, -, stands⟩ := List.mem_filterMap.mp later
  exact (component?_cases stands).imp_right fun named => ⟨piece, named⟩

/-- A path that goes down from its first name on has its names behind those of its anchor. -/
theorem exists_names_of_down (down : .parent ∉ descent path) :
    ∃ below, components path = anchor path ++ below.map .name ∧ ".." ∉ below ∧
      names path = ((anchor path).map Component.text).filter matters ++ below := by
  have named : ∀ component ∈ descent path,
      ∃ name, component = .name name ∧ matters name = true ∧ name ≠ ".." := by
    intro component member
    exact (cases_of_mem_descent member).resolve_left fun parent => down (parent ▸ member)
  have below : ∀ name ∈ (descent path).map Component.text, matters name = true ∧ name ≠ ".." := by
    intro name member
    obtain ⟨component, listed, rfl⟩ := List.mem_map.mp member
    obtain ⟨name, rfl, facts⟩ := named component listed
    exact facts
  refine ⟨(descent path).map Component.text, ?_, fun parent => (below _ parent).2 rfl, ?_⟩
  · rw [List.map_map, List.map_congr_left (g := id), List.map_id, anchor_append_descent]
    intro component member
    obtain ⟨name, rfl, -⟩ := named component member
    rfl
  · have all : ((descent path).map Component.text).filter matters =
        (descent path).map Component.text :=
      List.filter_eq_self.mpr fun name member => (below name member).1
    rw [names, ← filter_components, ← anchor_append_descent path, List.map_append,
      List.filter_append, all]

theorem isAbsolute_eq_of_anchor (same : anchor path = anchor other) :
    isAbsolute path = isAbsolute other := by
  have anchored (path : String) : (anchor path).head? = some .root ↔ isAbsolute path = true := by
    rw [← head?_components, anchor]
    cases components path with
    | nil => rfl
    | cons first rest => cases first <;> simp [Component.isName]
  rw [Bool.eq_iff_iff, ← anchored, ← anchored, same]

/-! ## A path with one more name -/

/-- The name stands behind the names of the path, with a slash between them. -/
theorem exists_pieces_join (filled : base ≠ "") (noSlash : '/' ∉ name.toList) :
    ∃ init, pieces (join base name) = init ++ [name] ∧ init ≠ [] ∧
      (pieces base = init ∨ pieces base = init ++ [""]) ∧
        isAbsolute (join base name) = isAbsolute base := by
  have relative : isAbsolute name = false := by
    rw [isAbsolute, Bool.eq_false_iff, ne_eq, beq_iff_eq]
    exact fun starts => noSlash (List.mem_of_head? starts)
  have last : Text.splitOn '/' name.toList = [name.toList] := Text.splitOn_of_not_mem noSlash
  have head (rest : String) : isAbsolute (base ++ rest) = isAbsolute base := by
    have chars : base.toList ≠ [] := by simpa using filled
    rw [isAbsolute, String.toList_append, List.head?_append, Option.or_of_isSome, isAbsolute]
    exact List.isSome_head?.mpr chars
  rw [join, relative, if_neg Bool.false_ne_true]
  by_cases ends : base.toList.getLast? = some '/'
  · obtain ⟨front, cut⟩ : ∃ front, base.toList = front ++ ['/'] :=
      List.getLast?_eq_some_iff.mp ends
    rw [if_pos (by simp [ends])]
    refine ⟨(Text.splitOn '/' front).map String.ofList, ?_, ?_, .inr ?_, head name⟩
    · rw [pieces, String.toList_append, cut, List.append_assoc, List.singleton_append,
        Text.splitOn_append_separator, last, List.map_append, List.map_singleton,
        String.ofList_toList]
    · simpa using Text.splitOn_ne_nil '/' front
    · rw [pieces, cut, Text.splitOn_append_separator, List.map_append]
      rfl
  · rw [if_neg (by simp [ends, filled]), String.append_assoc]
    refine ⟨pieces base, ?_, by simpa [pieces] using Text.splitOn_ne_nil '/' base.toList, .inl rfl,
      head _⟩
    have cut : (base ++ ("/" ++ name)).toList = base.toList ++ '/' :: name.toList := by
      rw [String.toList_append, String.toList_append]
      rfl
    rw [pieces, cut, Text.splitOn_append_separator, last, List.map_append, List.map_singleton,
      String.ofList_toList]
    rfl

theorem filter_matters_init {init : List String}
    (cut : pieces base = init ∨ pieces base = init ++ [""]) : init.filter matters = names base := by
  rcases cut with same | ended
  · rw [names, same]
  · rw [names, ended, List.filter_append]
    exact (List.append_nil _).symm

theorem names_join (filled : base ≠ "") (noSlash : '/' ∉ name.toList)
    (matter : matters name = true) : names (join base name) = names base ++ [name] := by
  obtain ⟨init, cut, -, front, -⟩ := exists_pieces_join filled noSlash
  rw [names, cut, List.filter_append, filter_matters_init front, List.filter_cons_of_pos matter,
    List.filter_nil]

theorem components_join (filled : base ≠ "") (noSlash : '/' ∉ name.toList)
    (matter : matters name = true) (noParent : name ≠ "..") :
    components (join base name) = components base ++ [.name name] := by
  obtain ⟨init, cut, some, front, absolute⟩ := exists_pieces_join filled noSlash
  have head : (pieces (join base name)).head? = (pieces base).head? := by
    obtain ⟨first, rest, rfl⟩ := List.exists_cons_of_ne_nil some
    rcases front with same | ended
    · rw [cut, same]
      rfl
    · rw [cut, ended]
      rfl
  have parts : (pieces base).filterMap component? = init.filterMap component? := by
    rcases front with same | ended
    · rw [same]
    · rw [ended, List.filterMap_append]
      exact List.append_nil _
  have last : [name].filterMap component? = [.name name] :=
    List.filterMap_cons_some (component?_eq_name matter noParent)
  simp only [components, absolute, head]
  rw [cut, List.filterMap_append, last, parts, List.append_assoc]

theorem join_ne_empty (filled : base ≠ "") (noSlash : '/' ∉ name.toList)
    (matter : matters name = true) : join base name ≠ "" := by
  intro empty
  have named := names_join filled noSlash matter
  rw [empty, show names "" = [] by decide] at named
  exact List.append_ne_nil_of_right_ne_nil _ (List.cons_ne_nil _ _) named.symm

end Path

/-! ## Names of a file system -/

namespace Tree

/-- A name that a file system gives. -/
structure IsSystemName (name : String) : Prop extends IsEntryName name where
  noSlash : '/' ∉ name.toList
  noNul : '\x00' ∉ name.toList

instance (name : String) : Decidable (IsSystemName name) :=
  decidable_of_iff ((Path.matters name = true ∧ name ≠ ".." ∧ name.utf8ByteSize ≤ maxNameBytes) ∧
      '/' ∉ name.toList ∧ '\x00' ∉ name.toList)
    ⟨fun ⟨⟨matters, noParent, short⟩, noSlash, noNul⟩ =>
        ⟨⟨matters, noParent, short⟩, noSlash, noNul⟩,
      fun ⟨⟨matters, noParent, short⟩, noSlash, noNul⟩ =>
        ⟨⟨matters, noParent, short⟩, noSlash, noNul⟩⟩

/-- All names on the way to an entry are those of a file system. -/
def WellNamed (tree : Tree) : Prop :=
  ∀ stored ∈ tree.entries, ∀ name ∈ stored.1, IsSystemName name

instance (tree : Tree) : Decidable tree.WellNamed :=
  inferInstanceAs (Decidable (∀ stored ∈ tree.entries, ∀ name ∈ stored.1, IsSystemName name))

end Tree

namespace Path

variable {path base : String} {more : List String}

/-- A path with more names behind it, where everything before them stays. -/
theorem foldl_join (filled : base ≠ "") (named : ∀ name ∈ more, Tree.IsSystemName name) :
    more.foldl join base ≠ "" ∧ names (more.foldl join base) = names base ++ more ∧
      components (more.foldl join base) = components base ++ more.map .name := by
  induction more generalizing base with
  | nil => exact ⟨filled, (List.append_nil _).symm, (List.append_nil _).symm⟩
  | cons name more ih =>
      obtain ⟨first, rest⟩ := List.forall_mem_cons.mp named
      obtain ⟨filled', names', components'⟩ :=
        ih (join_ne_empty filled first.noSlash first.matters) rest
      refine ⟨filled', ?_, ?_⟩
      · rw [List.foldl_cons, names', names_join filled first.noSlash first.matters,
          List.append_assoc, List.singleton_append]
      · rw [List.foldl_cons, components',
          components_join filled first.noSlash first.matters first.noParent, List.append_assoc,
          List.singleton_append, List.map_cons]

theorem anchor_eq_of_components (cut : components path = components base ++ more.map .name) :
    anchor path = anchor base := by
  have ends : (more.map Component.name).takeWhile (!·.isName) = [] := by
    cases more <;> rfl
  rw [anchor, cut, List.takeWhile_append, ends, List.append_nil, anchor]
  split
  · rename_i whole
    exact ((List.takeWhile_prefix _).eq_of_length whole).symm
  · rfl

theorem parent_mem_descent (cut : components path = components base ++ more.map .name)
    (parent : .parent ∈ descent path) : .parent ∈ descent base := by
  have below : .parent ∈ descent base ++ more.map .name := by
    rw [descent, cut, List.dropWhile_append] at parent
    split at parent
    · exact List.mem_append_right _ ((List.dropWhile_suffix _).subset parent)
    · exact parent
  exact (List.mem_append.mp below).resolve_right (by simp)

theorem nul_not_mem_foldl_join (plain : '\x00' ∉ base.toList)
    (named : ∀ name ∈ more, Tree.IsSystemName name) : '\x00' ∉ (more.foldl join base).toList := by
  induction more generalizing base with
  | nil => exact plain
  | cons name more ih =>
      obtain ⟨first, rest⟩ := List.forall_mem_cons.mp named
      refine ih ?_ rest
      unfold join
      split
      · exact first.noNul
      · split <;> simp [plain, first.noNul]

end Path

/-! ## Where plain paths lead -/

namespace Tree

variable {tree : Tree} {links : Nat} {start location : Location} {names : List String}

/-- Where the names lead from a location if no link is on the way. -/
def resolve (start : Location) (names : List String) : Location :=
  names.foldl (fun location name => if name == ".." then location.dropLast else location ++ [name])
    start

theorem resolve_append (start : Location) (names more : List String) :
    resolve start (names ++ more) = resolve (resolve start names) more :=
  List.foldl_append ..

theorem resolve_name {name : String} (noParent : name ≠ "..") (start : Location)
    (rest : List String) : resolve start (name :: rest) = resolve (start ++ [name]) rest := by
  rw [resolve, List.foldl_cons, if_neg (by simpa using noParent), resolve]

theorem resolve_of_down (down : ".." ∉ names) (start : Location) :
    resolve start names = start ++ names := by
  induction names generalizing start with
  | nil => exact (List.append_nil start).symm
  | cons name rest ih =>
      rw [List.mem_cons, not_or] at down
      rw [resolve_name (Ne.symm down.1), ih down.2, List.append_assoc, List.singleton_append]

theorem location_of_walk {followLast : Bool} {place : Place}
    (walked : walk tree followLast links start names = .ok place)
    (noLink : ∀ before, before <+: names.filter Path.matters →
      ∀ target, tree.entryAt? (resolve start before) ≠ some (.link target)) :
    place.location = resolve start (names.filter Path.matters) := by
  induction names generalizing start with
  | nil =>
      rw [walk_nil] at walked
      obtain rfl := Except.ok.inj walked
      rfl
  | cons name rest ih =>
      cases steps_of_walk walked with
      | skip idle onward =>
          rw [List.filter_cons_of_neg (by simp [idle])] at noLink ⊢
          exact ih onward noLink
      | up onward =>
          rw [List.filter_cons_of_pos (by decide)] at noLink ⊢
          exact ih onward fun before starts =>
            noLink (".." :: before) (List.cons_prefix_cons.mpr ⟨rfl, starts⟩)
      | into entryName found onward =>
          rw [List.filter_cons_of_pos entryName.matters] at noLink ⊢
          rw [resolve_name entryName.noParent]
          refine ih onward fun before starts => ?_
          rw [← resolve_name entryName.noParent]
          exact noLink (name :: before) (List.cons_prefix_cons.mpr ⟨rfl, starts⟩)
      | follow entryName found =>
          rw [List.filter_cons_of_pos entryName.matters] at noLink
          have clear := noLink [name] (List.cons_prefix_cons.mpr ⟨rfl, List.nil_prefix⟩)
          rw [resolve_name entryName.noParent] at clear
          exact absurd found (clear _)
      | ends entryName located =>
          rw [List.filter_cons_of_pos entryName.matters, resolve_name entryName.noParent]
          exact located

/-- Names of directories that stand one in the other lead to the last of them. -/
theorem leads_of_directories (named : ∀ name ∈ names, IsEntryName name)
    (directories : ∀ before, before <+: names → before ≠ [] →
      tree.entryAt? (start ++ before) = some .directory) :
    Leads tree links start names links (start ++ names) := by
  induction names generalizing start with
  | nil => exact (List.append_nil start).symm ▸ .here links start
  | cons name rest ih =>
      obtain ⟨first, others⟩ := List.forall_mem_cons.mp named
      have found := directories [name] (List.cons_prefix_cons.mpr ⟨rfl, List.nil_prefix⟩) (by simp)
      have onward : Leads tree links (start ++ [name]) rest links ((start ++ [name]) ++ rest) := by
        refine ih others fun before starts _ => ?_
        rw [List.append_assoc, List.singleton_append]
        exact directories _ (List.cons_prefix_cons.mpr ⟨rfl, starts⟩) (by simp)
      rw [List.append_assoc, List.singleton_append] at onward
      exact .into first found onward

end Tree

namespace Workspace

/-- Where the file is that the path leads to. -/
def fileAt? (w : Workspace) (path : String) : Option Location :=
  match w.locate path with
  | .ok (.present location (.file _)) => some location
  | _ => none

/-- Whether the path only goes down from its first name on, and no link stands on its way or at its
end. -/
structure IsPlain (w : Workspace) (path : String) : Prop where
  down : .parent ∉ Path.descent path
  noLink : ∀ before, before <+: Path.names path →
    ∀ target, w.tree.entryAt? (Tree.resolve (w.start path) before) ≠ some (.link target)

variable {w : Workspace} {path root : String} {location : Location}

instance (entry : Option Entry) : Decidable (∀ target, entry ≠ some (.link target)) :=
  match entry with
  | none => .isTrue nofun
  | some (.file _) => .isTrue nofun
  | some .directory => .isTrue nofun
  | some (.link target) => .isFalse fun noLink => noLink target rfl

instance (w : Workspace) (path : String) : Decidable (w.IsPlain path) :=
  decidable_of_iff (.parent ∉ Path.descent path ∧ ∀ before ∈ (Path.names path).inits,
      ∀ target, w.tree.entryAt? (Tree.resolve (w.start path) before) ≠ some (.link target)) <| by
    simp only [List.mem_inits]
    exact ⟨fun ⟨down, noLink⟩ => ⟨down, noLink⟩, fun ⟨down, noLink⟩ => ⟨down, noLink⟩⟩

theorem fileAt?_eq_some_iff : w.fileAt? path = some location ↔
    ∃ content, w.locate path = .ok (.present location (.file content)) := by
  unfold fileAt?
  split
  · rename_i place content located
    simp [located]
  · rename_i other
    simp only [reduceCtorEq, false_iff, not_exists]
    exact fun content located => other _ _ located

theorem IsPlain.location_eq (plain : w.IsPlain path) {place : Place}
    (located : w.locate path = .ok place) :
    place.location = Tree.resolve (w.start path) (Path.names path) :=
  Tree.location_of_walk (locate_eq_ok.mp located).2 plain.noLink

theorem start_eq_of_anchor {other : String} (same : Path.anchor path = Path.anchor other) :
    w.start path = w.start other := by
  rw [start, start, Path.isAbsolute_eq_of_anchor same]

/-- Paths that start alike and go down from there are the same if their names lead to one place. -/
theorem components_eq_of_resolve {other : String} (anchor : Path.anchor path = Path.anchor other)
    (down : .parent ∉ Path.descent path) (down' : .parent ∉ Path.descent other)
    (same : Tree.resolve (w.start path) (Path.names path) =
      Tree.resolve (w.start other) (Path.names other)) :
    Path.components path = Path.components other := by
  obtain ⟨below, components, down, names⟩ := Path.exists_names_of_down down
  obtain ⟨below', components', down', names'⟩ := Path.exists_names_of_down down'
  rw [names, names', anchor, start_eq_of_anchor anchor, Tree.resolve_append, Tree.resolve_append,
    Tree.resolve_of_down down, Tree.resolve_of_down down'] at same
  rw [components, components', anchor, List.append_cancel_left same]

/-- A file below a directory is found under the path of the directory with the names behind it. -/
theorem fileAt?_foldl_join {names : List String} {content : ByteArray}
    (located : w.locate root = .ok (.present location .directory)) (some : names ≠ [])
    (named : ∀ name ∈ names, Tree.IsSystemName name)
    (directories : ∀ before, before <+: names → before ≠ [] → before ≠ names →
      w.tree.entryAt? (location ++ before) = .some .directory)
    (file : w.tree.entryAt? (location ++ names) = .some (.file content))
    (short : (names.foldl Path.join root).utf8ByteSize ≤ Tree.maxPathBytes) :
    w.fileAt? (names.foldl Path.join root) = .some (location ++ names) := by
  obtain ⟨usable, walked⟩ := locate_eq_ok.mp located
  obtain ⟨left, leads⟩ := Tree.exists_leads_of_walk walked
  have noNul : '\x00' ∉ root.toList := by simpa using usable.text
  obtain ⟨filled, -, components⟩ := Path.foldl_join usable.nonempty named
  have usable' : Path.Usable (names.foldl Path.join root) :=
    ⟨by simpa using Path.nul_not_mem_foldl_join noNul named, filled, short⟩
  refine fileAt?_eq_some_iff.mpr ⟨content, locate_eq_ok.mpr ⟨usable', ?_⟩⟩
  rw [start_eq_of_anchor (Path.anchor_eq_of_components components)]
  obtain rfl | ⟨before, name, rfl⟩ := List.eq_nil_or_concat names
  · exact absurd rfl some
  rw [List.concat_eq_append] at *
  obtain ⟨inner, last⟩ := List.forall_mem_append.mp named
  have last := last name List.mem_cons_self
  obtain ⟨filled', names', -⟩ := Path.foldl_join usable.nonempty inner
  obtain ⟨init, cut, -, front, -⟩ := Path.exists_pieces_join filled' last.noSlash
  have way : w.tree.Leads left location before left (location ++ before) := by
    refine Tree.leads_of_directories (fun name member => (inner name member).toIsEntryName) ?_
    intro start starts started
    refine directories start (starts.trans (List.prefix_append ..)) started fun whole => ?_
    have := starts.length_le
    rw [whole, List.length_append, List.length_singleton] at this
    omega
  have matter : before.filter Path.matters = before :=
    List.filter_eq_self.mpr fun name member => (inner name member).matters
  have way : w.tree.Leads Tree.maxLinks (w.start root) init left (location ++ before) := by
    refine (leads.append way).congr ?_
    rw [List.filter_append, matter, Path.filter_matters_init front, names']
    rfl
  rw [List.foldl_append, List.foldl_cons, List.foldl_nil, cut, way.walk_append (.inr rfl),
    Tree.walk_name last.toIsEntryName, List.append_assoc, file]
  rfl

end Workspace

end EnergyAudit
