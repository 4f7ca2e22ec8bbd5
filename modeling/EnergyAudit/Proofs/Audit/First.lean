import EnergyAudit.Proofs.Audit.Discovery

/-! # Exactly which paths are discovered

Of the paths of wanted files that are found from the roots, those are discovered that come first in
their order, up to the limit.  This settles them but for their spelling, whatever the order of the
roots. -/

namespace EnergyAudit.Audit

variable {w : Workspace} {options : DiscoveryOptions} {roots roots' paths others : List String}
  {root path name : String} {limit : Nat}

/-! ## The first of the files found -/

/-- The paths come first among those that are found, as many as the limit allows, each one once. -/
structure IsFirst (found : String → Prop) (limit : Nat) (paths : List String) : Prop where
  ascending : Ascending paths
  sound : ∀ path ∈ paths, found path
  few : paths.length ≤ limit
  complete : ∀ path, found path →
    (∃ kept ∈ paths, Path.components kept = Path.components path) ∨
      paths.length = limit ∧ ∀ kept ∈ paths, Path.before kept path = true

namespace IsFirst

variable {found : String → Prop} {other : String}

theorem head_le (first : IsFirst found limit (path :: paths)) (there : found other) :
    Path.components path = Path.components other ∨ Path.before path other = true := by
  rcases first.complete other there with ⟨kept, member, same⟩ | ⟨-, above⟩
  · rcases List.mem_cons.mp member with rfl | later
    · exact .inl same
    · have before := List.rel_of_pairwise_cons first.ascending later
      rw [Path.before, same] at before
      exact .inr before
  · exact .inr (above path List.mem_cons_self)

theorem tail (first : IsFirst found limit (path :: paths)) :
    IsFirst (fun other => found other ∧ Path.before path other = true) (limit - 1) paths where
  ascending := List.Pairwise.of_cons first.ascending
  sound other member := ⟨first.sound other (List.mem_cons_of_mem _ member),
    List.rel_of_pairwise_cons first.ascending member⟩
  few := Nat.le_sub_of_add_le first.few
  complete other := by
    rintro ⟨there, before⟩
    rcases first.complete other there with ⟨kept, member, same⟩ | ⟨full, above⟩
    · rcases List.mem_cons.mp member with rfl | later
      · exact absurd same (Path.not_same_of_before before)
      · exact .inl ⟨kept, later, same⟩
    · rw [List.length_cons] at full
      exact .inr ⟨by omega, fun kept member => above kept (List.mem_cons_of_mem _ member)⟩

theorem eq_nil (first : IsFirst found limit []) (second : IsFirst found limit others) :
    others = [] := by
  cases others with
  | nil => rfl
  | cons other others =>
      have there := second.sound other List.mem_cons_self
      rcases first.complete other there with ⟨_, member, _⟩ | ⟨full, _⟩
      · exact nomatch member
      · have few := second.few
        rw [← full] at few
        exact nomatch few

/-- The paths that come first are settled, but for their spelling. -/
theorem components_eq (first : IsFirst found limit paths) (second : IsFirst found limit others) :
    paths.map Path.components = others.map Path.components := by
  induction paths generalizing others found limit with
  | nil => rw [first.eq_nil second]
  | cons path paths ih =>
      cases others with
      | nil => exact nomatch second.eq_nil first
      | cons other others =>
          have same : Path.components path = Path.components other := by
            rcases first.head_le (second.sound other List.mem_cons_self) with same | before
            · exact same
            rcases second.head_le (first.sound path List.mem_cons_self) with same | after
            · exact same.symm
            · exact absurd rfl (Path.not_same_of_before (Path.before_trans before after))
          have rest := second.tail
          simp only [Path.before, ← same] at rest
          rw [List.map_cons, List.map_cons, same, ih first.tail rest]

end IsFirst

/-- Whether the path is found from one of the roots. -/
def FoundFromAny (w : Workspace) (options : DiscoveryOptions) (roots : List String)
    (path : String) : Prop :=
  ∃ root ∈ roots, Found w options root path

theorem isFirst_discover (named : w.tree.WellNamed) (options : DiscoveryOptions)
    (roots : List String) :
    IsFirst (FoundFromAny w options roots) options.maxFiles (discover w options roots) where
  ascending := ascending_discover w options roots
  sound path member := by
    obtain ⟨root, listed, fromRoot⟩ := exists_root_of_mem_discover member
    exact ⟨root, listed, (mem_filesOfRoot_iff named).mp fromRoot⟩
  few := List.length_take_le ..
  complete path := by
    rintro ⟨root, listed, found⟩
    obtain ⟨kept, member, same⟩ :=
      exists_mem_allFiles listed ((mem_filesOfRoot_iff named).mpr found)
    have ascending := ascending_allFiles w options roots
    rw [← List.take_append_drop options.maxFiles (allFiles w options roots)] at member ascending
    rcases List.mem_append.mp member with early | late
    · exact .inl ⟨kept, early, same⟩
    · have more := List.length_pos_of_mem late
      rw [List.length_drop] at more
      refine .inr ⟨List.length_take_of_le (by omega), fun earlier member => ?_⟩
      have before := (List.pairwise_append.mp ascending).2.2 earlier member kept late
      rwa [Path.before, same] at before

theorem exists_mem_allFiles_iff (named : w.tree.WellNamed) :
    (∃ kept ∈ allFiles w options roots, Path.components kept = Path.components path) ↔
      ∃ found, FoundFromAny w options roots found ∧
        Path.components found = Path.components path := by
  constructor
  · rintro ⟨kept, member, same⟩
    obtain ⟨root, listed, fromRoot⟩ := exists_root_of_mem_allFiles member
    exact ⟨kept, ⟨root, listed, (mem_filesOfRoot_iff named).mp fromRoot⟩, same⟩
  · rintro ⟨found, ⟨root, listed, there⟩, same⟩
    obtain ⟨kept, member, same'⟩ :=
      exists_mem_allFiles listed ((mem_filesOfRoot_iff named).mpr there)
    exact ⟨kept, member, same'.trans same⟩

/-- Which roots there are matters, and not how often or in which order they are given. -/
theorem components_discover_congr (named : w.tree.WellNamed)
    (same : ∀ root, root ∈ roots ↔ root ∈ roots') :
    (discover w options roots).map Path.components =
      (discover w options roots').map Path.components := by
  have found : FoundFromAny w options roots = FoundFromAny w options roots' := by
    funext path
    simp only [FoundFromAny, same]
  exact (isFirst_discover named options roots).components_eq
    (found ▸ isFirst_discover named options roots')

theorem discover_prefix {more : Nat} (atMost : options.maxFiles ≤ more) :
    discover w options roots <+: discover w { options with maxFiles := more } roots :=
  List.take_prefix_take_left (l := allFiles w options roots) atMost

theorem discover_of_missing (missing : ∀ location entry,
    w.locate root ≠ .ok (.present location entry)) :
    discover w options (paths ++ root :: others) = discover w options (paths ++ others) := by
  have nothing : filesOfRoot w options root = [] := by
    unfold filesOfRoot
    split
    · exact absurd ‹_› (missing _ _)
    · exact absurd ‹_› (missing _ _)
    · rfl
  rw [discover, discover, allFiles, allFiles, List.flatMap_append, List.flatMap_cons, nothing,
    List.nil_append, ← List.flatMap_append]

/-- Without a limit, those files are found that are wanted and reached from a root.  Of their paths,
those are discovered that come first up to the limit, so that a smaller one gives the start of what
a greater one gives.  Roots that lead nowhere add nothing, and roots in another order, or given
again, change the spelling of paths at most. -/
theorem discover_finds_first (options : DiscoveryOptions) (roots : List String)
    (named : w.tree.WellNamed) :
    (∀ path, (∃ kept ∈ allFiles w options roots, Path.components kept = Path.components path) ↔
        ∃ found, FoundFromAny w options roots found ∧
          Path.components found = Path.components path) ∧
      IsFirst (FoundFromAny w options roots) options.maxFiles (discover w options roots) ∧
      (∀ others, IsFirst (FoundFromAny w options roots) options.maxFiles others →
        others.map Path.components = (discover w options roots).map Path.components) ∧
      (∀ more, options.maxFiles ≤ more →
        discover w options roots <+: discover w { options with maxFiles := more } roots) ∧
      (∀ roots', (∀ root, root ∈ roots ↔ root ∈ roots') →
        (discover w options roots).map Path.components =
          (discover w options roots').map Path.components) ∧
      (∀ before root after, roots = before ++ root :: after →
        (∀ location entry, w.locate root ≠ .ok (.present location entry)) →
          discover w options roots = discover w options (before ++ after)) := by
  have first := isFirst_discover named options roots
  refine ⟨fun path => exists_mem_allFiles_iff named, first, fun others second => ?_,
    fun more => discover_prefix, fun roots' => components_discover_congr named, ?_⟩
  · exact second.components_eq first
  · rintro before root after rfl missing
    exact discover_of_missing missing

/-- A directory that is given under two names, with names that end in several ways. -/
def manyNames : Workspace where
  tree := ⟨[(["tests"], .directory), (["tests", "a.b.py"], .file .empty),
    (["tests", ".py"], .file .empty), (["tests", "c.py"], .link "a.b.py"),
    (["tests", "venv"], .directory), (["tests", "venv", "d.py"], .file .empty),
    (["too"], .link "tests"), (["e.py"], .link "tests/a.b.py")]⟩
  directory := []

theorem discover_manyNames :
    manyNames.tree.WellNamed ∧
      discover manyNames ⟨["py"], 50⟩ ["too", "e.py", "none", "tests/", "tests"] =
        ["e.py", "tests/a.b.py", "too/a.b.py"] ∧
      IsFirst (FoundFromAny manyNames ⟨["py"], 50⟩ ["too", "e.py", "none", "tests/", "tests"]) 50
        ["e.py", "tests/a.b.py", "too/a.b.py"] := by
  have named : manyNames.tree.WellNamed := by decide +kernel
  have found : discover manyNames ⟨["py"], 50⟩ ["too", "e.py", "none", "tests/", "tests"] =
      ["e.py", "tests/a.b.py", "too/a.b.py"] := by decide +kernel
  obtain ⟨-, first, -⟩ := discover_finds_first ⟨["py"], 50⟩
    ["too", "e.py", "none", "tests/", "tests"] named
  exact ⟨named, found, found ▸ first⟩

/-! ## Directories whose path is too long -/

/-- The working directory under a path of so many dots. -/
def dotted (count : Nat) : String := "/".intercalate (List.replicate count ".")

theorem dotted_succ (count : Nat) : dotted (count + 2) = "./" ++ dotted (count + 1) := by
  simp [dotted, List.replicate_succ]

theorem utf8ByteSize_dotted (count : Nat) :
    (dotted (count + 1)).utf8ByteSize = 2 * count + 1 := by
  induction count with
  | zero => rfl
  | succ count ih =>
      have start : "./".utf8ByteSize = 2 := rfl
      rw [dotted_succ, String.utf8ByteSize_append, start, ih]
      omega

theorem nul_not_mem_dotted (count : Nat) : '\x00' ∉ (dotted (count + 1)).toList := by
  induction count with
  | zero => decide
  | succ count ih =>
      rw [dotted_succ, String.toList_append, List.mem_append]
      exact not_or.mpr ⟨by decide, ih⟩

/-- Dots lead to the working directory, as long as they are not too many. -/
theorem locate_dotted {count : Nat} (short : 2 * count + 1 ≤ Tree.maxPathBytes) :
    w.locate (dotted (count + 1)) = .ok (.present w.directory .directory) := by
  have size := utf8ByteSize_dotted count
  have pieces : Path.pieces (dotted (count + 1)) = List.replicate (count + 1) "." := by
    refine Path.pieces_intercalate (by simp) fun name member => ?_
    rw [List.eq_of_mem_replicate member]
    decide
  have relative : Path.isAbsolute (dotted (count + 1)) = false := by
    cases count with
    | zero => decide
    | succ count =>
        rw [dotted_succ, Path.isAbsolute, String.toList_append]
        rfl
  have usable : Path.Usable (dotted (count + 1)) := by
    refine ⟨by simpa using nul_not_mem_dotted count, ?_, size ▸ short⟩
    intro empty
    rw [empty] at size
    simp at size
  refine Workspace.locate_eq_ok.mpr ⟨usable, ?_⟩
  rw [Workspace.start, relative, pieces]
  refine (Tree.leads_of_idle fun name member => ?_).walk
  rw [List.eq_of_mem_replicate member]
  decide

/-- A file in a directory. -/
def inDirectory : Workspace where
  tree := ⟨[(["dir"], .directory), (["dir", "a.py"], .file .empty)]⟩
  directory := []

theorem eq_of_entryAt?_inDirectory {entry : Entry}
    (found : inDirectory.tree.entryAt? [name] = some entry) :
    name = "dir" ∧ entry = .directory := by
  by_cases same : name = "dir"
  · subst same
    exact ⟨rfl, (Option.some.inj found).symm⟩
  · simp [Tree.entryAt?, inDirectory, Ne.symm same] at found

theorem le_utf8ByteSize_join (relative : Path.isAbsolute name = false) (root : String) :
    root.utf8ByteSize + name.utf8ByteSize ≤ (Path.join root name).utf8ByteSize := by
  rw [Path.join, relative, if_neg Bool.false_ne_true]
  split
  · exact Nat.le_of_eq (String.utf8ByteSize_append).symm
  · rw [String.utf8ByteSize_append, String.utf8ByteSize_append]
    omega

theorem discover_eq_nil_of_long
    (located : inDirectory.locate root = .ok (.present [] .directory))
    (long : Tree.maxPathBytes < (Path.join root "dir").utf8ByteSize) :
    discover inDirectory options [root] = [] := by
  have named : inDirectory.tree.WellNamed := by decide +kernel
  refine List.eq_nil_iff_forall_not_mem.mpr fun path member => ?_
  obtain ⟨root, listed, found⟩ := (isFirst_discover named _ _).sound path member
  obtain rfl := List.mem_singleton.mp listed
  cases found with
  | root located' => exact nomatch located.symm.trans located'
  | below located' reaches =>
      obtain rfl : [] = _ := by simpa using located.symm.trans located'
      generalize _ ++ [_] = names at reaches
      cases reaches with
      | file stored => exact nomatch (eq_of_entryAt?_inDirectory stored).2
      | into directory _ short =>
          obtain rfl := (eq_of_entryAt?_inDirectory directory).1
          exact absurd short (Nat.not_le.mpr long)

/-- From a root whose path is long but not too long, the file is not found: the path of its
directory is too long. -/
theorem discover_inDirectory :
    inDirectory.locate (dotted 2047) = .ok (.present [] .directory) ∧
      inDirectory.tree.entryAt? ["dir"] = some .directory ∧ "dir" ∉ skippedDirectories ∧
      inDirectory.tree.entryAt? ["dir", "a.py"] = some (.file .empty) ∧
      HasExtension ["py"] "a.py" ∧ discover inDirectory ⟨["py"], 50⟩ [dotted 2047] = [] := by
  have located : inDirectory.locate (dotted 2047) = .ok (.present [] .directory) :=
    locate_dotted (by decide)
  have size : (dotted 2047).utf8ByteSize = 4093 := utf8ByteSize_dotted 2046
  have long : Tree.maxPathBytes < (Path.join (dotted 2047) "dir").utf8ByteSize :=
    Nat.lt_of_lt_of_le (by rw [size]; decide) (le_utf8ByteSize_join (by decide) _)
  exact ⟨located, rfl, by decide, rfl, ⟨"a", "py", by decide, by decide, by decide, rfl⟩,
    discover_eq_nil_of_long located long⟩

end EnergyAudit.Audit
