import EnergyAudit.Audit.Discovery
import EnergyAudit.Proofs.Files.Plain

/-! # Which files are found from a root

A file is found that is the root itself, or that is reached from there through directories, none of
them of a skipped name or under a path that is too long.  In either case its name ends in a wanted
extension. -/

namespace EnergyAudit

/-! ## Extensions of file names -/

namespace Path

theorem splitLastDot_eq_some_iff {name stem extension : List Char} :
    splitLastDot name = some (stem, extension) ↔
      name = stem ++ '.' :: extension ∧ '.' ∉ extension := by
  have cut {stem extension : List Char} (noDot : '.' ∉ extension) :
      splitLastDot (stem ++ '.' :: extension) = some (stem, extension) := by
    have others : ∀ c ∈ extension.reverse, (c != '.') = true := by
      intro c member
      rw [bne_iff_ne]
      rintro rfl
      exact noDot (List.mem_reverse.mp member)
    have back : (stem ++ '.' :: extension).reverse = extension.reverse ++ '.' :: stem.reverse := by
      simp
    rw [splitLastDot, if_pos (by simp), back]
    simp [List.takeWhile_append_of_pos others, List.dropWhile_append_of_pos others]
  constructor
  · intro split
    have dot : '.' ∈ name.reverse := by
      unfold splitLastDot at split
      split at split
      · rename_i dot
        simpa using dot
      · contradiction
    obtain ⟨back, front, whole, noDot⟩ := List.eq_append_cons_of_mem dot
    have name : name = front.reverse ++ '.' :: back.reverse := by
      rw [← List.reverse_reverse name, whole]
      simp
    have noDot' : '.' ∉ back.reverse := fun member => noDot (List.mem_reverse.mp member)
    rw [name, cut noDot', Option.some.injEq, Prod.mk.injEq] at split
    rw [name, ← split.1, ← split.2]
    exact ⟨rfl, noDot'⟩
  · rintro ⟨rfl, noDot⟩
    exact cut noDot

theorem extension?_eq_some_iff {path extension : String} : extension? path = some extension ↔
    ∃ name, fileName? path = some name ∧ '.' ∉ extension.toList ∧
      ∃ stem, stem ≠ "" ∧ name = stem ++ "." ++ extension := by
  unfold extension?
  cases fileName? path with
  | none => simp
  | some name =>
      have dotted (stem extension : String) : name = stem ++ "." ++ extension ↔
          name.toList = stem.toList ++ '.' :: extension.toList := by
        rw [← String.toList_inj]
        simp
      simp only [Option.some.injEq, exists_eq_left', dotted]
      cases split : splitLastDot name.toList with
      | none =>
          simp only [reduceCtorEq, false_iff, not_and, not_exists]
          intro noDot stem _ name
          rw [splitLastDot_eq_some_iff.mpr ⟨name, noDot⟩] at split
          exact nomatch split
      | some parts =>
          obtain ⟨whole, noDot⟩ := splitLastDot_eq_some_iff.mp split
          simp only [Option.ite_none_left_eq_some, Option.some.injEq]
          constructor
          · rintro ⟨started, rfl⟩
            refine ⟨by simpa using noDot, String.ofList parts.1, ?_, by simpa using whole⟩
            simpa using started
          · rintro ⟨noDot', stem, started, whole'⟩
            have same := splitLastDot_eq_some_iff.mpr ⟨whole', noDot'⟩
            obtain rfl := Option.some.inj (split.symm.trans same)
            exact ⟨by simpa using started, String.ofList_toList⟩

end Path

namespace Audit

variable {w : Workspace} {tree : Tree} {options : DiscoveryOptions} {base : Location}
  {names : List String} {root path name : String}

/-- The name ends in one of the extensions, with a dot and something else before it. -/
def HasExtension (extensions : List String) (name : String) : Prop :=
  ∃ stem extension, extension ∈ extensions ∧ '.' ∉ extension.toList ∧ stem ≠ "" ∧
    name = stem ++ "." ++ extension

theorem wants_iff : options.wants path = true ↔
    ∃ name, Path.fileName? path = some name ∧ HasExtension options.extensions name := by
  have listed : options.wants path = true ↔
      ∃ extension ∈ options.extensions, Path.extension? path = some extension := by
    unfold DiscoveryOptions.wants
    cases Path.extension? path <;> simp
  rw [listed]
  simp only [Path.extension?_eq_some_iff, HasExtension]
  constructor
  · rintro ⟨extension, wanted, name, named, noDot, stem, started, whole⟩
    exact ⟨name, named, stem, extension, wanted, noDot, started, whole⟩
  · rintro ⟨name, named, stem, extension, wanted, noDot, started, whole⟩
    exact ⟨extension, wanted, name, named, noDot, stem, started, whole⟩

/-! ## Files below a directory -/

/-- The names lead from a directory, whose path is `path`, down to a file: the last one is that of
the file, and each one before it is that of a directory which is searched. -/
inductive Reaches (tree : Tree) : (path : String) → Location → (names : List String) → Prop
  | file {path name : String} {base : Location} {content : ByteArray}
      (stored : tree.entryAt? (base ++ [name]) = some (.file content)) :
      Reaches tree path base [name]
  | into {path name : String} {base : Location} {names : List String}
      (directory : tree.entryAt? (base ++ [name]) = some .directory)
      (searched : name ∉ skippedDirectories)
      (short : (Path.join path name).utf8ByteSize ≤ Tree.maxPathBytes)
      (rest : Reaches tree (Path.join path name) (base ++ [name]) names) :
      Reaches tree path base (name :: names)

theorem any_isFile_iff {entry : Option Entry} :
    entry.any Entry.isFile = true ↔ ∃ content, entry = some (.file content) := by
  cases entry with
  | none => simp
  | some entry => cases entry <;> simp [Entry.isFile]

theorem any_isDirectory_iff {entry : Option Entry} :
    entry.any Entry.isDirectory = true ↔ entry = some .directory := by
  cases entry with
  | none => simp
  | some entry => cases entry <;> simp [Entry.isDirectory]

theorem isReached_singleton : isReached tree root base [name] = true ↔
    ∃ content, tree.entryAt? (base ++ [name]) = some (.file content) := by
  simp [isReached, any_isFile_iff]

theorem isReached_cons (some : names ≠ []) : isReached tree root base (name :: names) = true ↔
    (tree.entryAt? (base ++ [name]) = .some .directory ∧ name ∉ skippedDirectories ∧
      (Path.join root name).utf8ByteSize ≤ Tree.maxPathBytes) ∧
        isReached tree (Path.join root name) (base ++ [name]) names = true := by
  obtain ⟨next, names, rfl⟩ := List.exists_cons_of_ne_nil some
  have below (more : List String) : base ++ [name] ++ more = base ++ name :: more := by simp
  simp only [isReached, Bool.and_eq_true, List.all_eq_true, List.mem_range, decide_eq_true_eq,
    any_isDirectory_iff]
  -- The first step is that of `name`; the others are those of the names behind it.
  simp only [List.isEmpty_cons, Bool.not_false, true_and, List.length_cons, Nat.add_sub_cancel,
    Nat.forall_lt_succ_left, List.take_succ_cons, List.foldl_cons, List.getLast?_cons_cons, below,
    List.take_zero, List.getLast?_singleton, Option.any_some, List.foldl_nil, Bool.not_eq_true',
    List.contains_eq_mem, decide_eq_false_iff_not]
  rw [and_left_comm, and_assoc (b := name ∉ skippedDirectories)]

theorem reaches_iff : Reaches tree root base names ↔ isReached tree root base names = true := by
  induction names generalizing root base with
  | nil => exact ⟨nofun, nofun⟩
  | cons name names ih =>
      cases names with
      | nil =>
          rw [isReached_singleton]
          constructor
          · intro reaches
            cases reaches with
            | file stored => exact ⟨_, stored⟩
            | into _ _ _ rest => exact nomatch rest
          · rintro ⟨_, stored⟩
            exact .file stored
      | cons next names =>
          rw [isReached_cons (List.cons_ne_nil next names), ← ih]
          constructor
          · intro reaches
            cases reaches with
            | into directory searched short rest => exact ⟨⟨directory, searched, short⟩, rest⟩
          · rintro ⟨⟨directory, searched, short⟩, rest⟩
            exact .into directory searched short rest

theorem Reaches.exists_content (reaches : Reaches tree root base names) :
    names ≠ [] ∧ ∃ content, tree.entryAt? (base ++ names) = some (.file content) := by
  induction reaches with
  | file stored => exact ⟨List.cons_ne_nil _ _, _, stored⟩
  | into _ _ _ _ ih =>
      rw [List.append_assoc, List.singleton_append] at ih
      exact ⟨List.cons_ne_nil _ _, ih.2⟩

/-- All names before that of the file lead to directories. -/
theorem Reaches.directories (reaches : Reaches tree root base names) :
    ∀ before, before <+: names → before ≠ [] → before ≠ names →
      tree.entryAt? (base ++ before) = some .directory := by
  induction reaches with
  | file =>
      intro before starts started short
      cases before with
      | nil => exact absurd rfl started
      | cons first before =>
          obtain ⟨rfl, none⟩ := List.cons_prefix_cons.mp starts
          rw [List.prefix_nil.mp none] at short
          exact absurd rfl short
  | into directory _ _ _ ih =>
      intro before starts started short
      cases before with
      | nil => exact absurd rfl started
      | cons first before =>
          obtain ⟨rfl, onward⟩ := List.cons_prefix_cons.mp starts
          by_cases alone : before = []
          · subst alone
            exact directory
          · have rest := ih before onward alone fun same => short (same ▸ rfl)
            rwa [List.append_assoc, List.singleton_append] at rest

theorem Reaches.named (reaches : Reaches tree root base names) (named : tree.WellNamed) :
    ∀ name ∈ names, Tree.IsSystemName name := by
  obtain ⟨some, _, file⟩ := reaches.exists_content
  obtain ⟨stored, member, there⟩ := Tree.exists_stored_of_entryAt? file (by simp [some])
  exact fun name inside => named stored member name (there ▸ List.mem_append_right base inside)

theorem mem_filesBelow_iff : names ∈ filesBelow tree root base ↔ Reaches tree root base names := by
  rw [filesBelow, List.mem_filterMap]
  constructor
  · rintro ⟨⟨location, entry⟩, -, same⟩
    dsimp only at same
    split at same
    · rename_i inside
      rw [Bool.and_eq_true] at inside
      obtain rfl := Option.some.inj same
      exact reaches_iff.mpr inside.2
    · contradiction
  · intro reaches
    obtain ⟨some, _, file⟩ := reaches.exists_content
    obtain ⟨⟨location, entry⟩, member, rfl⟩ := Tree.exists_stored_of_entryAt? file (by simp [some])
    refine ⟨_, member, ?_⟩
    dsimp only
    rw [List.drop_left, reaches_iff.mp reaches]
    simp

/-! ## Files of a root -/

/-- How a wanted file is found from a root: it is the root, or it is reached from there. -/
inductive Found (w : Workspace) (options : DiscoveryOptions) (root : String) : String → Prop
  | root {location : Location} {content : ByteArray} {name : String}
      (located : w.locate root = .ok (.present location (.file content)))
      (last : Path.fileName? root = some name)
      (wanted : HasExtension options.extensions name) : Found w options root root
  | below {base : Location} {names : List String} {name : String}
      (located : w.locate root = .ok (.present base .directory))
      (reaches : Reaches w.tree root base (names ++ [name]))
      (wanted : HasExtension options.extensions name) :
      Found w options root ((names ++ [name]).foldl Path.join root)

theorem fileName?_foldl_join (filled : root ≠ "")
    (named : ∀ inner ∈ names ++ [name], Tree.IsSystemName inner) :
    Path.fileName? ((names ++ [name]).foldl Path.join root) = some name := by
  rw [Path.fileName?, (Path.foldl_join filled named).2.2, List.map_append, ← List.append_assoc,
    List.map_singleton, List.getLast?_append_of_ne_nil _ (List.cons_ne_nil _ _)]
  rfl

theorem mem_filesOfRoot_iff (named : w.tree.WellNamed) :
    path ∈ filesOfRoot w options root ↔ Found w options root path := by
  constructor
  · intro member
    unfold filesOfRoot at member
    split at member
    · rename_i location content located
      split at member
      · rename_i wants
        obtain ⟨name, last, wanted⟩ := wants_iff.mp wants
        obtain rfl := List.mem_singleton.mp member
        exact .root located last wanted
      · contradiction
    · rename_i base located
      obtain ⟨joined, wants⟩ := List.mem_filter.mp member
      obtain ⟨names, below, rfl⟩ := List.mem_map.mp joined
      have reaches := mem_filesBelow_iff.mp below
      have filled := (Workspace.locate_eq_ok.mp located).1.nonempty
      obtain rfl | ⟨init, last, rfl⟩ := List.eq_nil_or_concat names
      · exact absurd rfl reaches.exists_content.1
      · rw [List.concat_eq_append] at reaches wants ⊢
        obtain ⟨name, same, wanted⟩ := wants_iff.mp wants
        rw [fileName?_foldl_join filled (reaches.named named), Option.some.injEq] at same
        exact .below located reaches (same ▸ wanted)
    · contradiction
  · intro found
    cases found with
    | root located last wanted =>
        have wants := wants_iff.mpr ⟨_, last, wanted⟩
        simp only [filesOfRoot, located]
        rw [if_pos wants]
        exact List.mem_singleton_self root
    | below located reaches wanted =>
        have filled := (Workspace.locate_eq_ok.mp located).1.nonempty
        have last := fileName?_foldl_join filled (reaches.named named)
        simp only [filesOfRoot, located]
        exact List.mem_filter.mpr
          ⟨List.mem_map_of_mem (mem_filesBelow_iff.mpr reaches), wants_iff.mpr ⟨_, last, wanted⟩⟩

end Audit

end EnergyAudit
