import EnergyAudit.Proofs.Audit.Counts
import EnergyAudit.Proofs.Audit.Reached
import EnergyAudit.Proofs.Audit.SourceFile
import EnergyAudit.Proofs.Files.Path

/-! # Which files are discovered, and how often

The paths that are discovered stand in order, and no two of them have the same components.  From
plain roots a file is found under more than one path only where roots start differently: at the
root, with a dot, with parents or with a name. -/

namespace EnergyAudit.Workspace

/-- The text of the file at the location. -/
def textAt? (w : Workspace) (location : Location) : Option String :=
  match w.tree.entryAt? location with
  | some (.file content) => some (Text.decodeLossy content.toList)
  | _ => none

/-- What is read along a path is up to where it leads. -/
theorem readLossy?_eq (w : Workspace) (path : String) :
    w.readLossy? path = (w.fileAt? path).bind w.textAt? := by
  unfold readLossy? read fileAt?
  cases located : w.locate path with
  | error e => rfl
  | ok place =>
      cases place with
      | vacant location => rfl
      | present location entry =>
          cases entry with
          | link target => rfl
          | directory => rfl
          | file content =>
              have found : w.tree.entryAt? location = some (.file content) :=
                Tree.entryAt?_of_walk (locate_eq_ok.mp located).2 nofun
              simp only [Option.bind_some, textAt?, found]

end EnergyAudit.Workspace

namespace EnergyAudit.Audit

variable {w : Workspace} {options : DiscoveryOptions} {roots paths others : List String}
  {root path other : String} {location : Location}

/-! ## Paths in order -/

/-- Whether each path stands before those behind it. -/
abbrev Ascending (paths : List String) : Prop :=
  paths.Pairwise fun path other => Path.before path other = true

theorem mem_insertPath (member : other ∈ insertPath path paths) :
    other = path ∨ other ∈ paths := by
  induction paths with
  | nil => exact .inl (List.mem_singleton.mp member)
  | cons first paths ih =>
      rw [insertPath] at member
      split at member
      · exact .inr member
      · split at member
        · exact List.mem_cons.mp member
        · rcases List.mem_cons.mp member with rfl | later
          · exact .inr List.mem_cons_self
          · exact (ih later).imp_right (List.mem_cons_of_mem _)

theorem mem_insertPath_of_mem (member : other ∈ paths) : other ∈ insertPath path paths := by
  induction paths with
  | nil => exact nomatch member
  | cons first paths ih =>
      rw [insertPath]
      split
      · exact member
      · split
        · exact List.mem_cons_of_mem _ member
        · rcases List.mem_cons.mp member with rfl | later
          · exact List.mem_cons_self
          · exact List.mem_cons_of_mem _ (ih later)

/-- A path that is put in its place is there, or one of the same components is. -/
theorem exists_mem_insertPath (path : String) (paths : List String) :
    ∃ kept ∈ insertPath path paths, Path.components kept = Path.components path := by
  induction paths with
  | nil => exact ⟨path, List.mem_cons_self, rfl⟩
  | cons first paths ih =>
      rw [insertPath]
      split
      · rename_i same
        exact ⟨first, List.mem_cons_self, (Path.same_iff.mp same).symm⟩
      · split
        · exact ⟨path, List.mem_cons_self, rfl⟩
        · obtain ⟨kept, member, same⟩ := ih
          exact ⟨kept, List.mem_cons_of_mem _ member, same⟩

theorem ascending_insertPath (ascending : Ascending paths) :
    Ascending (insertPath path paths) := by
  induction paths with
  | nil => exact List.pairwise_singleton ..
  | cons first paths ih =>
      obtain ⟨above, rest⟩ := List.pairwise_cons.mp ascending
      rw [insertPath]
      split
      · exact ascending
      · rename_i different
        split
        · rename_i below
          refine List.pairwise_cons.mpr ⟨fun later member => ?_, ascending⟩
          rcases List.mem_cons.mp member with rfl | member
          · exact below
          · exact Path.before_trans below (above later member)
        · rename_i notBelow
          have follows := (Path.before_or_before (Bool.eq_false_iff.mpr different)).resolve_left
            notBelow
          refine List.pairwise_cons.mpr ⟨fun later member => ?_, ih rest⟩
          rcases mem_insertPath member with rfl | member
          · exact follows
          · exact above later member

theorem ascending_allFiles (w : Workspace) (options : DiscoveryOptions) (roots : List String) :
    Ascending (allFiles w options roots) := by
  suffices folded : ∀ paths kept : List String, Ascending kept →
      Ascending (paths.foldl (fun paths path => insertPath path paths) kept) from folded _ [] .nil
  intro paths
  induction paths with
  | nil => exact fun kept ascending => ascending
  | cons path paths ih => exact fun kept ascending => ih _ (ascending_insertPath ascending)

theorem ascending_discover (w : Workspace) (options : DiscoveryOptions) (roots : List String) :
    Ascending (discover w options roots) :=
  (ascending_allFiles w options roots).sublist (List.take_sublist ..)

theorem exists_root_of_mem_allFiles (member : path ∈ allFiles w options roots) :
    ∃ root ∈ roots, path ∈ filesOfRoot w options root := by
  suffices folded : ∀ paths kept : List String,
      path ∈ paths.foldl (fun paths path => insertPath path paths) kept →
        path ∈ paths ∨ path ∈ kept from
    List.mem_flatMap.mp ((folded _ [] member).resolve_right List.not_mem_nil)
  intro paths
  induction paths with
  | nil => exact fun kept member => .inr member
  | cons first paths ih =>
      intro kept member
      rcases ih _ member with later | inserted
      · exact .inl (List.mem_cons_of_mem _ later)
      · rcases mem_insertPath inserted with rfl | before
        · exact .inl List.mem_cons_self
        · exact .inr before

theorem exists_root_of_mem_discover (member : path ∈ discover w options roots) :
    ∃ root ∈ roots, path ∈ filesOfRoot w options root :=
  exists_root_of_mem_allFiles (List.mem_of_mem_take member)

theorem exists_mem_allFiles (listed : root ∈ roots) (found : path ∈ filesOfRoot w options root) :
    ∃ kept ∈ allFiles w options roots, Path.components kept = Path.components path := by
  suffices folded : ∀ paths kept : List String,
      (path ∈ paths ∨ ∃ other ∈ kept, Path.components other = Path.components path) →
        ∃ other ∈ paths.foldl (fun paths path => insertPath path paths) kept,
          Path.components other = Path.components path from
    folded _ [] (.inl (List.mem_flatMap.mpr ⟨root, listed, found⟩))
  intro paths
  induction paths with
  | nil => exact fun kept there => there.resolve_left List.not_mem_nil
  | cons first paths ih =>
      rintro kept (ahead | ⟨other, member, same⟩)
      · rcases List.mem_cons.mp ahead with rfl | later
        · exact ih _ (.inr (exists_mem_insertPath path kept))
        · exact ih _ (.inl later)
      · exact ih _ (.inr ⟨other, mem_insertPath_of_mem member, same⟩)

/-! ## Where the paths of a root lead -/

namespace Found

theorem anchor_eq (found : Found w options root path) (named : w.tree.WellNamed) :
    Path.anchor path = Path.anchor root := by
  cases found with
  | root => rfl
  | below located reaches =>
      exact Path.anchor_eq_of_components (Path.foldl_join
        (Workspace.locate_eq_ok.mp located).1.nonempty (reaches.named named)).2.2

theorem isSome_fileAt? (found : Found w options root path) (named : w.tree.WellNamed)
    (short : path.utf8ByteSize ≤ Tree.maxPathBytes) : (w.fileAt? path).isSome = true := by
  cases found with
  | root located =>
      rw [Workspace.fileAt?_eq_some_iff.mpr ⟨_, located⟩, Option.isSome_some]
  | below located reaches =>
      obtain ⟨some, _, file⟩ := reaches.exists_content
      rw [Workspace.fileAt?_foldl_join located some (reaches.named named) reaches.directories file
        short, Option.isSome_some]

/-- What is found from a plain root goes down and leads to where its names say. -/
theorem location_eq (found : Found w options root path) (named : w.tree.WellNamed)
    (plain : w.IsPlain root) (leads : w.fileAt? path = some location) :
    .parent ∉ Path.descent path ∧
      location = Tree.resolve (w.start path) (Path.names path) := by
  obtain ⟨_, there⟩ := Workspace.fileAt?_eq_some_iff.mp leads
  have usable := (Workspace.locate_eq_ok.mp there).1
  cases found with
  | root => exact ⟨plain.down, plain.location_eq there⟩
  | @below base names name located reaches =>
      obtain ⟨some, _, file⟩ := reaches.exists_content
      have named := reaches.named named
      rw [Workspace.fileAt?_foldl_join located some named reaches.directories file usable.short,
        Option.some.injEq] at leads
      obtain ⟨-, same, components⟩ :=
        Path.foldl_join (Workspace.locate_eq_ok.mp located).1.nonempty named
      have base : base = _ := plain.location_eq located
      have down : ".." ∉ names ++ [name] := fun parent => (named _ parent).noParent rfl
      rw [← leads, base, same,
        Workspace.start_eq_of_anchor (Path.anchor_eq_of_components components),
        Tree.resolve_append, Tree.resolve_of_down down]
      exact ⟨fun parent => plain.down (Path.parent_mem_descent components parent), rfl⟩

end Found

/-- Paths to one file that start alike are the same, if they come from plain roots. -/
theorem components_eq_of_fileAt? {root' : String} (named : w.tree.WellNamed)
    (found : Found w options root path) (found' : Found w options root' other)
    (plain : w.IsPlain root) (plain' : w.IsPlain root')
    (leads : w.fileAt? path = some location) (leads' : w.fileAt? other = some location)
    (anchor : Path.anchor path = Path.anchor other) :
    Path.components path = Path.components other := by
  obtain ⟨down, there⟩ := found.location_eq named plain leads
  obtain ⟨down', there'⟩ := found'.location_eq named plain' leads'
  exact Workspace.components_eq_of_resolve anchor down down' (there.symm.trans there')

/-! ## Files that are audited once -/

/-- The severities of what the rules report about the file at the location. -/
def severitiesAt (w : Workspace) (rules : List Rule) (location : Location) : List Severity :=
  (auditFile rules ⟨"", w.textAt? location⟩).findings.map (·.severity)

theorem map_severity_run (w : Workspace) (rules : List Rule) (paths : List String) :
    (((paths.map (textFile w)).map (auditFile rules)).flatMap (·.findings)).map (·.severity) =
      (paths.filterMap w.fileAt?).flatMap (severitiesAt w rules) := by
  induction paths with
  | nil => rfl
  | cons path paths ih =>
      rw [List.map_cons, List.map_cons, List.flatMap_cons, List.map_append, ih, textFile,
        map_severity_findings rules _ path "", Workspace.readLossy?_eq]
      cases leads : w.fileAt? path with
      | none =>
          rw [List.filterMap_cons_none leads]
          rfl
      | some location =>
          rw [List.filterMap_cons_some leads, List.flatMap_cons]
          rfl

/-- The counts of an audit are told from the files that its paths lead to. -/
theorem counts_run (w : Workspace) (rules : List Rule) (paths : List String)
    (threshold : Severity) :
    (run w rules paths threshold).counts = SeverityCounts.tally
      (((paths.filterMap w.fileAt?).flatMap (severitiesAt w rules)).filter
        (·.meets threshold)) := by
  rw [← map_severity_run, ← counts_aggregate, run_eq]
  rfl

theorem counts_run_congr (same : (paths.filterMap w.fileAt?).Perm (others.filterMap w.fileAt?))
    (rules : List Rule) (threshold : Severity) :
    (run w rules paths threshold).counts = (run w rules others threshold).counts := by
  rw [counts_run, counts_run]
  exact SeverityCounts.tally_perm ((same.flatMap_right _).filter _)

/-- Any two of the roots from which one file is reached start alike. -/
def StartAlike (w : Workspace) (options : DiscoveryOptions) (roots : List String) : Prop :=
  ∀ root ∈ roots, ∀ root' ∈ roots, ∀ path ∈ filesOfRoot w options root,
    ∀ path' ∈ filesOfRoot w options root', ∀ location, w.fileAt? path = some location →
      w.fileAt? path' = some location → Path.anchor root = Path.anchor root'

/-- How a path that is discovered comes from one of the roots, which are plain. -/
theorem exists_found (named : w.tree.WellNamed) (plain : ∀ root ∈ roots, w.IsPlain root)
    (member : path ∈ discover w options roots) :
    ∃ root ∈ roots, path ∈ filesOfRoot w options root ∧ w.IsPlain root ∧
      Found w options root path := by
  obtain ⟨root, listed, fromRoot⟩ := exists_root_of_mem_discover member
  exact ⟨root, listed, fromRoot, plain root listed, (mem_filesOfRoot_iff named).mp fromRoot⟩

/-- Two paths to one file start differently. -/
theorem pairwise_anchor_ne (named : w.tree.WellNamed) (plain : ∀ root ∈ roots, w.IsPlain root) :
    (discover w options roots).Pairwise fun path other => ∀ location,
      w.fileAt? path = some location → w.fileAt? other = some location →
        Path.anchor path ≠ Path.anchor other := by
  refine (ascending_discover w options roots).imp_of_mem ?_
  intro path other member member' before location leads leads' anchor
  obtain ⟨root, -, -, plainRoot, way⟩ := exists_found named plain member
  obtain ⟨root', -, -, plainRoot', way'⟩ := exists_found named plain member'
  exact Path.not_same_of_before before
    (components_eq_of_fileAt? named way way' plainRoot plainRoot' leads leads' anchor)

theorem nodup_of_startAlike (named : w.tree.WellNamed) (plain : ∀ root ∈ roots, w.IsPlain root)
    (alike : StartAlike w options roots) :
    ((discover w options roots).filterMap w.fileAt?).Nodup := by
  refine List.pairwise_filterMap.mpr ((pairwise_anchor_ne named plain).imp_of_mem ?_)
  rintro path other member member' different location leads location' leads' rfl
  obtain ⟨root, listed, fromRoot, -, way⟩ := exists_found named plain member
  obtain ⟨root', listed', fromRoot', -, way'⟩ := exists_found named plain member'
  refine different location leads leads' ?_
  rw [way.anchor_eq named, way'.anchor_eq named]
  exact alike root listed root' listed' path fromRoot other fromRoot' location leads leads'

/-- Where nothing is cut off, every file that is reached is found under its components. -/
theorem exists_mem_discover (named : w.tree.WellNamed) (plain : ∀ root ∈ roots, w.IsPlain root)
    (all : (allFiles w options roots).length ≤ options.maxFiles)
    (short : ∀ path ∈ discover w options roots, path.utf8ByteSize ≤ Tree.maxPathBytes)
    (listed : root ∈ roots) (fromRoot : path ∈ filesOfRoot w options root)
    (leads : w.fileAt? path = some location) :
    ∃ kept ∈ discover w options roots, Path.components kept = Path.components path ∧
      w.fileAt? kept = some location := by
  obtain ⟨kept, member, same⟩ := exists_mem_allFiles listed fromRoot
  rw [← List.take_of_length_le all] at member
  obtain ⟨root', -, -, plainRoot', way'⟩ := exists_found named plain member
  obtain ⟨location', leads'⟩ :=
    Option.isSome_iff_exists.mp (way'.isSome_fileAt? named (short _ member))
  have way := (mem_filesOfRoot_iff named).mp fromRoot
  have there := (way.location_eq named (plain root listed) leads).2
  have there' := (way'.location_eq named plainRoot' leads').2
  have anchor : Path.anchor kept = Path.anchor path := congrArg (List.takeWhile _) same
  have names : Path.names kept = Path.names path := by
    rw [Path.names, ← Path.filter_components, same, Path.filter_components, Path.names]
  rw [Workspace.start_eq_of_anchor anchor, names, ← there] at there'
  exact ⟨kept, member, same, there' ▸ leads'⟩

theorem eq_of_nodup_filterMap (once : (paths.filterMap w.fileAt?).Nodup) (first : path ∈ paths)
    (second : other ∈ paths) (leads : w.fileAt? path = some location)
    (leads' : w.fileAt? other = some location) : path = other := by
  obtain ⟨before, after, rfl⟩ := List.append_of_mem first
  rw [List.filterMap_append, List.filterMap_cons_some leads, List.nodup_middle,
    List.nodup_cons, ← List.filterMap_append] at once
  have elsewhere : other ∉ before ++ after := fun member =>
    once.1 (List.mem_filterMap.mpr ⟨other, member, leads'⟩)
  rcases List.mem_append.mp second with early | late
  · exact absurd (List.mem_append_left _ early) elsewhere
  · rcases List.mem_cons.mp late with rfl | late
    · rfl
    · exact absurd (List.mem_append_right _ late) elsewhere

theorem startAlike_of_nodup (named : w.tree.WellNamed) (plain : ∀ root ∈ roots, w.IsPlain root)
    (all : (allFiles w options roots).length ≤ options.maxFiles)
    (short : ∀ path ∈ discover w options roots, path.utf8ByteSize ≤ Tree.maxPathBytes)
    (nodup : ((discover w options roots).filterMap w.fileAt?).Nodup) :
    StartAlike w options roots := by
  intro root listed root' listed' path fromRoot path' fromRoot' location leads leads'
  obtain ⟨kept, member, same, there⟩ :=
    exists_mem_discover named plain all short listed fromRoot leads
  obtain ⟨kept', member', same', there'⟩ :=
    exists_mem_discover named plain all short listed' fromRoot' leads'
  have once : kept = kept' := eq_of_nodup_filterMap nodup member member' there there'
  have anchor : Path.anchor path = Path.anchor path' :=
    congrArg (List.takeWhile _) (same.symm.trans (once ▸ same'))
  rwa [((mem_filesOfRoot_iff named).mp fromRoot).anchor_eq named,
    ((mem_filesOfRoot_iff named).mp fromRoot').anchor_eq named] at anchor

/-- From plain roots every path that is not too long leads to a file, and two of them to one file
only where they start differently.  If roots that reach one file start alike, no file is found twice
and the audit has the counts of one that looks at each of the files once; where nothing is cut off
and no path is too long, only then. -/
theorem discover_finds_once (options : DiscoveryOptions) (named : w.tree.WellNamed)
    (plain : ∀ root ∈ roots, w.IsPlain root) :
    (∀ path ∈ discover w options roots, path.utf8ByteSize ≤ Tree.maxPathBytes →
        (w.fileAt? path).isSome = true) ∧
      ((discover w options roots).Pairwise fun path other => ∀ location,
        w.fileAt? path = some location → w.fileAt? other = some location →
          Path.anchor path ≠ Path.anchor other) ∧
      (StartAlike w options roots →
        ((discover w options roots).filterMap w.fileAt?).Nodup ∧
          ∀ once : List String, (once.filterMap w.fileAt?).Nodup →
            (∀ location, location ∈ once.filterMap w.fileAt? ↔
              location ∈ (discover w options roots).filterMap w.fileAt?) →
            ∀ rules threshold, (run w rules (discover w options roots) threshold).counts =
              (run w rules once threshold).counts) ∧
      ((allFiles w options roots).length ≤ options.maxFiles →
        (∀ path ∈ discover w options roots, path.utf8ByteSize ≤ Tree.maxPathBytes) →
          ((discover w options roots).filterMap w.fileAt?).Nodup →
            StartAlike w options roots) := by
  refine ⟨fun path member short => ?_, pairwise_anchor_ne named plain, fun alike => ?_,
    startAlike_of_nodup named plain⟩
  · obtain ⟨root, -, -, -, way⟩ := exists_found named plain member
    exact way.isSome_fileAt? named short
  · have found := nodup_of_startAlike named plain alike
    refine ⟨found, fun once nodup same rules threshold => counts_run_congr ?_ rules threshold⟩
    exact (List.perm_ext_iff_of_nodup found nodup).mpr fun location => (same location).symm

/-- A file in the working directory and another one beside it, and a link to the directory. -/
def twoFiles : Workspace where
  tree := ⟨[(["home"], .directory), (["home", "src"], .directory),
    (["home", "src", "a.py"], .file "load_in_8bit=True".toUTF8),
    (["home", "b.py"], .file "m = from_pretrained(name)".toUTF8), (["home", "too"], .link "src")]⟩
  directory := ["home", "src"]

theorem discover_twoFiles_once :
    twoFiles.tree.WellNamed ∧
      (∀ root ∈ ["../src", "..", "../src//a.py"], twoFiles.IsPlain root) ∧
      discover twoFiles ⟨["py"], 50⟩ ["../src", "..", "../src//a.py"] =
        ["../b.py", "../src/a.py"] ∧
      (run twoFiles Rule.all ["../b.py", "../src/a.py"] .info).counts =
        (run twoFiles Rule.all ["a.py", "../b.py"] .info).counts := by
  have named : twoFiles.tree.WellNamed := by decide +kernel
  have plain : ∀ root ∈ ["../src", "..", "../src//a.py"], twoFiles.IsPlain root := by
    decide +kernel
  have found : discover twoFiles ⟨["py"], 50⟩ ["../src", "..", "../src//a.py"] =
      ["../b.py", "../src/a.py"] := by decide +kernel
  have same : (["a.py", "../b.py"].filterMap twoFiles.fileAt?).Perm
      (["../b.py", "../src/a.py"].filterMap twoFiles.fileAt?) := by decide +kernel
  have alike : StartAlike twoFiles ⟨["py"], 50⟩ ["../src", "..", "../src//a.py"] := by
    have anchors : ∀ root ∈ ["../src", "..", "../src//a.py"], Path.anchor root = [.parent] := by
      decide +kernel
    intro root listed root' listed' _ _ _ _ _ _ _
    rw [anchors root listed, anchors root' listed']
  obtain ⟨-, -, audited, -⟩ := discover_finds_once ⟨["py"], 50⟩ named plain
  rw [found] at audited
  obtain ⟨once, counts⟩ := audited alike
  exact ⟨named, plain, found,
    counts _ (same.nodup_iff.mpr once) (fun _ => same.mem_iff) Rule.all .info⟩

/-- A file below the working directory. -/
def oneFile : Workspace where
  tree := ⟨[(["a.py"], .file "load_in_8bit=True".toUTF8)]⟩
  directory := []

/-- From the working directory and from its own path, a file is found under two paths, and its
findings count twice. -/
theorem discover_oneFile_twice :
    discover oneFile ⟨["py"], 50⟩ [".", "a.py"] = ["./a.py", "a.py"] ∧
      oneFile.fileAt? "./a.py" = some ["a.py"] ∧ oneFile.fileAt? "a.py" = some ["a.py"] ∧
      (run oneFile Rule.all ["./a.py", "a.py"] .critical).counts = ⟨2, 0, 0⟩ ∧
      (run oneFile Rule.all ["a.py"] .critical).counts = ⟨1, 0, 0⟩ := by
  refine ⟨by decide +kernel, by decide +kernel, by decide +kernel, ?_, ?_⟩
  · rw [counts_run]
    decide +kernel
  · rw [counts_run]
    decide +kernel

end EnergyAudit.Audit
