import EnergyAudit.Proofs.Baseline.RoundTrip
import EnergyAudit.Baseline.Store
import EnergyAudit.Proofs.Files.Directories

/-! # What a save does

A save that succeeds makes the directory of the document and puts the new document where the path
of the store leads to.  The path leads there afterwards as well, unless the document took the place
of a link on the way to its own directory. -/

namespace EnergyAudit

open Workspace

namespace BaselineStore

/-- The path of the store names a file with the content, at the location. -/
def Keeps (store : BaselineStore) (w : Workspace) (location : Location) (content : ByteArray) :
    Prop :=
  w.tree.locate w.directory false store.path = .ok (.present location (.file content))

/-- A workspace whose directories were made, and the place that the document is put in. -/
structure Opens (store : BaselineStore) (w w' : Workspace) (place : Place) : Prop where
  made : w.makeDirectories store.directory = (w', none)
  directory : w'.isDirectory store.directory = true
  located : w'.tree.locate w'.directory false store.path = .ok place
  noDirectory : place.entry? ≠ some .directory

/-- No step of a save fails by itself, but for the reading of the old document. -/
def Calm (faults : Faults) : Prop :=
  ∀ step, step ≠ .read → faults step = false

/-- What the file of a document holds. -/
def fileOf (document : BaselineDocument) : Entry :=
  .file (document.render ++ "\n").toUTF8

variable {store : BaselineStore} {faults : Faults} {w w' : Workspace} {place : Place}

/-! ## The steps of a save -/

theorem fill_worked (faults : Faults) (w : Workspace) (temporary : Location) (text : String) :
    (fill faults w temporary (fillings text)).2 =
      (!faults .openTemporary && !faults .writeText && !faults .writeNewline && !faults .sync) := by
  simp only [fillings, fill]
  cases faults .openTemporary <;> cases faults .writeText <;> cases faults .writeNewline <;>
    cases faults .sync <;> rfl

theorem replaceFile_eq_ok (path : String) (content : ByteArray) :
    w.replaceFile path content = .ok w' ↔
      ∃ place, w.tree.locate w.directory false path = .ok place ∧
        place.entry? ≠ some .directory ∧ w' = w.put place.location (.file content) := by
  unfold replaceFile
  constructor
  · intro replaced
    split at replaced
    case h_1 => contradiction
    case h_2 location entry noDirectory located =>
        simp only [Except.ok.injEq] at replaced
        exact ⟨_, located, fun same => noDirectory (Option.some.inj same), replaced.symm⟩
    case h_3 location located =>
        simp only [Except.ok.injEq] at replaced
        exact ⟨_, located, nofun, replaced.symm⟩
    case h_4 => contradiction
  · rintro ⟨place, located, noDirectory, rfl⟩
    rw [located]
    cases place with
    | vacant location => rfl
    | present location entry =>
        cases entry with
        | directory => exact absurd rfl noDirectory
        | file content => rfl
        | link target => rfl

/-- Once the directory is found, a document is written by filling a file and putting it in place. -/
theorem writeDocument_eq {location : Location} {key text : String}
    (found : w.locate store.directory = .ok (.present location .directory)) :
    store.writeDocument faults w key text =
      if !(fill faults w (location ++ [w.tree.freshName]) (fillings text)).2 then
        ⟨.error (.access store.directory "write failed"),
          (fill faults w (location ++ [w.tree.freshName]) (fillings text)).1⟩
      else if faults .replace then
        ⟨.error (.notReplaced store.path "replacement failed"),
          (fill faults w (location ++ [w.tree.freshName]) (fillings text)).1 ++ [w]⟩
      else
        match w.replaceFile store.path (text ++ "\n").toUTF8 with
        | .ok w' =>
            ⟨.ok key, (fill faults w (location ++ [w.tree.freshName]) (fillings text)).1 ++ [w']⟩
        | .error e =>
            ⟨.error (.notReplaced store.path e.display),
              (fill faults w (location ++ [w.tree.freshName]) (fillings text)).1 ++ [w]⟩ := by
  apply Eq.trans
  · unfold writeDocument
    rw [found]
  · rfl

theorem writeDocument_of_located (directory : w.isDirectory store.directory = true)
    (located : w.tree.locate w.directory false store.path = .ok place)
    (noDirectory : place.entry? ≠ some .directory) (calm : Calm faults) (key text : String) :
    (store.writeDocument faults w key text).result = .ok key ∧
      (store.writeDocument faults w key text).history.getLast? =
        some (w.put place.location (.file (text ++ "\n").toUTF8)) := by
  obtain ⟨location, found⟩ := isDirectory_iff_locate.mp directory
  have replaced := (replaceFile_eq_ok store.path (text ++ "\n").toUTF8).mpr
    ⟨place, located, noDirectory, rfl⟩
  have worked : (fill faults w (location ++ [w.tree.freshName]) (fillings text)).2 = true := by
    rw [fill_worked, calm .openTemporary (by decide), calm .writeText (by decide),
      calm .writeNewline (by decide), calm .sync (by decide)]
    rfl
  rw [writeDocument_eq found, worked, calm .replace (by decide), replaced]
  exact ⟨rfl, List.getLast?_concat⟩

theorem located_of_writeDocument {key text answer : String}
    (written : (store.writeDocument faults w key text).result = .ok answer) :
    w.isDirectory store.directory = true ∧ answer = key ∧
      (∀ step, step ≠ .makeDirectory → step ≠ .read → faults step = false) ∧
        ∃ place, w.tree.locate w.directory false store.path = .ok place ∧
          place.entry? ≠ some .directory := by
  cases found : w.locate store.directory with
  | error e =>
      unfold writeDocument at written
      rw [found] at written
      exact nomatch written
  | ok directory =>
      by_cases there : ∃ location, directory = .present location .directory
      · obtain ⟨location, rfl⟩ := there
        rw [writeDocument_eq found, fill_worked] at written
        cases replaced : w.replaceFile store.path (text ++ "\n").toUTF8 with
        | error e =>
            rw [replaced] at written
            split at written
            · exact nomatch written
            · split at written <;> exact nomatch written
        | ok w' =>
            obtain ⟨place, located, noDirectory, _⟩ := (replaceFile_eq_ok ..).mp replaced
            rw [replaced] at written
            split at written
            case isTrue => exact nomatch written
            case isFalse worked =>
              split at written
              case isTrue => exact nomatch written
              case isFalse replaces =>
                refine ⟨isDirectory_iff_locate.mpr ⟨location, found⟩,
                  (Except.ok.inj written).symm, ?_, place, located, noDirectory⟩
                clear found replaced located
                intro step
                cases step <;> simp_all
      · unfold writeDocument at written
        rw [found] at written
        split at written
        case h_1 location same => exact absurd ⟨location, Except.ok.inj same⟩ there
        case h_2 => exact nomatch written
        case h_3 => exact nomatch written

/-- The document that a save starts from. -/
def before (store : BaselineStore) (faults : Faults) (w : Workspace) : BaselineDocument :=
  if faults .read then .empty else store.readable w

/-- A save works where its directories can be made and its place allows it. -/
theorem Opens.save (opens : store.Opens w w' place) (calm : Calm faults) (baseline : Baseline) :
    (store.save faults w baseline).result = .ok baseline.key ∧
      (store.save faults w baseline).final w =
        w'.put place.location (fileOf ((store.before faults w').insert baseline)) := by
  obtain ⟨worked, last⟩ := writeDocument_of_located opens.directory opens.located
    opens.noDirectory calm baseline.key ((store.before faults w').insert baseline).render
  unfold BaselineStore.save
  rw [if_neg (by simp [calm .makeDirectory (by decide)]), opens.made]
  dsimp only
  rw [← before]
  refine ⟨worked, ?_⟩
  rw [SaveRun.final, List.getLast?_cons, last]
  rfl

/-- A save that worked had its directories made and found a place. -/
theorem exists_opens_of_save {baseline : Baseline} {key : String}
    (saved : (store.save faults w baseline).result = .ok key) :
    key = baseline.key ∧ Calm faults ∧ ∃ w' place, store.Opens w w' place := by
  unfold BaselineStore.save at saved
  split at saved
  case isTrue => exact nomatch saved
  case isFalse first =>
    cases made : w.makeDirectories store.directory with
    | mk w' failure =>
        rw [made] at saved
        cases failure with
        | some e => exact nomatch saved
        | none =>
            dsimp only at saved
            rw [← before] at saved
            obtain ⟨directory, same, calm, place, located, noDirectory⟩ :=
              located_of_writeDocument saved
            refine ⟨same, ?_, w', place, made, directory, located, noDirectory⟩
            intro step notRead
            by_cases start : step = .makeDirectory
            · simpa [start] using first
            · exact calm step start notRead

/-! ## The place of the document -/

/-- The document stands apart from the way to its directory: where its path names a link, the
directory is still there once a file takes the place of the link. -/
def Apart (store : BaselineStore) (w : Workspace) : Prop :=
  ∀ location target,
    w.tree.locate w.directory false store.path = .ok (.present location (.link target)) →
      ∀ content, (w.put location (.file content)).isDirectory store.directory = true

/-- The directory of the document is where the names before the name of the document lead to. -/
theorem filter_directory {names : List String} {name : String}
    (cut : Path.pieces store.path = names ++ [name]) (entryName : Tree.IsEntryName name) :
    (Path.pieces store.directory).filter Path.matters = names.filter Path.matters ∧
      Path.isAbsolute store.directory = Path.isAbsolute store.path := by
  obtain ⟨parts, whole, last⟩ :=
    Path.components_of_pieces cut entryName.matters entryName.noParent
  have filtered : (parts.map Path.Component.text).filter Path.matters =
      names.filter Path.matters := by
    have both := Path.filter_components store.path
    rw [whole, cut, List.map_append, List.filter_append, List.filter_append] at both
    exact List.append_inj_left' both rfl
  have parent : Path.parent store.path = Path.ofComponents parts := by rw [Path.parent, ← last]
  cases parts with
  | nil =>
      have relative : Path.isAbsolute store.path = false := by
        rw [Bool.eq_false_iff, ne_eq, ← Path.head?_components, whole]
        simp
      have here : store.directory = "." := by
        rw [directory, parent]
        rfl
      rw [here, relative, ← filtered]
      exact ⟨by decide, by decide⟩
  | cons part parts =>
      have names := Path.filter_ofComponents (by simp) fun component member =>
        Path.slash_not_mem_components (whole ▸ List.mem_append_left _ member)
      have absolute := Path.isAbsolute_ofComponents (by simp) ⟨_, whole.symm⟩
      by_cases empty : Path.ofComponents (part :: parts) = ""
      · have here : store.directory = "." := by
          rw [directory, parent, empty]
          rfl
        rw [here, ← absolute, ← filtered, ← names, empty]
        exact ⟨by decide, by decide⟩
      · have there : store.directory = Path.ofComponents (part :: parts) := by
          rw [directory, parent]
          exact if_neg (by simpa using empty)
        rw [there]
        exact ⟨names.trans filtered, absolute⟩

/-- After a save the path of the store names the new file if its directory is still there. -/
theorem Opens.keeps_of_isDirectory (opens : store.Opens w w' place) {content : ByteArray}
    (directory : (w'.put place.location (.file content)).isDirectory store.directory = true) :
    store.Keeps (w'.put place.location (.file content)) place.location content := by
  obtain ⟨usable, walked⟩ := locate_eq_ok.mp opens.located
  obtain ⟨names, name, left, target, cut, entryName, leads, located, found⟩ :=
    Tree.exists_name_of_walk walked opens.noDirectory
  obtain ⟨sameNames, sameRoot⟩ := filter_directory cut entryName
  have below : place.location ≠ [] := by simp [located]
  obtain ⟨_, location, left', way⟩ := isDirectory_iff.mp directory
  have way := way.congr sameNames
  rw [start, sameRoot] at way
  obtain rfl := leads.target_eq (way.of_put_file below)
  refine locate_eq_ok.mpr ⟨usable, ?_⟩
  have new := Tree.entryAt?_put_same below w'.tree (.file content)
  have onward : Tree.walk _ false _ _ (names ++ [name]) = _ := way.walk_append (.inl (by simp))
  rw [cut]
  refine onward.trans ?_
  rw [Tree.walk_name entryName, ← located]
  simp only [put, new]
  rfl

/-- The directory is still there unless the document took the place of a link. -/
theorem Opens.isDirectory_put (opens : store.Opens w w' place)
    (noLink : ∀ path, place.entry? ≠ some (.link path)) (content : ByteArray) :
    (w'.put place.location (.file content)).isDirectory store.directory = true := by
  obtain ⟨names, name, left, target, cut, entryName, leads, located, found⟩ :=
    Tree.exists_name_of_walk (locate_eq_ok.mp opens.located).2 opens.noDirectory
  obtain ⟨usable, there, left', way⟩ := isDirectory_iff.mp opens.directory
  refine isDirectory_iff.mpr ⟨usable, there, left', way.put_file ?_ content⟩
  intro entry stands
  rw [located, ← found] at stands
  cases entry with
  | directory => exact absurd stands opens.noDirectory
  | link path => exact absurd stands (noLink path)
  | file old => exact ⟨old, rfl⟩

/-- After a save the path of the store names the new file. -/
theorem Opens.keeps (opens : store.Opens w w' place) (apart : store.Apart w')
    (content : ByteArray) :
    store.Keeps (w'.put place.location (.file content)) place.location content := by
  -- A file in place of a link may cut the way to the directory; `apart` rules that out.
  by_cases link : ∃ path, place.entry? = some (.link path)
  · obtain ⟨path, link⟩ := link
    have named : place = .present place.location (.link path) := by
      cases place with
      | vacant location => exact nomatch link
      | present location entry => rw [← Option.some.inj link]; rfl
    exact opens.keeps_of_isDirectory
      (apart place.location path (opens.located.trans (congrArg _ named)) content)
  · exact opens.keeps_of_isDirectory
      (opens.isDirectory_put (fun path same => link ⟨path, same⟩) content)

variable {location : Location} {content : ByteArray}

/-- The names of a path to no directory go on from the directory of the document. -/
theorem exists_way_of_located (located : w.tree.locate w.directory false store.path = .ok place)
    (noDirectory : place.entry? ≠ some .directory) :
    ∃ names name left target, Path.pieces store.path = names ++ [name] ∧
      Tree.IsEntryName name ∧
        w.tree.Leads Tree.maxLinks (w.start store.path) names left target ∧
          w.LeadsTo store.directory target ∧ place.location = target ++ [name] ∧
            place.entry? = w.tree.entryAt? (target ++ [name]) := by
  obtain ⟨names, name, left, target, cut, entryName, leads, placed, found⟩ :=
    Tree.exists_name_of_walk (locate_eq_ok.mp located).2 noDirectory
  obtain ⟨sameNames, sameRoot⟩ := filter_directory cut entryName
  refine ⟨names, name, left, target, cut, entryName, leads, ⟨left, ?_⟩, placed, found⟩
  rw [start, sameRoot]
  exact leads.congr sameNames.symm

theorem Keeps.read (keeps : store.Keeps w location content) :
    w.read store.path = .ok content := by
  obtain ⟨usable, walked⟩ := locate_eq_ok.mp keeps
  obtain ⟨names, name, left, target, cut, entryName, leads, placed, found⟩ :=
    Tree.exists_name_of_walk walked nofun
  have onward : Tree.walk _ true _ _ (names ++ [name]) = _ := leads.walk_append (.inl (by simp))
  have located : w.locate store.path = .ok (.present location (.file content)) := by
    refine locate_eq_ok.mpr ⟨usable, ?_⟩
    rw [cut, onward, Tree.walk_name entryName, ← found, ← placed]
    rfl
  rw [Workspace.read, located]

theorem Keeps.apart (keeps : store.Keeps w location content) : store.Apart w := by
  intro other target located
  rw [keeps] at located
  exact nomatch located

theorem Keeps.opens (keeps : store.Keeps w location content) (opens : store.Opens w w' place) :
    w' = w ∧ place = .present location (.file content) ∧
      ∀ last ∈ (pathStarts store.directory).getLast?, w.isDirectory last = true := by
  obtain ⟨_, _, _, target, _, _, _, leads, _, _⟩ := exists_way_of_located keeps nofun
  obtain ⟨rfl, directory⟩ := makeDirectories_of_leadsTo leads opens.made
  have located := opens.located
  rw [keeps] at located
  exact ⟨rfl, (Except.ok.inj located).symm, directory⟩

theorem isDirectory_put_file {path : String} (keeps : store.Keeps w location content)
    (directory : w.isDirectory path = true) (other : ByteArray) :
    (w.put location (.file other)).isDirectory path = true := by
  obtain ⟨names, name, _, target, _, _, _, _, placed, found⟩ := exists_way_of_located keeps nofun
  obtain ⟨usable, there, left, leads⟩ := isDirectory_iff.mp directory
  refine isDirectory_iff.mpr ⟨usable, there, left, leads.put_file ?_ other⟩
  intro entry stands
  rw [show location = target ++ [name] from placed, ← found] at stands
  exact ⟨content, (Option.some.inj stands).symm⟩

/-- Where one document can be saved, any other can be saved in its place. -/
theorem Keeps.opens_put (keeps : store.Keeps w location content)
    (opens : store.Opens w w' place) (other : ByteArray) :
    store.Opens (w.put location (.file other)) (w.put location (.file other))
      (.present location (.file other)) := by
  obtain ⟨rfl, rfl, directory⟩ := keeps.opens opens
  have kept := opens.keeps keeps.apart other
  refine ⟨?_, isDirectory_put_file keeps opens.directory other, kept, nofun⟩
  exact makeDirectories_of_isDirectory fun last final =>
    isDirectory_put_file keeps (directory last final) other

/-! ## The document before the first save -/

/-- The document has a place that saving does not change: its path goes down only, unless its
directory is there already, and it stands apart from the way to its directory. -/
structure Settled (store : BaselineStore) (w : Workspace) : Prop where
  proper : w.tree.Proper
  down : ".." ∉ Path.pieces store.path ∨ w.isDirectory store.directory = true
  apart : store.Apart w

theorem readable_of_not_read (unread : ∀ content, w.read store.path ≠ .ok content) :
    store.readable w = .empty := by
  unfold readable BaselineStore.read
  cases found : w.read store.path with
  | ok content => exact absurd found (unread content)
  | error e => cases e <;> rfl

/-- A document that can be read is named in the directory that it lies in. -/
theorem exists_leadsTo_of_read (found : w.read store.path = .ok content) :
    ∃ location name, w.LeadsTo store.directory location ∧
      w.tree.entryAt? (location ++ [name]) ≠ none := by
  have located : ∃ location, w.locate store.path = .ok (.present location (.file content)) := by
    unfold Workspace.read at found
    split at found <;> simp_all
  obtain ⟨location, located⟩ := located
  obtain ⟨_, walked⟩ := locate_eq_ok.mp located
  have elsewhere {links : Nat} {other : Location} (onward : w.tree.walk true links other [] =
      .ok (.present location (.file content))) : False := by
    rw [Tree.walk_nil] at onward
    exact nomatch onward
  rcases List.eq_nil_or_concat (Path.pieces store.path) with none | ⟨names, name, cut⟩
  · rw [none] at walked
    exact (elsewhere walked).elim
  · rw [List.concat_eq_append] at cut
    rw [cut] at walked
    obtain ⟨left, target, leads⟩ := Tree.exists_leads_of_walk_append (by simp) walked
    rw [leads.walk_append (.inl (by simp))] at walked
    have named : Tree.IsEntryName name ∧ w.tree.entryAt? (target ++ [name]) ≠ none := by
      cases Tree.steps_of_walk walked with
      | skip _ onward => exact (elsewhere onward).elim
      | up onward => exact (elsewhere onward).elim
      | into _ _ onward => exact (elsewhere onward).elim
      | follow entryName found _ _ => exact ⟨entryName, by simp [found]⟩
      | ends entryName _ found _ => exact ⟨entryName, by simp [← found, Place.entry?]⟩
    obtain ⟨sameNames, sameRoot⟩ := filter_directory cut named.1
    refine ⟨target, name, ⟨left, ?_⟩, named.2⟩
    rw [start, sameRoot]
    exact leads.congr sameNames.symm

/-- What the path of the store holds, if it can be read. -/
def bytes? (store : BaselineStore) (w : Workspace) : Option ByteArray :=
  (w.read store.path).toOption

theorem bytes?_eq_some_iff : store.bytes? w = some content ↔ w.read store.path = .ok content := by
  unfold bytes?
  cases w.read store.path <;> simp [Except.toOption]

/-- What can be read is told from the bytes. -/
theorem readable_congr (same : store.bytes? w = store.bytes? w') :
    store.readable w = store.readable w' := by
  cases found : w'.read store.path with
  | ok content =>
      have found' := bytes?_eq_some_iff.mp (same.trans (bytes?_eq_some_iff.mpr found))
      simp only [readable, BaselineStore.read, found, found']
  | error e =>
      have unread' (content : ByteArray) : w'.read store.path ≠ .ok content := by simp [found]
      have unread (content : ByteArray) : w.read store.path ≠ .ok content := fun held =>
        unread' content (bytes?_eq_some_iff.mp (same.symm.trans (bytes?_eq_some_iff.mpr held)))
      rw [readable_of_not_read unread, readable_of_not_read unread']

/-- A path that goes down only has a directory whose path goes down only. -/
theorem down_directory (down : ".." ∉ Path.pieces store.path) :
    ".." ∉ Path.pieces store.directory := by
  by_cases empty : Path.parent store.path = ""
  · have here : store.directory = "." := by
      rw [directory, empty]
      rfl
    rw [here]
    decide
  · have there : store.directory = Path.parent store.path := if_neg (by simpa using empty)
    have inside : ∀ component ∈ (Path.components store.path).dropLast,
        '/' ∉ component.text.toList := fun _ member =>
      Path.slash_not_mem_components (List.dropLast_subset _ member)
    have some : (Path.components store.path).dropLast ≠ [] := by
      intro none
      rw [Path.parent, none] at empty
      exact empty rfl
    rw [there]
    intro parent
    have listed := List.mem_filter.mpr ⟨parent, (by decide : Path.matters ".." = true)⟩
    rw [Path.parent, Path.filter_ofComponents some inside] at listed
    obtain ⟨named, matters⟩ := List.mem_filter.mp listed
    obtain ⟨component, member, text⟩ := List.mem_map.mp named
    have whole := List.mem_filter.mpr
      ⟨List.mem_map.mpr ⟨component, List.dropLast_subset _ member, text⟩, matters⟩
    rw [Path.filter_components] at whole
    exact down (List.mem_filter.mp whole).1

/-- Directories that are made on the way to a document neither hide it nor bring another one to
light. -/
theorem bytes?_makeAlong (proper : w.tree.Proper)
    (down : ".." ∉ Path.pieces store.path ∨ w.isDirectory store.directory = true) (count : Nat) :
    store.bytes? (w.makeAlong ((pathStarts store.directory).take count).reverse).1 =
      store.bytes? w := by
  by_cases directory : ∃ location, w.LeadsTo store.directory location
  · obtain ⟨location, leads⟩ := directory
    have starts : ∀ start ∈ ((pathStarts store.directory).take count).reverse,
        start ∈ pathStarts store.directory :=
      fun _ member => List.mem_of_mem_take (List.mem_reverse.mp member)
    rw [((w.makesAlong _).eq_of_leadsTo leads starts).1]
  · have down : ".." ∉ Path.pieces store.directory := down_directory
      (down.resolve_right fun there => directory (isDirectory_iff.mp there).2)
    have unread : store.bytes? w = none := by
      refine Option.eq_none_iff_forall_ne_some.mpr fun content held => ?_
      obtain ⟨location, _, leads, _⟩ := exists_leadsTo_of_read (bytes?_eq_some_iff.mp held)
      exact directory ⟨location, leads⟩
    rw [unread]
    refine Option.eq_none_iff_forall_ne_some.mpr fun content held => ?_
    obtain ⟨location, name, leads, stands⟩ :=
      exists_leadsTo_of_read (bytes?_eq_some_iff.mp held)
    exact stands (entryAt?_of_missing proper down directory rfl leads name)

/-- Making the directories of a settled document does not bring another document to light. -/
theorem Settled.opens (settled : store.Settled w) (opens : store.Opens w w' place) :
    store.readable w' = store.readable w ∧ store.Apart w' := by
  have made : (w.makeAlong ((pathStarts store.directory).take
      (pathStarts store.directory).length).reverse).1 = w' := by
    rw [List.take_length]
    exact congrArg Prod.fst opens.made
  constructor
  · exact readable_congr (made ▸ bytes?_makeAlong settled.proper settled.down _)
  · by_cases directory : ∃ location, w.LeadsTo store.directory location
    · obtain ⟨location, leads⟩ := directory
      obtain ⟨rfl, _⟩ := makeDirectories_of_leadsTo leads opens.made
      exact settled.apart
    · have down : ".." ∉ Path.pieces store.directory := down_directory
        (settled.down.resolve_right fun there => directory (isDirectory_iff.mp there).2)
      obtain ⟨_, name, _, target, _, _, _, leads, _, found⟩ :=
        exists_way_of_located opens.located opens.noDirectory
      have free := entryAt?_of_missing settled.proper down directory made leads name
      intro location path located
      rw [opens.located] at located
      rw [Except.ok.inj located, free] at found
      exact nomatch found

end BaselineStore

end EnergyAudit
