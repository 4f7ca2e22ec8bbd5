import EnergyAudit.Files.Path
import EnergyAudit.Proofs.Files.Way
import EnergyAudit.Proofs.Text.Lines

/-! # Components of paths

A path that is made of the components of another one, or of the first of them, has the same names
between its slashes, but for those that do not matter.

Paths are ordered by their components, the first ones first.  The order is strict, and of two paths
that are not the same one stands before the other. -/

namespace EnergyAudit.Path

theorem component?_text {piece : String} {component : Component}
    (stands : component? piece = some component) : component.text = piece := by
  unfold component? at stands
  split at stands
  · contradiction
  · split at stands
    · rename_i parent
      cases stands
      exact (beq_iff_eq.mp parent).symm
    · cases stands
      rfl

theorem component?_isSome (piece : String) : (component? piece).isSome = matters piece := by
  unfold component? matters
  split
  · rename_i idle
    rw [idle]
    rfl
  · rename_i matters
    rw [Bool.eq_false_iff.mpr matters]
    split <;> rfl

theorem component?_eq_name {name : String} (matters : matters name = true)
    (noParent : name ≠ "..") : component? name = some (.name name) := by
  have idle : ¬ (name == "" || name == ".") = true := by
    simpa [Path.matters] using matters
  rw [component?, if_neg idle, if_neg (by simpa using noParent)]

/-- The components of a path and the strings between its slashes are the same names, but for those
that do not matter. -/
theorem filter_components (path : String) :
    ((components path).map Component.text).filter matters = (pieces path).filter matters := by
  have named : ∀ names : List String,
      (names.filterMap component?).map Component.text = names.filter matters := by
    intro names
    induction names with
    | nil => rfl
    | cons name names ih =>
        rw [List.filterMap_cons]
        have := component?_isSome name
        cases stands : component? name with
        | none => simp_all
        | some component => simp_all [component?_text stands]
  simp only [components, List.map_append, List.filter_append, named, List.filter_filter,
    Bool.and_self]
  split
  · rfl
  · split <;> rfl

theorem slash_not_mem_pieces {path piece : String} (member : piece ∈ pieces path) :
    '/' ∉ piece.toList := by
  obtain ⟨chars, found, rfl⟩ := List.mem_map.mp member
  rw [String.toList_ofList]
  exact Text.not_mem_of_mem_splitOn found

theorem slash_not_mem_components {path : String} {component : Component}
    (member : component ∈ components path) : '/' ∉ component.text.toList := by
  simp only [components, List.mem_append, List.mem_filterMap] at member
  rcases member with start | ⟨piece, found, stands⟩
  · split at start
    · simp_all [Component.text]
    · split at start <;> simp_all [Component.text]
  · rw [component?_text stands]
    exact slash_not_mem_pieces found

theorem pieces_intercalate {names : List String} (some : names ≠ [])
    (inside : ∀ name ∈ names, '/' ∉ name.toList) : pieces ("/".intercalate names) = names := by
  have cut : Text.splitOn '/' (['/'].intercalate (names.map String.toList)) = _ :=
    Text.splitOn_intercalate (by simpa using some) (by simpa using inside)
  have text : ("/".intercalate names).toList = ['/'].intercalate (names.map String.toList) := by
    rw [String.toList_intercalate]
    rfl
  rw [pieces, text, cut, List.map_map]
  simp [Function.comp_def]

/-- The names between the slashes of a path that is made of components are those of the
components. -/
theorem filter_ofComponents {parts : List Component} (some : parts ≠ [])
    (inside : ∀ component ∈ parts, '/' ∉ component.text.toList) :
    (pieces (ofComponents parts)).filter matters =
      (parts.map Component.text).filter matters := by
  unfold ofComponents
  split
  · rename_i root
    rw [beq_iff_eq.mp root]
    decide
  · rw [pieces_intercalate (by simpa using some) (by simpa using inside)]

theorem head?_components (path : String) :
    (components path).head? = some .root ↔ isAbsolute path = true := by
  have unrooted : ∀ piece, component? piece ≠ some .root := by
    intro piece stands
    have text := component?_text stands
    subst text
    contradiction
  unfold components
  split
  · simp_all
  · rename_i relative
    simp only [relative, Bool.false_eq_true, iff_false]
    split
    · simp
    · rw [List.nil_append, List.head?_filterMap]
      intro found
      obtain ⟨piece, _, stands⟩ := List.exists_of_findSome?_eq_some found
      exact unrooted piece stands

theorem text_ne_empty {path : String} {component : Component}
    (member : component ∈ components path) (noRoot : component ≠ .root) :
    component.text ≠ "" := by
  simp only [components, List.mem_append, List.mem_filterMap] at member
  rcases member with start | ⟨piece, _, stands⟩
  · split at start
    · simp_all
    · split at start
      · rw [List.mem_singleton.mp start]
        decide
      · contradiction
  · have matters : matters piece = true := by rw [← component?_isSome, stands]; rfl
    rw [component?_text stands]
    rintro rfl
    contradiction

/-- A path that is made of the first components of another one starts where that one starts. -/
theorem isAbsolute_ofComponents {path : String} {parts : List Component} (some : parts ≠ [])
    (starts : parts <+: components path) : isAbsolute (ofComponents parts) = isAbsolute path := by
  obtain ⟨rest, whole⟩ := starts
  cases parts with
  | nil => exact absurd rfl some
  | cons first parts =>
      have head : (components path).head? = Option.some first := by rw [← whole]; rfl
      have member : first ∈ components path := List.mem_of_head? head
      have text (noRoot : (first :: parts == [.root]) = false) :
          (ofComponents (first :: parts)).toList =
            ['/'].intercalate (first.text.toList :: parts.map (·.text.toList)) := by
        simp [ofComponents, noRoot, String.toList_intercalate, Function.comp_def]
      by_cases root : first = .root
      · subst root
        rw [(head?_components path).mp head]
        cases parts with
        | nil => decide
        | cons second parts =>
            rw [isAbsolute, text (by simp), List.map_cons, List.intercalate_cons_cons]
            rfl
      · have relative : isAbsolute path = false := by
          rw [Bool.eq_false_iff, ne_eq, ← head?_components, head]
          simpa using root
        have slash := slash_not_mem_components member
        rw [relative, isAbsolute, text (by simp [root])]
        cases chars : first.text.toList with
        | nil => exact absurd (String.toList_eq_nil_iff.mp chars) (text_ne_empty member root)
        | cons c chars' =>
            rw [chars] at slash
            have other : c ≠ '/' := by
              rintro rfl
              exact slash List.mem_cons_self
            cases parts with
            | nil => simpa using other
            | cons second parts =>
                rw [List.map_cons, List.intercalate_cons_cons]
                simpa using other

/-- A path that ends in a name lies in the directory that the names before it lead to. -/
theorem components_of_pieces {path name : String} {before : List String}
    (cut : pieces path = before ++ [name]) (matters : matters name = true) (noParent : name ≠ "..") :
    ∃ parts, components path = parts ++ [.name name] ∧ parts = (components path).dropLast := by
  have stands := component?_eq_name matters noParent
  have ends : ∃ parts, components path = parts ++ [.name name] := by
    simp only [components, cut, List.filterMap_append, List.filterMap_cons, stands,
      List.filterMap_nil, ← List.append_assoc]
    exact ⟨_, rfl⟩
  obtain ⟨parts, whole⟩ := ends
  exact ⟨parts, whole, by rw [whole, List.dropLast_concat]⟩

end EnergyAudit.Path

namespace EnergyAudit.Path

namespace Component

variable {a b c : Component}

theorem before_iff : a.before b = true ↔
    a.rank < b.rank ∨ ∃ text other, a = name text ∧ b = name other ∧ text < other := by
  cases a <;> cases b <;> simp [before, rank]

theorem before_irrefl (a : Component) : a.before a = false := by
  cases a with
  | name text => exact decide_eq_false (String.lt_irrefl text)
  | root => rfl
  | here => rfl
  | parent => rfl

theorem before_trans (first : a.before b = true) (second : b.before c = true) :
    a.before c = true := by
  rw [before_iff] at first second ⊢
  rcases first with below | ⟨text, other, rfl, rfl, below⟩
  · rcases second with above | ⟨text, other, rfl, rfl, _⟩
    · exact .inl (Nat.lt_trans below above)
    · exact .inl below
  · rcases second with above | ⟨text', other', same, rfl, above⟩
    · exact .inl above
    · obtain rfl := name.inj same
      exact .inr ⟨text, other', rfl, rfl, String.lt_trans below above⟩

theorem eq_or_names_of_rank (same : a.rank = b.rank) :
    a = b ∨ ∃ text other, a = name text ∧ b = name other := by
  cases a <;> cases b <;> simp_all [rank]

theorem before_or_before (different : a ≠ b) : a.before b = true ∨ b.before a = true := by
  rw [before_iff, before_iff]
  rcases Nat.lt_trichotomy a.rank b.rank with below | same | above
  · exact .inl (.inl below)
  · obtain ⟨text, other, rfl, rfl⟩ := (eq_or_names_of_rank same).resolve_left different
    by_cases below : text < other
    · exact .inl (.inr ⟨text, other, rfl, rfl, below⟩)
    · refine .inr (.inr ⟨other, text, rfl, rfl, Decidable.byContradiction fun above => ?_⟩)
      exact different (congrArg name
        (String.le_antisymm (String.not_lt.mp above) (String.not_lt.mp below)))
  · exact .inr (.inl above)

end Component

variable {a b : Component} {as bs cs : List Component} {p q r : String}

theorem componentsBefore_cons_iff : componentsBefore (a :: as) (b :: bs) = true ↔
    a.before b = true ∨ a = b ∧ componentsBefore as bs = true := by
  by_cases same : a = b
  · subst same
    simp [componentsBefore, Component.before_irrefl]
  · simp [componentsBefore, same]

theorem componentsBefore_irrefl (as : List Component) : componentsBefore as as = false := by
  induction as with
  | nil => rfl
  | cons a as ih => simp [componentsBefore, ih]

theorem componentsBefore_trans (first : componentsBefore as bs = true)
    (second : componentsBefore bs cs = true) : componentsBefore as cs = true := by
  induction as generalizing bs cs with
  | nil =>
      cases cs with
      | nil => cases bs <;> exact nomatch second
      | cons c cs => rfl
  | cons a as ih =>
      cases bs with
      | nil => exact nomatch first
      | cons b bs =>
          cases cs with
          | nil => exact nomatch second
          | cons c cs =>
              rw [componentsBefore_cons_iff] at first second ⊢
              rcases first with before | ⟨rfl, first⟩ <;> rcases second with after | ⟨rfl, second⟩
              · exact .inl (Component.before_trans before after)
              · exact .inl before
              · exact .inl after
              · exact .inr ⟨rfl, ih first second⟩

theorem componentsBefore_or_componentsBefore (different : as ≠ bs) :
    componentsBefore as bs = true ∨ componentsBefore bs as = true := by
  induction as generalizing bs with
  | nil =>
      cases bs with
      | nil => exact absurd rfl different
      | cons b bs => exact .inl rfl
  | cons a as ih =>
      cases bs with
      | nil => exact .inr rfl
      | cons b bs =>
          rw [componentsBefore_cons_iff, componentsBefore_cons_iff]
          by_cases same : a = b
          · subst same
            have rest : as ≠ bs := fun same => different (same ▸ rfl)
            exact (ih rest).imp (.inr ⟨rfl, ·⟩) (.inr ⟨rfl, ·⟩)
          · exact (Component.before_or_before same).imp .inl .inl

/-! ## Paths -/

theorem same_iff : same p q = true ↔ components p = components q := beq_iff_eq

theorem before_trans (first : before p q = true) (second : before q r = true) :
    before p r = true :=
  componentsBefore_trans first second

theorem before_or_before (different : same p q = false) :
    before p q = true ∨ before q p = true :=
  componentsBefore_or_componentsBefore (beq_eq_false_iff_ne.mp different)

theorem not_same_of_before (earlier : before p q = true) : components p ≠ components q := by
  intro same
  rw [before, same, componentsBefore_irrefl] at earlier
  exact nomatch earlier

end EnergyAudit.Path
