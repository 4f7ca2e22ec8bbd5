import EnergyAudit.Json.Parser
import EnergyAudit.Proofs.Json.Number
import EnergyAudit.Proofs.Json.Text

/-! # Documents read back

What is printed is read back as the same document.  Doubles are the exception: their text is read
in steps that round, so that a double may come back as one beside it, and infinities and NaN, which
have no text, come back as null. -/

namespace EnergyAudit

/-- Reading the text of the double gives the double again. -/
def Json.DoubleReadsBack (x : Float) : Prop :=
  lexToken? (floatText x) = some (.float x, [])

namespace Json

mutual

/-- Whether the document has a text that says all of it: nothing in it is unreadable, its whole
numbers have 64 bits, and its doubles come back as themselves. -/
def ReadsBack : Json → Prop
  | .null | .bool _ | .str _ => True
  | .int value => -(UInt64.size / 2 : Nat) ≤ value ∧ value < UInt64.size
  | .float x => DoubleReadsBack x
  | .arr items => ItemsReadBack items
  | .obj members => MembersReadBack members
  | .unreadable => False

/-- Whether each item reads back. -/
def ItemsReadBack : List Json → Prop
  | [] => True
  | item :: items => ReadsBack item ∧ ItemsReadBack items

/-- Whether the value of each member reads back. -/
def MembersReadBack : List (String × Json) → Prop
  | [] => True
  | (_, value) :: members => ReadsBack value ∧ MembersReadBack members

end

theorem membersReadBack_map {change : String × Json → String × Json}
    {members : List (String × Json)}
    (values : ∀ member, member.2.ReadsBack → (change member).2.ReadsBack)
    (readBack : MembersReadBack members) : MembersReadBack (members.map change) := by
  induction members with
  | nil => trivial
  | cons member members ih => exact ⟨values member readBack.1, ih readBack.2⟩

/-- The double that is read of the text of the double, if it has one. -/
def doubleReread? (x : Float) : Option Float :=
  match lexToken? (floatText x) with
  | some (.float y, []) => some y
  | _ => none

/-- Whether the text of the double can be read. -/
inductive DoubleLegible (x : Float) : Prop
  | double {y : Float} (read : lexToken? (floatText x) = some (.float y, []))
  | null (text : floatText x = "null".toList)

mutual

/-- What comes back of a document. -/
def reread : Json → Json
  | .null | .unreadable => .null
  | .bool value => .bool value
  | .int value => .int value
  | .float x => (doubleReread? x).elim .null .float
  | .str value => .str value
  | .arr items => .arr (rereadItems items)
  | .obj members => .obj (rereadMembers members)

def rereadItems : List Json → List Json
  | [] => []
  | item :: items => reread item :: rereadItems items

def rereadMembers : List (String × Json) → List (String × Json)
  | [] => []
  | (key, value) :: members => (key, reread value) :: rereadMembers members

end

mutual

/-- Whether the numbers of the document have texts that can be read. -/
def Legible : Json → Prop
  | .null | .bool _ | .str _ | .unreadable => True
  | .int value => -(UInt64.size / 2 : Nat) ≤ value ∧ value < UInt64.size
  | .float x => DoubleLegible x
  | .arr items => ItemsLegible items
  | .obj members => MembersLegible members

def ItemsLegible : List Json → Prop
  | [] => True
  | item :: items => Legible item ∧ ItemsLegible items

def MembersLegible : List (String × Json) → Prop
  | [] => True
  | (_, value) :: members => Legible value ∧ MembersLegible members

end

theorem doubleReread?_of_lexToken? {x y : Float}
    (read : lexToken? (floatText x) = some (.float y, [])) : doubleReread? x = some y := by
  rw [doubleReread?, read]

theorem doubleReadsBack_iff {x : Float} :
    DoubleReadsBack x ↔ (doubleReread? x).map Float.toModel = some x.toModel := by
  constructor
  · intro read
    rw [doubleReread?_of_lexToken? read]
    rfl
  · intro same
    obtain ⟨y, reread, model⟩ := Option.map_eq_some_iff.mp same
    obtain rfl : y = x := congrArg Float.ofModel model
    unfold doubleReread? at reread
    split at reread
    · rename_i read
      rwa [Option.some.inj reread] at read
    · contradiction

instance (x : Float) : Decidable (DoubleReadsBack x) :=
  decidable_of_iff _ doubleReadsBack_iff.symm

theorem doubleReadsBack_zero : DoubleReadsBack 0.0 := by decide +kernel

theorem doubleReread?_of_null {x : Float} (text : floatText x = "null".toList) :
    doubleReread? x = none := by
  rw [doubleReread?, text]
  rfl

mutual

theorem ReadsBack.legible : {document : Json} → document.ReadsBack → document.Legible
  | .null, _ | .bool _, _ | .str _, _ => trivial
  | .int _, readsBack => readsBack
  | .float _, readsBack => .double readsBack
  | .arr _, readsBack => ItemsReadBack.legible readsBack
  | .obj _, readsBack => MembersReadBack.legible readsBack

theorem ItemsReadBack.legible : {items : List Json} → ItemsReadBack items → ItemsLegible items
  | [], _ => trivial
  | _ :: _, readBack => ⟨readBack.1.legible, ItemsReadBack.legible readBack.2⟩

theorem MembersReadBack.legible :
    {members : List (String × Json)} → MembersReadBack members → MembersLegible members
  | [], _ => trivial
  | _ :: _, readBack => ⟨readBack.1.legible, MembersReadBack.legible readBack.2⟩

end

mutual

theorem ReadsBack.reread_eq : {document : Json} → document.ReadsBack → document.reread = document
  | .null, _ | .bool _, _ | .str _, _ | .int _, _ => rfl
  | .float x, readsBack => by
      rw [reread, doubleReread?_of_lexToken? readsBack]
      rfl
  | .arr _, readsBack => congrArg Json.arr (ItemsReadBack.reread_eq readsBack)
  | .obj _, readsBack => congrArg Json.obj (MembersReadBack.reread_eq readsBack)

theorem ItemsReadBack.reread_eq :
    {items : List Json} → ItemsReadBack items → rereadItems items = items
  | [], _ => rfl
  | _ :: _, readBack => by
      rw [rereadItems, readBack.1.reread_eq, ItemsReadBack.reread_eq readBack.2]

theorem MembersReadBack.reread_eq :
    {members : List (String × Json)} → MembersReadBack members → rereadMembers members = members
  | [], _ => rfl
  | _ :: _, readBack => by
      rw [rereadMembers, readBack.1.reread_eq, MembersReadBack.reread_eq readBack.2]

end

mutual

/-- The words that a document is printed in. -/
def tokensOf : Json → List Token
  | .null | .unreadable => [.null]
  | .bool value => [.bool value]
  | .int value => [.int value]
  | .float value => [.float value]
  | .str value => [.str value]
  | .arr [] => [.arrayOpen, .arrayClose]
  | .arr (item :: items) => .arrayOpen :: tokensOf item ++ itemTokens items
  | .obj [] => [.objectOpen, .objectClose]
  | .obj ((key, value) :: members) =>
      .objectOpen :: .str key :: .colon :: tokensOf value ++ memberTokens members

/-- The words of the items after the first one, and of the end of the list. -/
def itemTokens : List Json → List Token
  | [] => [.arrayClose]
  | item :: items => .comma :: tokensOf item ++ itemTokens items

/-- The words of the members after the first one, and of the end of the object. -/
def memberTokens : List (String × Json) → List Token
  | [] => [.objectClose]
  | (key, value) :: members =>
      .comma :: .str key :: .colon :: tokensOf value ++ memberTokens members

end

/-! ## From text to tokens -/

theorem tokens?_space {c : Char} (space : isSpace c = true) (rest : List Char) :
    tokens? (c :: rest) = tokens? rest := by
  rw [tokens?, if_pos space]

theorem tokens?_indent (depth : Nat) (rest : List Char) :
    tokens? (indent depth ++ rest) = tokens? rest := by
  rw [indent]
  induction 2 * depth with
  | zero => rfl
  | succ n ih => rw [List.replicate_succ, List.cons_append, tokens?_space rfl, ih]

theorem isSpace_of_lexToken? {c : Char} {rest after : List Char} {token : Token}
    (read : lexToken? (c :: rest) = some (token, after)) : isSpace c = false := by
  cases space : isSpace c with
  | false => rfl
  | true =>
      simp only [isSpace, Bool.or_eq_true, beq_iff_eq] at space
      rcases space with ((rfl | rfl) | rfl) | rfl <;> simp [lexToken?, lexUnsigned?] at read

theorem tokens?_of_lexToken? {s after : List Char} {token : Token}
    (read : lexToken? s = some (token, after)) :
    tokens? s = (tokens? after).map (token :: ·) := by
  cases s with
  | nil => simp [lexToken?, lexUnsigned?] at read
  | cons c rest =>
      rw [tokens?, if_neg (by simp [isSpace_of_lexToken? read])]
      split
      · simp_all
      · rename_i found
        rw [read, Option.some.injEq, Prod.mk.injEq] at found
        rw [found.1, found.2]

theorem tokens?_quote (s : String) (rest : List Char) :
    tokens? (quote s ++ rest) = (tokens? rest).map (.str s :: ·) :=
  tokens?_of_lexToken? (lexToken?_quote s rest)

theorem endsNumber_printItems (depth : Nat) (items : List Json) (rest : List Char) :
    EndsNumber (printItems depth items ++ rest) := by
  cases items with
  | nil => exact ⟨rfl, by decide, by decide, by decide⟩
  | cons item items => exact ⟨rfl, by decide, by decide, by decide⟩

theorem endsNumber_printMembers (depth : Nat) (members : List (String × Json))
    (rest : List Char) : EndsNumber (printMembers depth members ++ rest) := by
  cases members with
  | nil => exact ⟨rfl, by decide, by decide, by decide⟩
  | cons member members => exact ⟨rfl, by decide, by decide, by decide⟩

/-- What is read of the text of a double does not depend on what follows the number. -/
theorem tokens?_floatText {x : Float} (legible : DoubleLegible x) {rest : List Char}
    (ends : EndsNumber rest) :
    tokens? (floatText x ++ rest) = (tokens? rest).map (tokensOf (.reread (.float x)) ++ ·) := by
  cases legible with
  | double read =>
      rw [reread, doubleReread?_of_lexToken? read]
      exact tokens?_of_lexToken? (lexToken?_float_append ends read)
  | null text =>
      rw [reread, doubleReread?_of_null text, text]
      exact tokens?_of_lexToken? rfl

mutual

/-- The text of a document has the words of what comes back of it, wherever it stands. -/
theorem tokens?_print (depth : Nat) {rest : List Char} (ends : EndsNumber rest) :
    (document : Json) → document.Legible →
      tokens? (print depth document ++ rest) = (tokens? rest).map (tokensOf document.reread ++ ·)
  | .null, _ | .unreadable, _ => tokens?_of_lexToken? rfl
  | .bool true, _ => tokens?_of_lexToken? rfl
  | .bool false, _ => tokens?_of_lexToken? rfl
  | .int _, legible => tokens?_of_lexToken? (lexToken?_int ends legible.1 legible.2)
  | .float _, legible => tokens?_floatText legible ends
  | .str value, _ => tokens?_quote value rest
  | .arr [], _ => by
      have opened : tokens? ('[' :: ']' :: rest) = _ := tokens?_of_lexToken? rfl
      have closed : tokens? (']' :: rest) = _ := tokens?_of_lexToken? rfl
      rw [closed, Option.map_map] at opened
      exact opened
  | .arr (item :: items), legible => by
      have first := tokens?_print (depth + 1) (endsNumber_printItems depth items rest) item
        legible.1
      have others := tokens?_printItems depth rest items legible.2
      simp only [print, List.cons_append, List.append_assoc]
      rw [tokens?_of_lexToken? rfl, tokens?_space rfl, tokens?_indent, first, others]
      simp [reread, rereadItems, tokensOf, Function.comp_def]
  | .obj [], _ => by
      have opened : tokens? ('{' :: '}' :: rest) = _ := tokens?_of_lexToken? rfl
      have closed : tokens? ('}' :: rest) = _ := tokens?_of_lexToken? rfl
      rw [closed, Option.map_map] at opened
      exact opened
  | .obj ((key, value) :: members), legible => by
      have first := tokens?_print (depth + 1) (endsNumber_printMembers depth members rest) value
        legible.1
      have others := tokens?_printMembers depth rest members legible.2
      simp only [print, List.cons_append, List.append_assoc]
      rw [tokens?_of_lexToken? rfl, tokens?_space rfl, tokens?_indent, tokens?_quote,
        tokens?_of_lexToken? rfl, tokens?_space rfl, first, others]
      simp [reread, rereadMembers, tokensOf, Function.comp_def]

theorem tokens?_printItems (depth : Nat) (rest : List Char) :
    (items : List Json) → ItemsLegible items →
      tokens? (printItems depth items ++ rest) =
        (tokens? rest).map (itemTokens (rereadItems items) ++ ·)
  | [], _ => by
      have closed : tokens? (']' :: rest) = _ := tokens?_of_lexToken? rfl
      simp only [printItems, List.cons_append, List.append_assoc]
      rw [tokens?_space rfl, tokens?_indent]
      exact closed
  | item :: items, legible => by
      have first := tokens?_print (depth + 1) (endsNumber_printItems depth items rest) item
        legible.1
      have others := tokens?_printItems depth rest items legible.2
      simp only [printItems, List.cons_append, List.append_assoc]
      rw [tokens?_of_lexToken? rfl, tokens?_space rfl, tokens?_indent, first, others]
      simp [rereadItems, itemTokens, Function.comp_def]

theorem tokens?_printMembers (depth : Nat) (rest : List Char) :
    (members : List (String × Json)) → MembersLegible members →
      tokens? (printMembers depth members ++ rest) =
        (tokens? rest).map (memberTokens (rereadMembers members) ++ ·)
  | [], _ => by
      have closed : tokens? ('}' :: rest) = _ := tokens?_of_lexToken? rfl
      simp only [printMembers, List.cons_append, List.append_assoc]
      rw [tokens?_space rfl, tokens?_indent]
      exact closed
  | (key, value) :: members, legible => by
      have first := tokens?_print (depth + 1) (endsNumber_printMembers depth members rest) value
        legible.1
      have others := tokens?_printMembers depth rest members legible.2
      simp only [printMembers, List.cons_append, List.append_assoc]
      rw [tokens?_of_lexToken? rfl, tokens?_space rfl, tokens?_indent, tokens?_quote,
        tokens?_of_lexToken? rfl, tokens?_space rfl, first, others]
      simp [rereadMembers, memberTokens, Function.comp_def]

end

/-! ## From tokens to the document -/

/-- Members whose keys can be read, as the parser collects them. -/
def readable (members : List (String × Json)) : List (Option String × Json) :=
  members.map fun member => (some member.1, member.2)

theorem ofMembers_readable (members : List (String × Json)) :
    ofMembers (readable members) = .obj members := by
  have all (named : Option String × Json → Option (String × Json))
      (keeps : ∀ key value, named (some key, value) = some (key, value)) :
      (readable members).mapM named = some members := by
    induction members with
    | nil => rfl
    | cons member members ih =>
        rw [readable, List.map_cons, List.mapM_cons, ← readable, ih, keeps]
        rfl
  rw [ofMembers, all _ fun _ _ => rfl]

/-- A value may start here. -/
inductive Demand.WantsValue : Demand → Prop
  | value : WantsValue .value
  | valueOrClose : WantsValue .valueOrClose

namespace ParseState

theorem step_value {demand : Demand} (wants : demand.WantsValue) (stack : List Frame)
    {token : Token} (starts : token ≠ .arrayClose) :
    step ⟨stack, demand⟩ token = startValue stack token := by
  cases wants with
  | value => rfl
  | valueOrClose => simp only [step]

theorem run_cons (state : ParseState) (token : Token) (tokens : List Token) :
    state.run (token :: tokens) = (state.step token).bind (·.run tokens) := rfl

mutual

/-- The words of what comes back of a document, where a value may start, deliver it. -/
theorem run_tokensOf {demand : Demand} (wants : demand.WantsValue) (stack : List Frame)
    (tokens : List Token) :
    (document : Json) →
      run ⟨stack, demand⟩ (tokensOf document.reread ++ tokens) =
        (deliver document.reread stack).bind (·.run tokens)
  | .null | .unreadable | .bool _ | .int _ | .str _ => by
      simp only [reread, tokensOf, List.singleton_append, run_cons]
      rw [step_value wants stack (by nofun)]
      rfl
  | .float x => by
      cases known : doubleReread? x with
      | some y =>
          simp only [reread, known, Option.elim_some, tokensOf, List.singleton_append, run_cons]
          rw [step_value wants stack (by nofun)]
          rfl
      | none =>
          simp only [reread, known, Option.elim_none, tokensOf, List.singleton_append, run_cons]
          rw [step_value wants stack (by nofun)]
          rfl
  | .arr [] => by
      simp only [reread, rereadItems, tokensOf, List.cons_append, run_cons]
      rw [step_value wants stack (by nofun)]
      rfl
  | .arr (item :: items) => by
      have first := run_tokensOf .valueOrClose (.items [] :: stack)
        (itemTokens (rereadItems items) ++ tokens) item
      have others := run_itemTokens [item.reread] stack tokens items
      simp only [reread, rereadItems, tokensOf, List.cons_append, List.append_assoc, run_cons]
      rw [step_value wants stack (by nofun)]
      exact first.trans others
  | .obj [] => by
      simp only [reread, rereadMembers, tokensOf, List.cons_append, run_cons]
      rw [step_value wants stack (by nofun)]
      rfl
  | .obj ((key, value) :: members) => by
      have first := run_tokensOf .value (.member [] (some key) :: stack)
        (memberTokens (rereadMembers members) ++ tokens) value
      have others := run_memberTokens [(key, value.reread)] stack tokens members
      simp only [reread, rereadMembers, tokensOf, List.cons_append, List.append_assoc, run_cons]
      rw [step_value wants stack (by nofun)]
      exact first.trans others

theorem run_itemTokens (done : List Json) (stack : List Frame) (tokens : List Token) :
    (items : List Json) →
      run ⟨.items done.reverse :: stack, .commaOrClose⟩
          (itemTokens (rereadItems items) ++ tokens) =
        (deliver (.arr (done ++ rereadItems items)) stack).bind (·.run tokens)
  | [] => by
      have closed : step ⟨.items done.reverse :: stack, .commaOrClose⟩ .arrayClose =
          deliver (.arr done.reverse.reverse) stack := rfl
      simp only [rereadItems, itemTokens, List.singleton_append, run_cons, closed,
        List.reverse_reverse, List.append_nil]
  | item :: items => by
      have first := run_tokensOf .value (.items done.reverse :: stack)
        (itemTokens (rereadItems items) ++ tokens) item
      have others := run_itemTokens (done ++ [item.reread]) stack tokens items
      simp only [List.reverse_append, List.append_assoc] at others
      simp only [rereadItems, itemTokens, List.cons_append, List.append_assoc, run_cons]
      exact first.trans others

theorem run_memberTokens (done : List (String × Json)) (stack : List Frame)
    (tokens : List Token) :
    (members : List (String × Json)) →
      run ⟨.members (readable done).reverse :: stack, .commaOrClose⟩
          (memberTokens (rereadMembers members) ++ tokens) =
        (deliver (.obj (done ++ rereadMembers members)) stack).bind (·.run tokens)
  | [] => by
      have closed : step ⟨.members (readable done).reverse :: stack, .commaOrClose⟩ .objectClose =
          deliver (ofMembers (readable done).reverse.reverse) stack := rfl
      simp only [rereadMembers, memberTokens, List.singleton_append, run_cons, closed,
        List.reverse_reverse, ofMembers_readable, List.append_nil]
  | (key, value) :: members => by
      have first := run_tokensOf .value
        (.member (readable done).reverse (some key) :: stack)
        (memberTokens (rereadMembers members) ++ tokens) value
      have others := run_memberTokens (done ++ [(key, value.reread)]) stack tokens members
      simp only [readable, List.map_append, List.reverse_append, List.append_assoc] at others
      simp only [rereadMembers, memberTokens, List.cons_append, List.append_assoc, run_cons]
      exact first.trans others

end

end ParseState

/-! ## From text to the document -/

theorem tokens?_spaces {s : List Char} (spaces : ∀ c ∈ s, isSpace c = true) :
    tokens? s = some [] := by
  induction s with
  | nil => simp [tokens?]
  | cons c s ih =>
      rw [tokens?_space (spaces c List.mem_cons_self)]
      exact ih fun d member => spaces d (List.mem_cons_of_mem c member)

theorem endsNumber_of_spaces {s : List Char} (spaces : ∀ c ∈ s, isSpace c = true) :
    EndsNumber s := by
  cases s with
  | nil => trivial
  | cons c s =>
      have space := spaces c List.mem_cons_self
      simp only [isSpace, Bool.or_eq_true, beq_iff_eq] at space
      rcases space with ((rfl | rfl) | rfl) | rfl <;> exact ⟨rfl, by decide, by decide, by decide⟩

/-- The text of a document, and spaces after it, are read as what comes back of it. -/
theorem parse?_render_legible {document : Json} {spaces : String} (legible : document.Legible)
    (spacesOnly : spaces.toList.all isSpace = true) :
    parse? (document.render ++ spaces) = some document.reread := by
  have blank := List.all_eq_true.mp spacesOnly
  have text : (document.render ++ spaces).toList = print 0 document ++ spaces.toList := by
    simp [render]
  have tokens := tokens?_print 0 (endsNumber_of_spaces blank) document legible
  have delivered := ParseState.run_tokensOf .value [] [] document
  rw [List.append_nil] at delivered
  rw [tokens?_spaces blank, Option.map_some, List.append_nil] at tokens
  simp only [parse?, text, tokens, Option.bind_eq_bind, Option.bind_some, ParseState.initial,
    delivered]
  rfl

theorem parse?_render {document : Json} {spaces : String} (readsBack : document.ReadsBack)
    (spacesOnly : spaces.toList.all isSpace = true) :
    parse? (document.render ++ spaces) = some document := by
  rw [parse?_render_legible readsBack.legible spacesOnly, readsBack.reread_eq]

theorem parse?_render_alone {document : Json} (readsBack : document.ReadsBack) :
    parse? document.render = some document := by
  have read : parse? (document.render ++ "") = some document := parse?_render readsBack rfl
  rwa [String.append_empty] at read

/-! ## Documents of any doubles

What comes back of a document has the members of the document, under the same keys, and can be read
in all its parts. -/

theorem any_rereadMembers (members : List (String × Json)) (key : String) :
    (rereadMembers members).any (·.1 == key) = members.any (·.1 == key) := by
  induction members with
  | nil => rfl
  | cons member members ih => simp [rereadMembers, ih]

mutual

theorem merged_reread : (document : Json) → document.reread.merged = document.merged.reread
  | .null | .unreadable | .bool _ | .int _ | .str _ => rfl
  | .float x => by
      cases known : doubleReread? x <;> simp [reread, merged, known]
  | .arr items => congrArg Json.arr (mergedItems_reread items)
  | .obj members => congrArg Json.obj (mergedMembers_reread members)

theorem mergedItems_reread :
    (items : List Json) → mergedItems (rereadItems items) = rereadItems (mergedItems items)
  | [] => rfl
  | item :: items => by
      rw [rereadItems, mergedItems, mergedItems, rereadItems, merged_reread item,
        mergedItems_reread items]

theorem mergedMembers_reread :
    (members : List (String × Json)) →
      mergedMembers (rereadMembers members) = rereadMembers (mergedMembers members)
  | [] => rfl
  | (key, value) :: members => by
      simp only [rereadMembers, mergedMembers, mergedMembers_reread members, any_rereadMembers,
        merged_reread value]
      split <;> rfl

end

mutual

theorem isReadable_reread (depth : Nat) :
    (document : Json) → document.isReadable depth = true → document.reread.isReadable depth = true
  | .null, _ | .unreadable, _ | .bool _, _ | .int _, _ | .str _, _ => rfl
  | .float x, _ => by
      cases known : doubleReread? x <;> simp [reread, isReadable, known]
  | .arr items, readable => by
      simp only [isReadable, reread, Bool.and_eq_true] at readable ⊢
      exact ⟨readable.1, areReadable_reread (depth - 1) items readable.2⟩
  | .obj members, readable => by
      simp only [isReadable, reread, Bool.and_eq_true] at readable ⊢
      exact ⟨readable.1, membersReadable_reread (depth - 1) members readable.2⟩

theorem areReadable_reread (depth : Nat) :
    (items : List Json) → areReadable depth items = true →
      areReadable depth (rereadItems items) = true
  | [], _ => rfl
  | item :: items, readable => by
      simp only [areReadable, rereadItems, Bool.and_eq_true] at readable ⊢
      exact ⟨isReadable_reread depth item readable.1, areReadable_reread depth items readable.2⟩

theorem membersReadable_reread (depth : Nat) :
    (members : List (String × Json)) → membersReadable depth members = true →
      membersReadable depth (rereadMembers members) = true
  | [], _ => rfl
  | (_, value) :: members, readable => by
      simp only [membersReadable, rereadMembers, Bool.and_eq_true] at readable ⊢
      exact ⟨isReadable_reread depth value readable.1,
        membersReadable_reread depth members readable.2⟩

end

/-- The text of a document that can be read is read as a whole. -/
theorem parseMerged?_render_legible {document : Json} {spaces : String} (legible : document.Legible)
    (readable : document.isReadable maxDepth = true)
    (spacesOnly : spaces.toList.all isSpace = true) :
    parseMerged? (document.render ++ spaces) = some document.merged.reread := by
  simp [parseMerged?, parse?_render_legible legible spacesOnly,
    isReadable_reread maxDepth document readable, merged_reread]

end Json

end EnergyAudit
