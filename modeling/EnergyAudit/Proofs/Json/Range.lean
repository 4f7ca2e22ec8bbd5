import EnergyAudit.Json.Parser
import EnergyAudit.Proofs.Double.Range

/-! # Numbers of a document in range

The significand of a number has 64 bits, and a number beyond the range of doubles is no value.  So
each double in a document that was read is finite, and each whole number has 64 bits. -/

namespace EnergyAudit.Json

/-! ## Tokens -/

/-- Whether the number that the token may stand for is in range. -/
def Token.InRange : Token → Prop
  | .int value => value.natAbs < UInt64.size
  | .float x => x.isFinite = true
  | _ => True

theorem appendWhole_lt {significand : Nat} (digits : List Char)
    (bound : significand < significandBound) :
    (appendWhole significand digits).1 < significandBound := by
  induction digits generalizing significand with
  | nil => exact bound
  | cons c digits ih =>
      simp only [appendWhole]
      split
      case isTrue next => exact ih next
      case isFalse => exact bound

theorem appendFraction_lt {significand : Nat} (digits : List Char)
    (bound : significand < significandBound) :
    (appendFraction significand digits).1 < significandBound := by
  induction digits generalizing significand with
  | nil => exact bound
  | cons c digits ih =>
      simp only [appendFraction]
      split
      case isTrue next => exact ih next
      case isFalse => exact bound

theorem ScaledNumber.significand_ofDigits_lt (whole fraction : List Char) (power : Int) :
    (ScaledNumber.ofDigits whole fraction power).significand < significandBound :=
  appendFraction_lt fraction (appendWhole_lt whole (by decide))

theorem ScaledNumber.isFinite_of_toDouble? {n : ScaledNumber} {x : Float}
    (bound : n.significand < significandBound) (read : n.toDouble? = some x) :
    x.isFinite = true := by
  have significand := Double.isFinite_nearestDouble (Nat.lt_trans bound (by decide))
  unfold toDouble? at read
  split at read
  · exact Double.isFinite_grow? significand read
  · obtain rfl := Option.some.inj read
    exact Double.isFinite_shrink significand (Nat.succ_pos _)

theorem inRange_scaledToken {n : ScaledNumber} (negative : Bool)
    (bound : n.significand < significandBound) : (scaledToken negative n).InRange := by
  unfold scaledToken
  split
  case h_1 x read =>
      have finite := ScaledNumber.isFinite_of_toDouble? bound read
      cases negative with
      | true => exact Double.isFinite_neg finite
      | false => exact finite
  case h_2 => trivial

theorem inRange_wholeToken (negative : Bool) (digits : List Char) :
    (wholeToken negative digits).InRange := by
  have scaled := inRange_scaledToken negative (ScaledNumber.significand_ofDigits_lt digits [] 0)
  have size : UInt64.size = 18446744073709551616 := rfl
  cases negative with
  | true =>
      simp only [wholeToken, if_true]
      split
      case isTrue fits =>
          have bound := of_decide_eq_true (Bool.and_eq_true_iff.mp fits).1
          change (-(Decimal.natOfDigits digits : Int)).natAbs < UInt64.size
          omega
      case isFalse => exact scaled
  | false =>
      simp only [wholeToken, Bool.false_eq_true, if_false]
      split
      case isTrue fits =>
          have bound := of_decide_eq_true (Bool.and_eq_true_iff.mp fits).1
          change (Decimal.natOfDigits digits : Int).natAbs < UInt64.size
          omega
      case isFalse => exact scaled

theorem inRange_numberToken (negative : Bool) (whole : List Char) (fraction : Option (List Char))
    (power : Option Int) : (numberToken negative whole fraction power).InRange := by
  unfold numberToken
  split
  · exact inRange_wholeToken negative whole
  · exact inRange_scaledToken negative (ScaledNumber.significand_ofDigits_lt ..)

theorem inRange_of_lexUnsigned? {negative : Bool} {s rest : List Char} {token : Token}
    (read : lexUnsigned? negative s = some (token, rest)) : token.InRange := by
  simp only [lexUnsigned?] at read
  split at read
  · contradiction
  · split at read
    · contradiction
    · split at read
      · contradiction
      · simp only [Option.some.injEq, Prod.mk.injEq] at read
        obtain ⟨rfl, _⟩ := read
        exact inRange_numberToken ..

theorem inRange_stringToken (text : List (Option Char)) : (stringToken text).InRange := by
  unfold stringToken
  split <;> trivial

theorem inRange_of_lexToken? {s rest : List Char} {token : Token}
    (read : lexToken? s = some (token, rest)) : token.InRange := by
  unfold lexToken? at read
  split at read
  case h_10 tail =>
      simp only [Option.map_eq_some_iff, Prod.mk.injEq] at read
      obtain ⟨⟨text, _⟩, _, rfl, _⟩ := read
      exact inRange_stringToken text
  case h_11 tail => exact inRange_of_lexUnsigned? read
  case h_12 => exact inRange_of_lexUnsigned? read
  all_goals
    simp only [Option.some.injEq, Prod.mk.injEq] at read
    obtain ⟨rfl, _⟩ := read
    trivial

theorem inRange_of_tokens? {s : List Char} {tokens : List Token}
    (read : tokens? s = some tokens) : ∀ token ∈ tokens, token.InRange := by
  induction s using tokens?.induct generalizing tokens with
  | case1 =>
      rw [tokens?] at read
      obtain rfl := Option.some.inj read
      intro token member
      contradiction
  | case2 c s space ih =>
      rw [tokens?, if_pos space] at read
      exact ih read
  | case3 c s notSpace none =>
      rw [tokens?, if_neg notSpace] at read
      split at read
      · contradiction
      · simp_all
  | case4 c s notSpace token rest first ih =>
      rw [tokens?, if_neg notSpace] at read
      split at read
      · contradiction
      · rename_i found
        rw [first, Option.some.injEq, Prod.mk.injEq] at found
        obtain ⟨rfl, rfl⟩ := found
        obtain ⟨later, others, rfl⟩ := Option.map_eq_some_iff.mp read
        intro t member
        rcases List.mem_cons.mp member with rfl | member
        · exact inRange_of_lexToken? first
        · exact ih others t member

/-! ## Documents -/

mutual

/-- Whether all numbers of the document are in range. -/
def InRange : Json → Prop
  | .int value => value.natAbs < UInt64.size
  | .float x => x.isFinite = true
  | .arr items => ItemsInRange items
  | .obj members => MembersInRange members
  | .null | .bool _ | .str _ | .unreadable => True

def ItemsInRange : List Json → Prop
  | [] => True
  | item :: items => InRange item ∧ ItemsInRange items

def MembersInRange : List (String × Json) → Prop
  | [] => True
  | (_, value) :: members => InRange value ∧ MembersInRange members

end

theorem itemsInRange_iff {items : List Json} :
    ItemsInRange items ↔ ∀ item ∈ items, item.InRange := by
  induction items with
  | nil => exact ⟨fun _ => nofun, fun _ => trivial⟩
  | cons item items ih => rw [ItemsInRange, ih, List.forall_mem_cons]

theorem membersInRange_iff {members : List (String × Json)} :
    MembersInRange members ↔ ∀ member ∈ members, member.2.InRange := by
  induction members with
  | nil => exact ⟨fun _ => nofun, fun _ => trivial⟩
  | cons member members ih => rw [MembersInRange, ih, List.forall_mem_cons]

theorem map_of_mapM {α β : Type} {f : α → Option β} {items : List α} {results : List β}
    (whole : items.mapM f = some results) : items.map f = results.map some := by
  induction items generalizing results with
  | nil =>
      obtain rfl := Option.some.inj whole
      rfl
  | cons item items ih =>
      rw [List.mapM_cons] at whole
      obtain ⟨first, firstRead, whole⟩ := Option.bind_eq_some_iff.mp whole
      obtain ⟨rest, restRead, whole⟩ := Option.bind_eq_some_iff.mp whole
      obtain rfl := Option.some.inj whole
      rw [List.map_cons, List.map_cons, firstRead, ih restRead]

/-- What comes of a list comes of its items. -/
theorem exists_of_mem_mapM {α β : Type} {f : α → Option β} {items : List α} {results : List β}
    {result : β} (whole : items.mapM f = some results) (member : result ∈ results) :
    ∃ item ∈ items, f item = some result := by
  have listed : some result ∈ items.map f := by
    rw [map_of_mapM whole]
    exact List.mem_map_of_mem member
  exact List.mem_map.mp listed

theorem inRange_ofMembers {members : List (Option String × Json)}
    (inRange : ∀ member ∈ members, member.2.InRange) : (ofMembers members).InRange := by
  unfold ofMembers
  split
  case h_1 named read =>
      apply membersInRange_iff.mpr
      intro member found
      obtain ⟨⟨key, value⟩, present, same⟩ := exists_of_mem_mapM read found
      obtain ⟨_, _, rfl⟩ := Option.map_eq_some_iff.mp same
      exact inRange _ present
  case h_2 => trivial

/-- Whether the numbers of what an open container holds are in range. -/
def Frame.InRange : Frame → Prop
  | .items done => ∀ item ∈ done, item.InRange
  | .members done | .member done _ => ∀ member ∈ done, member.2.InRange

def Demand.InRange : Demand → Prop
  | .nothing document => document.InRange
  | _ => True

namespace ParseState

/-- Whether the numbers that were read up to the state are in range. -/
structure InRange (state : ParseState) : Prop where
  stack : ∀ frame ∈ state.stack, frame.InRange
  demand : state.demand.InRange

theorem inRange_initial : initial.InRange := ⟨nofun, trivial⟩

theorem inRange_deliver {value : Json} {stack : List Frame} {next : ParseState}
    (delivered : deliver value stack = some next) (inRange : value.InRange)
    (outer : ∀ frame ∈ stack, frame.InRange) : next.InRange := by
  cases stack with
  | nil =>
      obtain rfl := Option.some.inj delivered
      exact ⟨nofun, inRange⟩
  | cons frame stack =>
      obtain ⟨inner, others⟩ := List.forall_mem_cons.mp outer
      cases frame with
      | items done =>
          obtain rfl := Option.some.inj delivered
          have grown : Frame.InRange (.items (value :: done)) :=
            List.forall_mem_cons.mpr ⟨inRange, inner⟩
          exact ⟨List.forall_mem_cons.mpr ⟨grown, others⟩, trivial⟩
      | member done key =>
          obtain rfl := Option.some.inj delivered
          have grown : Frame.InRange (.members ((key, value) :: done)) :=
            List.forall_mem_cons.mpr ⟨inRange, inner⟩
          exact ⟨List.forall_mem_cons.mpr ⟨grown, others⟩, trivial⟩
      | members done => contradiction

theorem inRange_startValue {stack : List Frame} {token : Token} {next : ParseState}
    (started : startValue stack token = some next) (inRange : token.InRange)
    (outer : ∀ frame ∈ stack, frame.InRange) : next.InRange := by
  cases token with
  | null | bool | str | halvedString | boundlessNumber =>
      exact inRange_deliver started trivial outer
  | int value | float x => exact inRange_deliver started inRange outer
  | arrayOpen | objectOpen =>
      obtain rfl := Option.some.inj started
      exact ⟨List.forall_mem_cons.mpr ⟨nofun, outer⟩, trivial⟩
  | arrayClose | objectClose | colon | comma => contradiction

theorem inRange_close {stack : List Frame} {token : Token} {next : ParseState}
    (closed : close stack token = some next) (outer : ∀ frame ∈ stack, frame.InRange) :
    next.InRange := by
  unfold close at closed
  split at closed
  case h_1 done stack =>
      obtain ⟨inner, others⟩ := List.forall_mem_cons.mp outer
      apply inRange_deliver closed _ others
      apply itemsInRange_iff.mpr
      intro item member
      exact inner item (List.mem_reverse.mp member)
  case h_2 done stack =>
      obtain ⟨inner, others⟩ := List.forall_mem_cons.mp outer
      apply inRange_deliver closed _ others
      apply inRange_ofMembers
      intro member found
      exact inner member (List.mem_reverse.mp found)
  case h_3 => contradiction

theorem inRange_startMember {done : List (Option String × Json)} {stack : List Frame}
    {token : Token} {next : ParseState} (started : startMember done stack token = some next)
    (outer : ∀ frame ∈ .members done :: stack, frame.InRange) : next.InRange := by
  have same : ∀ key, ∀ frame ∈ Frame.member done key :: stack, frame.InRange := by
    intro key
    obtain ⟨inner, others⟩ := List.forall_mem_cons.mp outer
    exact List.forall_mem_cons.mpr ⟨inner, others⟩
  unfold startMember at started
  split at started
  · obtain rfl := Option.some.inj started
    exact ⟨same _, trivial⟩
  · obtain rfl := Option.some.inj started
    exact ⟨same _, trivial⟩
  · contradiction

theorem inRange_step {state next : ParseState} {token : Token}
    (stepped : state.step token = some next) (before : state.InRange) (inRange : token.InRange) :
    next.InRange := by
  obtain ⟨stack, demand⟩ := state
  have outer : ∀ frame ∈ stack, frame.InRange := before.stack
  simp only [step] at stepped
  split at stepped
  · exact inRange_startValue stepped inRange outer
  · exact inRange_close stepped outer
  · exact inRange_startValue stepped inRange outer
  · exact inRange_startMember stepped outer
  · exact inRange_close stepped outer
  · exact inRange_startMember stepped outer
  · obtain rfl := Option.some.inj stepped
    exact ⟨outer, trivial⟩
  · obtain rfl := Option.some.inj stepped
    exact ⟨outer, trivial⟩
  · obtain rfl := Option.some.inj stepped
    exact ⟨outer, trivial⟩
  · exact inRange_close stepped outer
  · contradiction

theorem inRange_run {state last : ParseState} {tokens : List Token}
    (ran : state.run tokens = some last) (before : state.InRange)
    (inRange : ∀ token ∈ tokens, token.InRange) : last.InRange := by
  induction tokens generalizing state with
  | nil =>
      obtain rfl := Option.some.inj ran
      exact before
  | cons token tokens ih =>
      obtain ⟨next, stepped, rest⟩ := Option.bind_eq_some_iff.mp ran
      have after := inRange_step stepped before (inRange token List.mem_cons_self)
      exact ih rest after fun later member => inRange later (List.mem_cons_of_mem _ member)

end ParseState

theorem inRange_of_parse? {text : String} {document : Json} (read : parse? text = some document) :
    document.InRange := by
  obtain ⟨tokens, tokensRead, read⟩ := Option.bind_eq_some_iff.mp read
  obtain ⟨state, ran, read⟩ := Option.bind_eq_some_iff.mp read
  have inRange := ParseState.inRange_run ran ParseState.inRange_initial
    (inRange_of_tokens? tokensRead)
  have demanded := inRange.demand
  split at read
  case h_1 whole demand =>
      obtain rfl := Option.some.inj read
      rw [demand] at demanded
      exact demanded
  case h_2 => contradiction

mutual

theorem inRange_merged : (document : Json) → document.InRange → document.merged.InRange
  | .null, _ | .bool _, _ | .str _, _ | .unreadable, _ => trivial
  | .int _, inRange | .float _, inRange => inRange
  | .arr items, inRange => itemsInRange_mergedItems items inRange
  | .obj members, inRange => membersInRange_mergedMembers members inRange

theorem itemsInRange_mergedItems :
    (items : List Json) → ItemsInRange items → ItemsInRange (mergedItems items)
  | [], _ => trivial
  | item :: items, inRange =>
      ⟨inRange_merged item inRange.1, itemsInRange_mergedItems items inRange.2⟩

theorem membersInRange_mergedMembers :
    (members : List (String × Json)) → MembersInRange members →
      MembersInRange (mergedMembers members)
  | [], _ => trivial
  | (key, value) :: members, inRange => by
      have rest := membersInRange_mergedMembers members inRange.2
      simp only [mergedMembers]
      split
      · exact rest
      · exact ⟨inRange_merged value inRange.1, rest⟩

end

theorem inRange_of_parseMerged? {text : String} {document : Json}
    (read : parseMerged? text = some document) : document.InRange := by
  obtain ⟨whole, wholeRead, read⟩ := Option.bind_eq_some_iff.mp read
  split at read
  · obtain rfl := Option.some.inj read
    exact inRange_merged whole (inRange_of_parse? wholeRead)
  · contradiction

end EnergyAudit.Json
