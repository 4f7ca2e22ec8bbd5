import EnergyAudit.Proofs.Calibration.Method

/-! # How a benchmark deals with its runtime

A runtime that cannot be prepared is left alone.  One that is prepared multiplies, up to the first
failure, and is then released once.  The calls that a benchmark lists are those that the runtime
receives: a runtime that keeps a record of them has the same list in the end.  Where the clock never
shows that the time is over, the runtime goes on multiplying without a failure. -/

namespace EnergyAudit

variable {σ : Type}

/-! ## A runtime that records its calls -/

/-- The runtime with a record of the calls that it receives, last one first. -/
def ComputeRuntime.recorded (runtime : ComputeRuntime σ) :
    ComputeRuntime (σ × List RuntimeCall) where
  name := runtime.name
  prepare size state :=
    let (result, after) := runtime.prepare size state.1
    (result, after, .prepare size (worked result) :: state.2)
  multiply state :=
    let (result, after) := runtime.multiply state.1
    (result, after, .multiply (worked result) :: state.2)
  release state := (runtime.release state.1, .release :: state.2)

/-- The surroundings with a runtime that records its calls. -/
def Surroundings.recorded (s : Surroundings σ) : Surroundings (σ × List RuntimeCall) where
  runtime := s.runtime.recorded
  now state :=
    let (time, after) := s.now state.1
    (time, after, state.2)
  power state :=
    let (sample, after) := s.power state.1
    (sample, after, state.2)
  wait span state := (s.wait span state.1, state.2)

variable {s : Surroundings σ} {settings : CalibrationSettings} {state : σ}

/-- Whether the runtime did what the call asks for. -/
def RuntimeCall.worked : RuntimeCall → Bool
  | .prepare _ worked => worked
  | .multiply worked => worked
  | .release => true

namespace Benchmark

/-- The progress of a benchmark whose runtime has recorded the calls so far. -/
def Progress.recorded (p : Progress σ) : Progress (σ × List RuntimeCall) :=
  ⟨p.calls, p.state, p.calls⟩

def Turns.recorded (t : Turns σ) : Turns (σ × List RuntimeCall) := ⟨t.tally, t.progress.recorded⟩

def Outcome.recorded (outcome : Outcome σ) : Outcome (σ × List RuntimeCall) :=
  ⟨outcome.result, outcome.calls, outcome.state, outcome.calls.reverse⟩

theorem multiply_recorded (s : Surroundings σ) (p : Progress σ) :
    multiply s.recorded p.recorded = ((multiply s p).1, (multiply s p).2.recorded) := rfl

theorem withoutResult_recorded (p : Progress σ) :
    withoutResult p.recorded = (withoutResult p).recorded := by
  simp [withoutResult, Progress.recorded, Outcome.recorded]

theorem warmUp_recorded (s : Surroundings σ) (count : Nat) (p : Progress σ) :
    warmUp s.recorded count p.recorded = ((warmUp s count p).1, (warmUp s count p).2.recorded) := by
  induction count generalizing p with
  | zero => rfl
  | succ count ih =>
      simp only [warmUp, multiply_recorded]
      rcases multiply s p with ⟨_ | _, next⟩
      · rfl
      · exact ih next

/-! The turns end when the time is over or a multiplication fails, and go on otherwise. -/

/-- What the turns of a benchmark come to, from a progress on. -/
inductive TakesTurns (s : Surroundings σ) (start budget : Duration) :
    Nat → List Float → Progress σ → Turns σ → Prop
  | ended {count : Nat} {samples : List Float} {p : Progress σ}
      (late : budget.nanoseconds ≤ (s.elapsed start p.state).1.nanoseconds) :
      TakesTurns s start budget count samples p
        ⟨some (count, samples), p.calls, (s.elapsed start p.state).2⟩
  | failed {count : Nat} {samples : List Float} {p after : Progress σ}
      (early : ¬ budget.nanoseconds ≤ (s.elapsed start p.state).1.nanoseconds)
      (failed : multiply s ⟨p.calls, (s.elapsed start p.state).2⟩ = (false, after)) :
      TakesTurns s start budget count samples p ⟨none, after⟩
  | worked {count : Nat} {samples : List Float} {p after : Progress σ} {between : σ}
      {sample : Option Float} {turned : Turns σ}
      (early : ¬ budget.nanoseconds ≤ (s.elapsed start p.state).1.nanoseconds)
      (worked : multiply s ⟨p.calls, (s.elapsed start p.state).2⟩ = (true, after))
      (drawn : s.power after.state = (sample, between))
      (rest : TakesTurns s start budget (count + 1) (sample.toList ++ samples)
        ⟨after.calls, between⟩ turned) :
      TakesTurns s start budget count samples p turned

section Turns

variable {start budget : Duration} {count : Nat} {samples : List Float} {p : Progress σ}
  {turned : Turns σ}

theorem TakesTurns.turns_eq (takes : TakesTurns s start budget count samples p turned) :
    turns s start budget count samples p = some turned := by
  induction takes with
  | ended late =>
      rw [turns]
      exact if_pos late
  | failed early failed =>
      rw [turns]
      simp only [if_neg early, failed]
  | worked early worked drawn rest ih =>
      rw [turns]
      simp only [if_neg early, worked, drawn]
      exact ih

theorem takesTurns_of_turns (found : turns s start budget count samples p = some turned) :
    TakesTurns s start budget count samples p turned := by
  refine turns.partial_correctness s start budget (TakesTurns s start budget) ?_
    count samples p turned found
  intro loop ih count samples p turned step
  dsimp only at step
  split at step
  · rename_i late
    rw [← Option.some.inj step]
    exact .ended late
  · rename_i early
    split at step
    · rename_i failed
      rw [← Option.some.inj step]
      exact .failed early failed
    · rename_i worked
      exact .worked early worked rfl (ih _ _ _ _ step)

theorem TakesTurns.recorded (takes : TakesTurns s start budget count samples p turned) :
    TakesTurns s.recorded start budget count samples p.recorded turned.recorded := by
  induction takes with
  | @ended count samples p late =>
      exact @TakesTurns.ended _ s.recorded start budget count samples p.recorded late
  | @failed count samples p after early failed =>
      have failed' : multiply s.recorded
          ⟨p.calls, ((s.elapsed start p.state).2, p.calls)⟩ = (false, after.recorded) :=
        (multiply_recorded s ⟨p.calls, (s.elapsed start p.state).2⟩).trans (by rw [failed])
      exact @TakesTurns.failed _ s.recorded start budget count samples p.recorded _ early failed'
  | @worked count samples p after between sample turned early worked drawn rest ih =>
      have worked' : multiply s.recorded
          ⟨p.calls, ((s.elapsed start p.state).2, p.calls)⟩ = (true, after.recorded) :=
        (multiply_recorded s ⟨p.calls, (s.elapsed start p.state).2⟩).trans (by rw [worked])
      have drawn' : s.recorded.power after.recorded.state =
          (sample, (between, after.calls)) := by
        simp only [Surroundings.recorded, Progress.recorded, drawn]
      exact @TakesTurns.worked _ s.recorded start budget count samples p.recorded _ _ _ _ early
        worked' drawn' ih

end Turns

theorem finish_recorded (s : Surroundings σ) (size : UInt64) (start : Duration)
    (turned : Turns σ) :
    finish s.recorded size start turned.recorded = (finish s size start turned).recorded := by
  rcases turned with ⟨_ | ⟨count, samples⟩, after⟩
  · exact withoutResult_recorded (release s after)
  · simp only [finish, Turns.recorded, Outcome.recorded, List.reverse_reverse]
    rfl

theorem measure_recorded {size : UInt64} {budget : Duration} {p : Progress σ}
    {outcome : Outcome σ} (measured : measure s size budget p = some outcome) :
    measure s.recorded size budget p.recorded = some outcome.recorded := by
  obtain ⟨turned, found, rfl⟩ := Option.map_eq_some_iff.mp measured
  have takes := (takesTurns_of_turns found).recorded.turns_eq
  exact Option.map_eq_some_iff.mpr ⟨turned.recorded, takes, finish_recorded s size _ turned⟩

/-- The calls that a benchmark lists are those that its runtime receives. -/
theorem run_recorded {outcome : Outcome σ} (measured : run s settings state = some outcome) :
    run s.recorded settings (state, []) = some outcome.recorded := by
  rcases prepared : s.runtime.prepare settings.matrixSize state with ⟨result, after⟩
  have preparedToo : s.recorded.runtime.prepare settings.matrixSize (state, []) =
      (result, after, [.prepare settings.matrixSize (worked result)]) := by
    simp only [Surroundings.recorded, ComputeRuntime.recorded, prepared]
  have warmed : warmUp s.recorded settings.warmupIterations.toNat
      ⟨[.prepare settings.matrixSize (worked result)], after,
        [.prepare settings.matrixSize (worked result)]⟩ = _ :=
    warmUp_recorded s settings.warmupIterations.toNat
      ⟨[.prepare settings.matrixSize (worked result)], after⟩
  simp only [run, prepared] at measured
  simp only [run, preparedToo, warmed]
  split at measured
  case isTrue ready =>
      rw [if_pos ready]
      generalize warmUp s settings.warmupIterations.toNat _ = warmth at measured ⊢
      rcases warmth with ⟨_ | _, next⟩
      · rw [← Option.some.inj measured]
        exact congrArg some (withoutResult_recorded (release s next))
      · obtain ⟨budget, known, measured⟩ := Option.bind_eq_some_iff.mp measured
        exact Option.bind_eq_some_iff.mpr ⟨budget, known, measure_recorded measured⟩
  case isFalse refused =>
      rw [if_neg refused, ← Option.some.inj measured]
      exact congrArg some (withoutResult_recorded
        ⟨[.prepare settings.matrixSize (worked result)], after⟩)

/-! ## The trace of the calls -/

/-- Multiplications behind the calls before them, last one first, of which only the last one may
have failed; and whether they all worked. -/
inductive Multiplied (before : List RuntimeCall) : Bool → List RuntimeCall → Prop
  | nothing : Multiplied before true before
  | next {calls : List RuntimeCall} (worked : Bool) (earlier : Multiplied before true calls) :
      Multiplied before worked (.multiply worked :: calls)

variable {before between calls : List RuntimeCall} {allWorked : Bool} {size : UInt64}

theorem Multiplied.trans (first : Multiplied before true between)
    (later : Multiplied between allWorked calls) : Multiplied before allWorked calls := by
  induction later with
  | nothing => exact first
  | next worked _ ih => exact .next worked ih

/-- One multiplication is one call, which says how it went. -/
theorem multiplied_multiply (s : Surroundings σ) (p : Progress σ) :
    Multiplied p.calls (multiply s p).1 (multiply s p).2.calls := .next _ .nothing

theorem multiplied_warmUp (s : Surroundings σ) (count : Nat) (p : Progress σ) :
    Multiplied p.calls (warmUp s count p).1 (warmUp s count p).2.calls := by
  induction count generalizing p with
  | zero => exact .nothing
  | succ count ih =>
      have first := multiplied_multiply s p
      rw [warmUp]
      generalize multiply s p = result at first
      rcases result with ⟨_ | _, next⟩
      · exact first
      · exact first.trans (ih next)

theorem TakesTurns.multiplied {start budget : Duration} {count : Nat} {samples : List Float}
    {p : Progress σ} {turned : Turns σ} (takes : TakesTurns s start budget count samples p turned) :
    Multiplied p.calls turned.tally.isSome turned.progress.calls := by
  induction takes with
  | ended late => exact .nothing
  | @failed count samples p after early failed =>
      have first := multiplied_multiply s ⟨p.calls, (s.elapsed start p.state).2⟩
      rw [failed] at first
      exact first
  | @worked count samples p after between sample turned early worked drawn rest ih =>
      have first := multiplied_multiply s ⟨p.calls, (s.elapsed start p.state).2⟩
      rw [worked] at first
      exact first.trans ih

theorem Multiplied.exists_results (multiplied : Multiplied before allWorked calls) :
    ∃ results : List Bool, calls = (results.map .multiply).reverse ++ before ∧
      (∀ worked ∈ results.dropLast, worked = true) ∧ results.all id = allWorked := by
  induction multiplied with
  | nothing => exact ⟨[], rfl, nofun, rfl⟩
  | next worked _ ih =>
      obtain ⟨results, rfl, _, all⟩ := ih
      refine ⟨results ++ [worked], by simp, ?_, by simp [all]⟩
      rw [List.dropLast_concat]
      exact List.all_eq_true.mp all

/-- The two ways in which a runtime may be dealt with.  One that refuses to be prepared is left
alone.  Any other is released at the end, after multiplications of which only the last one may have
failed. -/
inductive Protocol (size : UInt64) : List RuntimeCall → Prop
  | refused : Protocol size [.prepare size false]
  | served (results : List Bool) (early : ∀ worked ∈ results.dropLast, worked = true) :
      Protocol size (.prepare size true :: (results.map .multiply ++ [.release]))

theorem Multiplied.protocol (multiplied : Multiplied [.prepare size true] allWorked calls) :
    Protocol size (.release :: calls).reverse := by
  obtain ⟨results, rfl, early, -⟩ := multiplied.exists_results
  have forward : Protocol size _ := .served results early
  simpa using forward

theorem Multiplied.worked_of_mem (multiplied : Multiplied before allWorked calls)
    (all : allWorked = true) (earlier : ∀ call ∈ before, call.worked = true) :
    ∀ call ∈ calls, call.worked = true := by
  induction multiplied with
  | nothing => exact earlier
  | next worked _ ih => exact List.forall_mem_cons.mpr ⟨all, ih rfl⟩

/-- What was prepared is released once. -/
theorem Protocol.count_release (protocol : Protocol size calls)
    (prepared : .prepare size true ∈ calls) : calls.count .release = 1 := by
  cases protocol with
  | refused => simp at prepared
  | served results =>
      have none : (results.map RuntimeCall.multiply).count .release = 0 := by
        simp [List.count_eq_zero]
      rw [List.count_cons_of_ne (by simp), List.count_append, none]
      rfl

/-- Nothing but the release follows a multiplication that failed. -/
theorem Protocol.eq_release {after : List RuntimeCall} (protocol : Protocol size calls)
    (failed : calls = before ++ .multiply false :: after) : after = [.release] := by
  cases protocol with
  | refused =>
      have member : .multiply false ∈ [RuntimeCall.prepare size false] := by simp [failed]
      simp at member
  | served results early =>
      obtain ⟨_, same⟩ | ⟨front, rfl, same⟩ := List.cons_eq_append_iff.mp failed
      · simp at same
      · obtain ⟨_, _, same⟩ | ⟨back, split, same⟩ := List.append_eq_append_iff.mp same
        · have member : .multiply false ∈ [RuntimeCall.release] := by simp [same]
          simp at member
        · obtain ⟨_, same⟩ | ⟨behind, rfl, rfl⟩ := List.cons_eq_append_iff.mp same
          · simp at same
          · obtain ⟨_, tail, rfl, _, mapped⟩ := List.map_eq_append_iff.mp split
            obtain ⟨_, others, rfl, first, rfl⟩ := List.map_eq_cons_iff.mp mapped
            obtain rfl := RuntimeCall.multiply.inj first
            -- Another multiplication would not let the one that failed be the last.
            cases others with
            | nil => rfl
            | cons other others =>
                have worked := early false (by simp [List.dropLast_append_of_ne_nil])
                contradiction

/-! ## The protocol of a run -/

/-- Whether a benchmark deals with its runtime as it should, and comes to nothing where a call to
the runtime failed. -/
structure KeepsProtocol (size : UInt64) (outcome : Outcome σ) : Prop where
  protocol : Protocol size outcome.calls
  failed : ∀ call ∈ outcome.calls, call.worked = false →
    outcome.result = ⟨0.0, 0.0, 0.0, 0.0, .computeBenchmark⟩

theorem keepsProtocol_withoutResult {p : Progress σ} (protocol : Protocol size p.calls.reverse) :
    KeepsProtocol size (withoutResult p) :=
  ⟨protocol, fun _ _ _ => rfl⟩

theorem keepsProtocol_measure {budget : Duration} {p : Progress σ} {outcome : Outcome σ}
    (warm : Multiplied [.prepare size true] true p.calls)
    (measured : measure s size budget p = some outcome) : KeepsProtocol size outcome := by
  obtain ⟨turned, found, rfl⟩ := Option.map_eq_some_iff.mp measured
  have later := (takesTurns_of_turns found).multiplied
  rcases turned with ⟨_ | ⟨count, samples⟩, after⟩
  · exact keepsProtocol_withoutResult (warm.trans later).protocol
  · have all := warm.trans later
    have worked := all.worked_of_mem rfl (List.forall_mem_singleton.mpr rfl)
    refine ⟨all.protocol, fun call member failed => ?_⟩
    rcases List.mem_cons.mp (List.mem_reverse.mp member) with rfl | member
    · contradiction
    · rw [worked call member] at failed
      contradiction

theorem keepsProtocol_run {outcome : Outcome σ} (measured : run s settings state = some outcome) :
    KeepsProtocol settings.matrixSize outcome := by
  unfold run at measured
  dsimp only at measured
  split at measured
  case isTrue prepared =>
      rw [prepared] at measured
      have warm := multiplied_warmUp s settings.warmupIterations.toNat
        ⟨[.prepare settings.matrixSize true],
          (s.runtime.prepare settings.matrixSize state).2⟩
      generalize warmUp s settings.warmupIterations.toNat _ = warmed at measured warm
      rcases warmed with ⟨_ | _, after⟩
      · rw [← Option.some.inj measured]
        exact keepsProtocol_withoutResult warm.protocol
      · obtain ⟨budget, -, measured⟩ := Option.bind_eq_some_iff.mp measured
        exact keepsProtocol_measure warm measured
  case isFalse refused =>
      rw [← Option.some.inj measured, Bool.eq_false_iff.mpr refused]
      exact keepsProtocol_withoutResult .refused

/-! ## Benchmarks that are under way -/

/-- Where a benchmark stands after so many turns, if the clock has never shown that its time is over
and every multiplication has worked. -/
inductive Underway (s : Surroundings σ) (settings : CalibrationSettings) (state : σ)
    (start budget : Duration) : Nat → Progress σ → Prop
  | warm {prepared started : σ} {p : Progress σ}
      (ready : s.runtime.prepare settings.matrixSize state = (.ok (), prepared))
      (warm : warmUp s settings.warmupIterations.toNat
        ⟨[.prepare settings.matrixSize true], prepared⟩ = (true, p))
      (look : s.now p.state = (start, started)) :
      Underway s settings state start budget 0 ⟨p.calls, started⟩
  | turn {count : Nat} {p next : Progress σ}
      (stage : Underway s settings state start budget count p)
      (early : ¬ budget.nanoseconds ≤ (s.elapsed start p.state).1.nanoseconds)
      (worked : multiply s ⟨p.calls, (s.elapsed start p.state).2⟩ = (true, next)) :
      Underway s settings state start budget (count + 1) ⟨next.calls, (s.power next.state).2⟩

theorem calls_warmUp {count : Nat} {p next : Progress σ} (warm : warmUp s count p = (true, next)) :
    next.calls = List.replicate count (.multiply true) ++ p.calls := by
  induction count generalizing p with
  | zero => rw [← (Prod.mk.inj warm).2]; rfl
  | succ count ih =>
      rw [warmUp] at warm
      split at warm
      · rename_i after worked
        have calls : after.calls = .multiply true :: p.calls := by
          obtain ⟨all, rfl⟩ := Prod.mk.inj worked
          simp only [all]
        rw [ih warm, calls, List.replicate_succ', List.append_assoc]
        rfl
      · exact absurd (Prod.mk.inj warm).1 Bool.false_ne_true

/-- A benchmark that is under way holds what it prepared, and every call has worked. -/
theorem Underway.calls_eq {start budget : Duration} {count : Nat} {p : Progress σ}
    (stage : Underway s settings state start budget count p) :
    p.calls = List.replicate (settings.warmupIterations.toNat + count) (.multiply true) ++
      [.prepare settings.matrixSize true] := by
  induction stage with
  | warm ready warm look => exact calls_warmUp warm
  | @turn count p next stage early worked ih =>
      have calls : next.calls = .multiply true :: p.calls := by
        obtain ⟨all, rfl⟩ := Prod.mk.inj worked
        simp only [all]
      rw [calls, ih, ← Nat.add_assoc, List.replicate_succ, List.cons_append]

/-- Turns that never end go on after every turn. -/
theorem exists_underway_turn {start budget : Duration} {count : Nat} {samples : List Float}
    {p : Progress σ} (stage : Underway s settings state start budget count p)
    (endless : turns s start budget count samples p = none) :
    ∃ next samples, Underway s settings state start budget (count + 1) next ∧
      turns s start budget (count + 1) samples next = none := by
  rw [turns] at endless
  dsimp only at endless
  split at endless
  · contradiction
  · rename_i early
    split at endless
    · contradiction
    · rename_i next worked
      exact ⟨_, _, .turn stage early worked, endless⟩

theorem exists_underway {budget : Duration} (known : settings.benchmarkDuration? = some budget)
    (endless : run s settings state = none) :
    ∃ start, ∀ count, ∃ p, Underway s settings state start budget count p := by
  rcases prepared : s.runtime.prepare settings.matrixSize state with ⟨⟨⟩ | ⟨⟩, after⟩
  · simp [run, prepared, worked] at endless
  · rcases warm : warmUp s settings.warmupIterations.toNat
      ⟨[.prepare settings.matrixSize true], after⟩ with ⟨_ | _, p⟩
    · simp [run, prepared, worked, warm] at endless
    · simp only [run, prepared, worked, warm, known, measure, if_true, Option.bind_some,
        Option.map_eq_none_iff] at endless
      refine ⟨(s.now p.state).1, fun count => ?_⟩
      suffices reached : ∃ q samples, Underway s settings state (s.now p.state).1 budget count q ∧
          turns s (s.now p.state).1 budget count samples q = none from
        reached.imp fun _ ⟨_, stage, _⟩ => stage
      induction count with
      | zero => exact ⟨_, [], .warm prepared warm rfl, endless⟩
      | succ count ih =>
          obtain ⟨q, samples, stage, on⟩ := ih
          exact exists_underway_turn stage on

end Benchmark

/-- However its runtime, its probe and its clock behave, a benchmark that has an outcome deals with
its runtime by the protocol: what was prepared is released once, nothing but the release follows a
multiplication that failed, and where a call failed all figures are zero.  The calls are those that
the runtime receives.  There is an outcome if the time of the benchmark is a duration and time
passes.  A benchmark that has none since the clock never shows the end of its time takes one turn
after the other; at any of them it holds what was prepared, and every call has worked. -/
theorem protocol_of_benchmark (s : Surroundings σ) (settings : CalibrationSettings) (state : σ) :
    (s.TimePasses → settings.benchmarkDuration?.isSome = true →
      ∃ outcome, Benchmark.run s settings state = some outcome) ∧
    (∀ outcome, Benchmark.run s settings state = some outcome →
      Benchmark.KeepsProtocol settings.matrixSize outcome ∧
        (.prepare settings.matrixSize true ∈ outcome.calls → outcome.calls.count .release = 1) ∧
        (∀ before after, outcome.calls = before ++ .multiply false :: after →
          after = [.release]) ∧
        Benchmark.run s.recorded settings (state, []) =
          some ⟨outcome.result, outcome.calls, outcome.state, outcome.calls.reverse⟩) ∧
    (∀ budget, settings.benchmarkDuration? = some budget →
      Benchmark.run s settings state = none →
        ∃ start, ∀ count, ∃ p, Benchmark.Underway s settings state start budget count p) ∧
    ∀ start budget count p, Benchmark.Underway s settings state start budget count p →
      p.calls.reverse = .prepare settings.matrixSize true ::
        List.replicate (settings.warmupIterations.toNat + count) (.multiply true) := by
  refine ⟨fun passes budget => Benchmark.exists_run passes budget state, fun outcome measured => ?_,
    fun budget known => Benchmark.exists_underway known, fun start budget count p stage => ?_⟩
  · have keeps := Benchmark.keepsProtocol_run measured
    exact ⟨keeps, keeps.protocol.count_release, fun _ _ => keeps.protocol.eq_release,
      Benchmark.run_recorded measured⟩
  · rw [stage.calls_eq]
    simp

/-- A machine whose clock moves by a second whenever anything happens to it, and whose device fails
from the ninth second on. -/
def failingDevice : Surroundings Nat where
  runtime :=
    { name := "failing"
      prepare := fun _ time => (.ok (), time + 1)
      multiply := fun time =>
        (if time < 9 then .ok () else .error (.failed "device lost"), time + 1)
      release := fun time => time + 1 }
  now time := (⟨time * Duration.perSecond⟩, time + 1)
  power time := (some 60.0, time + 1)
  wait _ time := time + 1

theorem timePasses_failingDevice : failingDevice.TimePasses := by
  refine @Surroundings.timePasses_of_looks _ failingDevice id Nat.lt_succ_self ?_ ?_
  · intro state after act
    cases act <;> exact Nat.le_succ _
  · intro deadline
    refine ⟨deadline, fun time enough => ?_⟩
    exact Nat.le_trans enough (Nat.le_mul_of_pos_right time (by decide))

/-- The device multiplies five times while it warms up and once in the time of the benchmark. -/
theorem run_failingDevice :
    (Benchmark.run failingDevice {} 0).map (·.calls) =
      some (.prepare 2048 true :: (List.replicate 6 (.multiply true) ++
        [.multiply false, .release])) := by
  have known : ({} : CalibrationSettings).benchmarkDuration? = some ⟨5 * Duration.perSecond⟩ := by
    decide +kernel
  have takes : Benchmark.TakesTurns failingDevice ⟨6 * Duration.perSecond⟩
      ⟨5 * Duration.perSecond⟩ 0 [] ⟨List.replicate 5 (.multiply true) ++ [.prepare 2048 true], 7⟩
      ⟨none, .multiply false :: (List.replicate 6 (.multiply true) ++ [.prepare 2048 true]), 12⟩ :=
    .worked (by decide) rfl rfl (.failed (by decide) rfl)
  have measured : Benchmark.measure failingDevice 2048 ⟨5 * Duration.perSecond⟩
      ⟨List.replicate 5 (.multiply true) ++ [.prepare 2048 true], 6⟩ = _ :=
    Option.map_eq_some_iff.mpr ⟨_, takes.turns_eq, rfl⟩
  have ran : Benchmark.run failingDevice {} 0 =
      ({} : CalibrationSettings).benchmarkDuration?.bind fun budget =>
        Benchmark.measure failingDevice 2048 budget
          ⟨List.replicate 5 (.multiply true) ++ [.prepare 2048 true], 6⟩ := rfl
  rw [ran, known, Option.bind_some, measured]
  rfl

theorem protocol_of_failingDevice :
    ∃ outcome, Benchmark.run failingDevice {} 0 = some outcome ∧
      outcome.calls = .prepare 2048 true :: (List.replicate 6 (.multiply true) ++
        [.multiply false, .release]) ∧
      outcome.result = ⟨0.0, 0.0, 0.0, 0.0, .computeBenchmark⟩ ∧
      Benchmark.run failingDevice.recorded {} (0, []) =
        some ⟨outcome.result, outcome.calls, outcome.state, outcome.calls.reverse⟩ := by
  obtain ⟨exists_outcome, holds, -⟩ := protocol_of_benchmark failingDevice {} 0
  obtain ⟨outcome, measured⟩ := exists_outcome timePasses_failingDevice (by decide +kernel)
  have calls := run_failingDevice
  rw [measured, Option.map_some, Option.some.injEq] at calls
  obtain ⟨keeps, _, _, received⟩ := holds outcome measured
  have failed := keeps.failed (.multiply false) (by rw [calls]; decide) rfl
  exact ⟨outcome, measured, calls, failed, received⟩

end EnergyAudit
