import EnergyAudit.Calibration.Calibrate
import Mathlib.Logic.Relation

/-! # Clocks that get on

The turns of a benchmark and the readings of power sampling end when the clock shows that their time
is over.  They do come to an end on a machine whose clock gets past every time if it is looked at
again and again, and may go on forever on any other. -/

namespace EnergyAudit

variable {σ : Type} {s : Surroundings σ}

namespace Surroundings

/-- What a loop may do to a machine between two looks at the clock. -/
inductive Acts (s : Surroundings σ) : σ → σ → Prop
  | multiply (state : σ) : Acts s state (s.runtime.multiply state).2
  | power (state : σ) : Acts s state (s.power state).2
  | wait (span : Duration) (state : σ) : Acts s state (s.wait span state)

/-- A look at the clock shows less than the deadline, and what is done after it leads to another
state. -/
structure LooksBefore (s : Surroundings σ) (deadline : Nat) (after before : σ) : Prop where
  early : (s.now before).1.nanoseconds < deadline
  acts : Relation.ReflTransGen s.Acts (s.now before).2 after

/-- Whether time passes: whatever is done between the looks, no endless sequence of looks at the
clock stays below a deadline. -/
def TimePasses (s : Surroundings σ) : Prop := ∀ deadline, WellFounded (s.LooksBefore deadline)

/-- Time passes where looks are counted, and the clock is past any deadline after enough of them. -/
theorem timePasses_of_looks {looks : σ → Nat}
    (looked : ∀ state, looks state < looks (s.now state).2)
    (kept : ∀ {state after}, s.Acts state after → looks state ≤ looks after)
    (reaches : ∀ deadline, ∃ enough, ∀ state, enough ≤ looks state →
      deadline ≤ (s.now state).1.nanoseconds) : s.TimePasses := by
  intro deadline
  obtain ⟨enough, late⟩ := reaches deadline
  have counted {state after : σ} (acts : Relation.ReflTransGen s.Acts state after) :
      looks state ≤ looks after := by
    induction acts with
    | refl => exact Nat.le_refl _
    | tail _ act ih => exact Nat.le_trans ih (kept act)
  have fewer : Subrelation (s.LooksBefore deadline)
      (measure fun state => enough - looks state).rel := by
    intro after before look
    have more := Nat.lt_of_lt_of_le (looked before) (counted look.acts)
    have notEnough : ¬ enough ≤ looks before := fun done =>
      Nat.not_le_of_lt look.early (late before done)
    change enough - looks after < enough - looks before
    omega
  exact fewer.wf (measure fun state => enough - looks state).wf

/-- A look that shows less time than the budget is one before the end of the budget. -/
theorem early_of_elapsed {start budget : Duration} {state : σ}
    (early : ¬ budget.nanoseconds ≤ (s.elapsed start state).1.nanoseconds) :
    (s.now state).1.nanoseconds < start.nanoseconds + budget.nanoseconds := by
  change ¬ budget.nanoseconds ≤ (s.now state).1.nanoseconds - start.nanoseconds at early
  omega

end Surroundings

theorem Benchmark.exists_turns (passes : s.TimePasses) (start budget : Duration) (count : Nat)
    (samples : List Float) (p : Progress σ) :
    ∃ turned, turns s start budget count samples p = some turned := by
  obtain ⟨calls, state⟩ := p
  induction state using (passes (start.nanoseconds + budget.nanoseconds)).induction
    generalizing count samples calls with
  | _ state ih =>
      rw [turns]
      dsimp only
      split
      · exact ⟨_, rfl⟩
      · rename_i early
        cases worked : multiply s ⟨calls, (s.elapsed start state).2⟩ with
        | mk all p =>
            cases all with
            | false => exact ⟨_, rfl⟩
            | true =>
                refine ih _ ⟨Surroundings.early_of_elapsed early, ?_⟩ _ _ _
                have multiplied : p.state = (s.runtime.multiply (s.now state).2).2 :=
                  congrArg (·.2.state) worked.symm
                rw [multiplied]
                exact (Relation.ReflTransGen.single (.multiply _)).tail (.power _)

theorem PowerSampling.exists_samples (passes : s.TimePasses) (start budget interval : Duration)
    (sampled : List Float) (state : σ) :
    ∃ readings, samples s start budget interval sampled state = some readings := by
  induction state using (passes (start.nanoseconds + budget.nanoseconds)).induction
    generalizing sampled with
  | _ state ih =>
      rw [samples]
      dsimp only
      split
      · exact ⟨_, rfl⟩
      · rename_i early
        exact ih _ ⟨Surroundings.early_of_elapsed early,
          (Relation.ReflTransGen.single (.power _)).tail (.wait interval _)⟩ _

end EnergyAudit
