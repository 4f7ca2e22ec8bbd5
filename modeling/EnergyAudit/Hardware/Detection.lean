import EnergyAudit.Hardware.Profile

/-! # Detection of hardware

A machine is asked about its graphics processors first.  Only if it has any, it is asked for the
version of its toolkit, and only if that is not known, a second time in another way. -/

namespace EnergyAudit

/-- What a machine answers to each question. -/
structure MachineAnswers where
  query : Option GpuQuery
  toolkit : Option String
  fallback : Option String

/-- A question to the machine. -/
inductive Question where
  | query
  | toolkit
  | fallback
deriving DecidableEq, Repr

/-- What detection came to, and the questions it asked. -/
structure Detection where
  profile : HardwareProfile
  asked : List Question

namespace MachineAnswers

/-- Asks the machine as far as needed. -/
def detect (answers : MachineAnswers) : Detection :=
  match answers.query, answers.toolkit with
  | none, _ => ⟨.noGpu, [.query]⟩
  | some query, some version => ⟨.resolve (some query) (some version), [.query, .toolkit]⟩
  | some query, none =>
      ⟨.resolve (some query) answers.fallback, [.query, .toolkit, .fallback]⟩

end MachineAnswers

end EnergyAudit
