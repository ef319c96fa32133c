import SparkFleet.LocalFiles

/-!
# Simulation

Programs are run against a backend that answers calls, with a clock of its own and local files.
Only pauses take time: a call is answered at once, and a pause moves the clock on.
-/

namespace SparkFleet

/-- What answers calls from a state, which each call may change. -/
abbrev Backend (σ : Type) := (c : Call) → σ → Except ApiError c.Answer × σ

/-- The state of a backend, the time and the local files. -/
structure Simulation (σ : Type) where
  state : σ
  clock : Span := ⟨0⟩
  files : LocalFiles := .empty

namespace Simulation

variable {σ α : Type}

/-- The backend answers calls, and pauses move the clock. -/
def handler (backend : Backend σ) : Program.Handler (Simulation σ) where
  answer c s :=
    let (answer, state) := backend c s.state
    (answer, { s with state := state })
  pause span s := { s with clock := s.clock + span }
  readLocal path s := s.files.read path

/-- Run a program from a state. -/
def run (backend : Backend σ) (program : Program α) (s : Simulation σ) : α × Simulation σ :=
  program.run (handler backend) s

end Simulation

end SparkFleet
