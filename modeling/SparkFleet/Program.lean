import SparkFleet.Call
import SparkFleet.Span

/-!
# Programs that call the platform

A `Program α` is a tree: it ends with a result, or makes a call and goes on according to the answer,
or lets time pass, or reads a local file.  What a program does is thus said without a platform; a
`Handler` answers for one, and statements about all platforms are statements about all answers.

The main statements are the monad laws and `run_bind`: running one program after another is running
the second from the state that the first leaves.
-/

namespace SparkFleet

/-- Why a local file could not be read. -/
inductive LocalFault where
  | notFound
  | isDirectory
  /-- Something above the path is not a directory. -/
  | notDirectory
  /-- The path or a name in it is too long. -/
  | tooLong
  | nulByte
  deriving DecidableEq

/-- The message of a local fault. -/
def LocalFault.message : LocalFault → String
  | .notFound => "No such file or directory (os error 2)"
  | .isDirectory => "Is a directory (os error 21)"
  | .notDirectory => "Not a directory (os error 20)"
  | .tooLong => "File name too long (os error 36)"
  | .nulByte => "file name contained an unexpected NUL byte"

/-- A program with a result. -/
inductive Program (α : Type) where
  | done (result : α)
  /-- Make a call and go on with its answer or the reason of its failure. -/
  | call (call : Call) (next : Except ApiError call.Answer → Program α)
  | pause (span : Span) (next : Unit → Program α)
  | readLocal (path : String) (next : Except LocalFault ByteArray → Program α)

namespace Program

variable {α β γ σ : Type}

/-- One program after another. -/
def bind : Program α → (α → Program β) → Program β
  | .done result, f => f result
  | .call c next, f => .call c fun answer => (next answer).bind f
  | .pause span next, f => .pause span fun _ => (next ()).bind f
  | .readLocal path next, f => .readLocal path fun content => (next content).bind f

instance : Monad Program where
  pure := .done
  bind := bind

theorem bind_done (p : Program α) : p.bind .done = p := by
  induction p with
  | done result => rfl
  | call c next ih => exact congrArg _ (funext ih)
  | pause span next ih => exact congrArg _ (funext ih)
  | readLocal path next ih => exact congrArg _ (funext ih)

theorem bind_assoc (p : Program α) (f : α → Program β) (g : β → Program γ) :
    (p.bind f).bind g = p.bind fun a => (f a).bind g := by
  induction p with
  | done result => rfl
  | call c next ih => exact congrArg _ (funext ih)
  | pause span next ih => exact congrArg _ (funext ih)
  | readLocal path next ih => exact congrArg _ (funext ih)

instance : LawfulMonad Program :=
  LawfulMonad.mk' Program
    (fun x => bind_done x)
    (fun _ _ => rfl)
    (fun p f g => bind_assoc p f g)

/-- Make one call. -/
def ask (c : Call) : Program (Except ApiError c.Answer) := .call c .done

/-! ### Running -/

/-- What answers for the platform, the clock and the local files, from a state. -/
structure Handler (σ : Type) where
  answer : (c : Call) → σ → Except ApiError c.Answer × σ
  pause : Span → σ → σ
  readLocal : String → σ → Except LocalFault ByteArray

/-- Run a program from a state. -/
def run (h : Handler σ) : Program α → σ → α × σ
  | .done result, s => (result, s)
  | .call c next, s =>
    let (answer, s) := h.answer c s
    (next answer).run h s
  | .pause span next, s => (next ()).run h (h.pause span s)
  | .readLocal path next, s => (next (h.readLocal path s)).run h s

/-- Running two programs one after the other. -/
theorem run_bind (h : Handler σ) (p : Program α) (f : α → Program β) (s : σ) :
    (p.bind f).run h s = (f (p.run h s).1).run h (p.run h s).2 := by
  induction p generalizing s with
  | done result => rfl
  | call c next ih => exact ih _ _
  | pause span next ih => exact ih _ _
  | readLocal path next ih => exact ih _ _

end Program

end SparkFleet
