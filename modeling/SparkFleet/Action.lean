import SparkFleet.Error
import SparkFleet.Program

/-!
# Actions

An action is a program that may fail with an `Error`.  A failed call fails the action at once, so
an action makes no call after one that failed unless it looks at the failure itself.
-/

namespace SparkFleet

/-- A program that may fail. -/
abbrev Action (α : Type) := ExceptT Error Program α

namespace Action

variable {α : Type}

/-- The result of a call as that of an action. -/
def ofAnswer (answer : Except ApiError α) : Except Error α :=
  match answer with
  | .ok a => .ok a
  | .error e => .error (.transport e)

/-- Make a call; its failure is a transport error. -/
def ask (c : Call) : Action c.Answer := ExceptT.mk (ofAnswer <$> Program.ask c)

/-- Make a call and look at its failure. -/
def tryAsk (c : Call) : Action (Except ApiError c.Answer) := ExceptT.lift (Program.ask c)

/-- Run an action and look at its failure. -/
def attempt (act : Action α) : Action (Except Error α) := ExceptT.lift act.run

/-- A result that needs no call. -/
def ofExcept (result : Except Error α) : Action α := ExceptT.mk (pure result)

/-- Let time pass. -/
def pause (span : Span) : Action Unit := ExceptT.lift (.pause span .done)

/-- Read a local file. -/
def readLocal (path : String) : Action ByteArray :=
  ExceptT.mk <| .readLocal path fun content =>
    match content with
    | .ok bytes => pure (.ok bytes)
    | .error fault => pure (.error (.io fault.message))

/-- The failure of a result as an error of a family. -/
def failWithin (f : Family) (result : Except Error α) : Except Error α :=
  match result with
  | .ok a => .ok a
  | .error e => .error (e.within f)

/-- The action with its errors in one family. -/
def within (f : Family) (act : Action α) : Action α := ExceptT.mk (failWithin f <$> act.run)

end Action

end SparkFleet
