import SparkFleet.Platform.Files
import SparkFleet.Platform.Jobs
import SparkFleet.Platform.Libraries
import SparkFleet.Platform.Workspace

/-!
# Serving calls

Each call is counted once under its endpoint, whatever comes of it.  Then a failure that is injected
for the endpoint is given back, and otherwise the call is performed.  A call that fails changes
nothing but the count.

The main statement is `serve_error`: after a failure the state is the one with the call counted.
-/

namespace SparkFleet.Platform

/-- The number of calls of an endpoint. -/
def callCount (p : Platform) (endpoint : String) : Nat := (p.calls.get? endpoint).getD 0

/-- The number of all calls. -/
def totalCalls (p : Platform) : Nat := p.calls.values.foldr (· + ·) 0

/-- Count a call of an endpoint. -/
def count (p : Platform) (endpoint : String) : Platform :=
  { p with calls := p.calls.insert endpoint (p.callCount endpoint + 1) }

/-- Do what a call asks for. -/
def perform (p : Platform) : (c : Call) → Except ApiError (c.Answer × Platform)
  | .clusters call => p.performClusters call
  | .jobs call => p.performJobs call
  | .libraries call => p.performLibraries call
  | .workspace call => p.performWorkspace call
  | .files call => p.performFiles call

/-- The failure that is injected for the calls of an endpoint. -/
def failure? (p : Platform) (endpoint : String) : Option ApiError :=
  (p.failures.get? endpoint).map (injected endpoint)

/-- Answer a call. -/
def serve (c : Call) (p : Platform) : Except ApiError c.Answer × Platform :=
  let counted := p.count c.endpoint
  match p.failure? c.endpoint with
  | some e => (.error e, counted)
  | none =>
    match counted.perform c with
    | .ok (answer, after) => (.ok answer, after)
    | .error e => (.error e, counted)

/-- A call that fails is counted and changes nothing else. -/
theorem serve_error {c : Call} {p : Platform} {e : ApiError} (h : (p.serve c).1 = .error e) :
    (p.serve c).2 = p.count c.endpoint := by
  simp only [serve] at h ⊢
  split <;> rename_i hf <;> simp only [hf] at h
  · rfl
  · split <;> rename_i hp <;> simp_all

end SparkFleet.Platform
