import SparkFleet.Library.Status
import SparkFleet.Run.Handle

/-!
# Waiting

A state is waited for by reading until it shows.  There is a poll at once and then one after each
pause, as long as the deadline is not over; a poll that is due at the deadline is made.  An error
of a poll ends the wait, and so does a value.  Pauses without length never reach a deadline that is
ahead.

How long a pause lasts, and when a deadline is noticed, is left to the timer of the asynchronous
runtime underneath, which is no part of this library.  Two numbers are that timer's, and are
described here by what waits show of them: `WaitOptions.longestPause` and
`WaitOptions.unnoticedPauses`.  That timer counts whole milliseconds; here a pause of a fraction of
a millisecond is taken as it is given, and not rounded.
-/

namespace SparkFleet

/-- How long to wait and how often to look. -/
structure WaitOptions where
  /-- The time that is asked for between two polls. -/
  interval : Span := .seconds 10
  /-- The time after which the wait is given up. -/
  timeout : Span := .seconds 1200
  deriving DecidableEq

namespace WaitOptions

/-- The longest pause that the timer of the runtime makes: thirty years of 365 days.  A deadline is
not cut so. -/
def longestPause : Span := .seconds (30 * 365 * 86400)

/-- The time that passes between two polls: the interval as it is given, to the nanosecond, or the
longest pause if that is shorter. -/
def pause (o : WaitOptions) : Span :=
  if longestPause.nanos < o.interval.nanos then longestPause else o.interval

/-- How many pauses without length the runtime lets a wait make in a row before it looks at the
timer again, and so before a deadline that is over is noticed. -/
def unnoticedPauses : Nat := 128

/-- How many pauses there are before the deadline.  Pauses without length do not reach a deadline
that is ahead; the number that stands for it is more than any poll can count. -/
def pauses (o : WaitOptions) : Nat :=
  if o.interval.nanos = 0 then
    if o.timeout.nanos = 0 then unnoticedPauses else UInt64.size
  else
    o.timeout.nanos / o.pause.nanos

/-- The time that is left after the last pause. -/
def rest (o : WaitOptions) : Span := ⟨o.timeout.nanos - o.pauses * o.pause.nanos⟩

end WaitOptions

/-- What came of a wait. -/
structure Polled (α : Type) where
  /-- The value that was waited for, or why there is none. -/
  result : Except Error α
  polls : Nat

namespace Wait

variable {α : Type}

/-- Poll for the `k`-th time, counted from zero, and then after each of so many pauses. -/
def pollFrom (o : WaitOptions) (what : String) (poll : Nat → Action (Option α)) (k : Nat) :
    Nat → Program (Polled α)
  | 0 => do
    match ← (poll k).run with
    | .ok (some value) => return ⟨.ok value, k + 1⟩
    | .error e => return ⟨.error e, k + 1⟩
    -- The next poll would come after the deadline.
    | .ok none => .pause o.rest fun _ => .done ⟨.error (.timeout what o.timeout), k + 1⟩
  | pauses + 1 => do
    match ← (poll k).run with
    | .ok (some value) => return ⟨.ok value, k + 1⟩
    | .error e => return ⟨.error e, k + 1⟩
    | .ok none => .pause o.pause fun _ => pollFrom o what poll (k + 1) pauses

/-- Poll until there is a value, and count the polls. -/
def polling (o : WaitOptions) (what : String) (poll : Nat → Action (Option α)) :
    Program (Polled α) :=
  pollFrom o what poll 0 o.pauses

/-- Poll until there is a value. -/
def pollUntil (o : WaitOptions) (what : String) (poll : Nat → Action (Option α)) : Action α :=
  ExceptT.mk (Polled.result <$> polling o what poll)

/-- The error where a cluster is in a state from which the awaited one is out of reach. -/
def outOfReach (id : ClusterId) (state target : ClusterState) : Error :=
  .config .cluster ("cluster " ++ id.text ++ " is " ++ state.name ++ " while waiting for " ++
    target.name)

/-- What one read of a cluster says about a state that is waited for.  An unknown state says
nothing; from any other state the awaited one must still be within reach. -/
def clusterReached (id : ClusterId) (target : ClusterState) (now : Cluster) :
    Except Error (Option Cluster) :=
  if now.snapshotState = target then
    .ok (some now)
  else if now.snapshotState ≠ .unknown ∧ now.snapshotState.canReach target = false then
    .error (outOfReach id now.snapshotState target)
  else
    .ok none

/-- One poll for the state of a cluster. -/
def clusterPoll (c : Cluster) (target : ClusterState) : Action (Option Cluster) := do
  .ofExcept (clusterReached c.id target (← c.refresh))

/-- Wait until a cluster is in a state; the new handle is the one that was read last. -/
def clusterState (o : WaitOptions) (c : Cluster) (target : ClusterState) : Action Cluster :=
  pollUntil o ("cluster " ++ c.id.text ++ " to be " ++ target.name) fun _ =>
    clusterPoll c target

/-- Wait until a run has ended. -/
def run (o : WaitOptions) (r : Run) : Action RunState :=
  pollUntil o ("run " ++ r.id.text ++ " to finish") fun _ => do
    let state ← r.details.state
    return if state.lifeCycleState.isTerminal then some state else none

/-- Wait until the installation of a library has come to its end. -/
def library (o : WaitOptions) (i : InstalledLibrary) : Action LibraryStatus :=
  pollUntil o ("library " ++ i.library.identifier ++ " on cluster " ++ i.cluster.id.text ++
      " to settle") fun _ => do
    let status ← i.status
    return if status.state.isSettled then some status else none

end Wait

end SparkFleet
