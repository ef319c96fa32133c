import SparkFleet.Platform.Control
import SparkFleet.Proofs.Agreement

/-!
# What happens to the platform

A platform changes by calls and by what is done to it from outside.  `Platform.Event` lists both, so
that a history of the platform is a list of events, and the reachable platforms are those after some
history that begins with an empty platform.  What every event keeps holds after every history
(`after_induction`) and of every reachable platform (`Reachable.induction`).

`state_exec` says that running an action is a history of calls: those that the action makes.
-/

namespace SparkFleet

namespace Platform

/-- What happens to the platform. -/
inductive Event where
  | call (c : Call)
  /-- Changes show for so many reads from now on. -/
  | settleReads (reads : Nat)
  /-- The calls of an endpoint are refused from now on. -/
  | injectFailure (endpoint : String) (code : UInt16)
  /-- The calls of an endpoint are served again. -/
  | clearFailure (endpoint : String)
  | offerVersions (offer : SparkVersionOffer)
  | offerNodeTypes (offer : NodeTypeOffer)
  | offerZones (offer : ZoneOffer)
  /-- A cluster is put in place as it is. -/
  | putCluster (record : ClusterRecord)
  | addRunningCluster (name : String) (workers : UInt32)
  /-- The change of a cluster comes to its end. -/
  | settleCluster (id : ClusterId)
  | failCluster (id : ClusterId)
  | putJob (settings : JobSettings)
  /-- A run is put in place as it is. -/
  | putRun (record : RunRecord)
  /-- It is said what comes out of a run. -/
  | setRunOutput (id : RunId) (output : RunOutput)
  | finishRun (id : RunId) (result : RunResult)
  | setLibraryStatus (id : ClusterId) (library : LibrarySpec) (status : InstallStatus)
  | addNotebook (path : String) (language : Language) (content : ByteArray)
  | addFile (path : String) (content : ByteArray)

/-- The platform after an event. -/
def Event.apply (p : Platform) : Event → Platform
  | .call c => (p.serve c).2
  | .settleReads reads => p.withSettleReads reads
  | .injectFailure endpoint code => p.injectFailure endpoint code
  | .clearFailure endpoint => p.clearFailure endpoint
  | .offerVersions offer => { p with sparkVersions := offer }
  | .offerNodeTypes offer => { p with nodeTypes := offer }
  | .offerZones offer => { p with zones := offer }
  | .putCluster record => p.putCluster record
  | .addRunningCluster name workers => (p.addRunningCluster name workers).2
  | .settleCluster id => p.settleCluster id
  | .failCluster id => p.failCluster id
  | .putJob settings => (p.createJob settings).2
  | .putRun record => p.putRun record
  | .setRunOutput id output => p.setRunOutput id output
  | .finishRun id result => p.finishRun id result
  | .setLibraryStatus id library status => p.setLibraryStatus id library status
  | .addNotebook path language content => p.addNotebook path language content
  | .addFile path content => p.addFile path content

/-- The platform after a history. -/
def after (p : Platform) (history : List Event) : Platform := history.foldl Event.apply p

@[simp] theorem after_nil (p : Platform) : p.after [] = p := rfl

@[simp] theorem after_cons (p : Platform) (e : Event) (history : List Event) :
    p.after (e :: history) = (e.apply p).after history := rfl

@[simp] theorem after_append (p : Platform) (first second : List Event) :
    p.after (first ++ second) = (p.after first).after second :=
  List.foldl_append

/-- What the events of a history give, one after the other, each with the platform that it meets. -/
def gathered {α : Type} (give : Platform → Event → List α) : Platform → List Event → List α
  | _, [] => []
  | p, e :: history => give p e ++ gathered give (e.apply p) history

theorem gathered_append {α : Type} (give : Platform → Event → List α) (p : Platform)
    (first second : List Event) :
    gathered give p (first ++ second) =
      gathered give p first ++ gathered give (p.after first) second := by
  induction first generalizing p with
  | nil => rfl
  | cons e first ih =>
    rw [List.cons_append, gathered, gathered, ih, List.append_assoc, after_cons]

theorem gathered_concat {α : Type} (give : Platform → Event → List α) (p : Platform)
    (history : List Event) (e : Event) :
    gathered give p (history ++ [e]) = gathered give p history ++ give (p.after history) e := by
  rw [gathered_append, gathered, gathered, List.append_nil]

/-- What every event keeps holds after every history. -/
theorem after_induction {motive : Platform → Prop}
    (hStep : ∀ p (e : Event), motive p → motive (e.apply p)) {p : Platform} (hStart : motive p)
    (history : List Event) : motive (p.after history) := by
  induction history generalizing p with
  | nil => exact hStart
  | cons e history ih => exact ih (hStep p e hStart)

/-- A condition holds of each event of a history where it happens. -/
def Throughout (holds : Platform → Event → Prop) : Platform → List Event → Prop
  | _, [] => True
  | p, e :: history => holds p e ∧ Throughout holds (e.apply p) history

theorem Throughout.mono {first second : Platform → Event → Prop}
    (hImplies : ∀ p e, first p e → second p e) {p : Platform} {history : List Event}
    (hHolds : Throughout first p history) : Throughout second p history := by
  induction history generalizing p with
  | nil => trivial
  | cons e history ih => exact ⟨hImplies p e hHolds.1, ih hHolds.2⟩

theorem Throughout.append {holds : Platform → Event → Prop} {p : Platform}
    {first second : List Event} (hFirst : Throughout holds p first)
    (hSecond : Throughout holds (p.after first) second) :
    Throughout holds p (first ++ second) := by
  induction first generalizing p with
  | nil => exact hSecond
  | cons e first ih => exact ⟨hFirst.1, ih hFirst.2 hSecond⟩

/-- What is kept by every event of which the condition holds is kept by a history throughout which
it holds. -/
theorem Throughout.induction {holds : Platform → Event → Prop} {motive : Platform → Prop}
    (hStep : ∀ p e, holds p e → motive p → motive (e.apply p)) {p : Platform} {history : List Event}
    (hHolds : Throughout holds p history) (hStart : motive p) : motive (p.after history) := by
  induction history generalizing p with
  | nil => exact hStart
  | cons e history ih => exact ih hHolds.2 (hStep p e hHolds.1 hStart)

/-- The platforms that come from an empty one. -/
def Reachable (p : Platform) : Prop := ∃ history, p = ({} : Platform).after history

theorem Reachable.after {p : Platform} (hReach : p.Reachable) (history : List Event) :
    (p.after history).Reachable := by
  obtain ⟨first, rfl⟩ := hReach
  exact ⟨first ++ history, (after_append _ _ _).symm⟩

/-- What holds at first and is kept by every event holds of every reachable platform. -/
theorem Reachable.induction {motive : Platform → Prop} (hStart : motive {})
    (hStep : ∀ p (e : Event), motive p → motive (e.apply p)) {p : Platform} (hReach : p.Reachable) :
    motive p := by
  obtain ⟨history, rfl⟩ := hReach
  exact after_induction hStep hStart history

end Platform

/-! ### Running programs -/

/-- A program changes the platform by its calls. -/
theorem Program.state_run {α : Type} (program : Program α) (s : Simulation Platform) :
    (program.run Platform.handler s).2.state =
      s.state.after ((program.calls Platform.handler s).map .call) := by
  induction program generalizing s with
  | done result => rfl
  | call c next ih => exact ih _ _
  | pause span next ih => exact ih () _
  | readLocal path next ih => exact ih _ s

/-- The platform after an action. -/
theorem Action.state_exec {α : Type} (act : Action α) (s : Simulation Platform) :
    (exec Platform.handler act s).2.state =
      s.state.after ((Program.calls Platform.handler act.run s).map .call) :=
  act.run.state_run s

theorem Platform.Reachable.exec {α : Type} {s : Simulation Platform} (hReach : s.state.Reachable)
    (act : Action α) : (Action.exec Platform.handler act s).2.state.Reachable := by
  rw [Action.state_exec]
  exact hReach.after _

/-- An action leaves a reachable platform if it begins with one. -/
theorem Action.Ends.and_reachable {α : Type} {act : Action α} {s : Simulation Platform}
    {good : α → Simulation Platform → Prop} {bad : Error → Simulation Platform → Prop}
    (hEnds : Ends Platform.handler act s good bad) (hReach : s.state.Reachable) :
    Ends Platform.handler act s (fun a t => good a t ∧ t.state.Reachable) bad := by
  have hLeaves := hReach.exec act
  refine .intro (fun a t hExec => ?_) fun e t hExec => hEnds.of_error hExec
  rw [hExec] at hLeaves
  exact ⟨hEnds.of_ok hExec, hLeaves⟩

end SparkFleet
