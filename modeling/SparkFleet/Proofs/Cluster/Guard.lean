import SparkFleet.Cluster.Handle
import SparkFleet.Proofs.Calls

/-!
# Operations that look first

Every operation of a handle reads the state of its cluster and is sent only if the lifecycle allows
it in that state.  `run_guarded` writes such an operation out as a program: one read, and what
follows each answer to it.  `SentIfAllowed` says what this comes to against a handler.

The main statement `operations_guarded` says that the four operations are of this form against every
handler, and what each of them does once its call has been accepted.
-/

namespace SparkFleet

open SparkFleet.Action (exec)

namespace Cluster

variable {σ α : Type}

/-! ### The read and what follows it -/

/-- An operation: the state is checked, and then comes the rest. -/
def guarded (c : Cluster) (operation : ClusterOperation) (rest : Action α) : Action α :=
  .within .cluster do
    c.check operation
    rest

/-- What remains of an operation after its read. -/
def afterRead (c : Cluster) (operation : ClusterOperation) (rest : Action α) :
    Except ApiError ClusterRecord → Program (Except Error α)
  | .ok record =>
    if operation.isAllowed record.state then
      (Action.within .cluster rest).run
    else
      .done (.error (.invalidState c.id record.state operation.name))
  | .error e => .done (.error ((Error.transport e).within .cluster))

/-- An operation begins with one read of the cluster, whatever the handle remembers. -/
theorem run_guarded (c : Cluster) (operation : ClusterOperation) (rest : Action α) :
    (c.guarded operation rest).run =
      .call (.clusters (.get c.id)) (c.afterRead operation rest) := by
  refine congrArg (Program.call _) (funext fun answer => ?_)
  cases answer with
  | error e => exact congrArg (Program.done ∘ Except.error) (Error.within_within ..)
  | ok record =>
    -- The check after the read is a test of the state that has been read, so it decides what
    -- follows.
    change (Action.within .cluster (do
      .ofExcept (operation.validate c.id record.state)
      rest)).run = _
    unfold ClusterOperation.validate afterRead
    by_cases hAllowed : operation.isAllowed record.state
    · simp only [if_pos hAllowed]
      rfl
    · simp only [if_neg hAllowed]
      rfl

variable {h : Program.Handler σ} {c : Cluster} (operation : ClusterOperation) (rest : Action α)
  {s t : σ}

theorem guarded_read {answer : Except ApiError ClusterRecord}
    (hRead : h.answer (.clusters (.get c.id)) s = (answer, t)) :
    Program.calls h (c.guarded operation rest).run s =
        .clusters (.get c.id) :: Program.calls h (c.afterRead operation rest answer) t ∧
      exec h (c.guarded operation rest) s =
        Program.run h (c.afterRead operation rest answer) t := by
  change h.answer (.clusters (.get c.id)) s = (answer, t) at hRead
  unfold exec
  rw [run_guarded, Program.calls, Program.run]
  simp only [hRead, and_self]

/-- An operation whose read fails ends with the failure of the read. -/
theorem guarded_unread {e : ApiError} (hRead : h.answer (.clusters (.get c.id)) s = (.error e, t)) :
    Program.calls h (c.guarded operation rest).run s = [.clusters (.get c.id)] ∧
      exec h (c.guarded operation rest) s = (.error ((Error.transport e).within .cluster), t) :=
  guarded_read operation rest hRead

variable {operation} {record : ClusterRecord}
  (hRead : h.answer (.clusters (.get c.id)) s = (.ok record, t))
include hRead

/-- An operation that the state forbids ends with the state that has been read. -/
theorem guarded_forbidden (hForbidden : operation.isAllowed record.state = false) :
    Program.calls h (c.guarded operation rest).run s = [.clusters (.get c.id)] ∧
      exec h (c.guarded operation rest) s =
        (.error (.invalidState c.id record.state operation.name), t) := by
  have hRest := guarded_read operation rest hRead
  rwa [afterRead, if_neg (Bool.eq_false_iff.1 hForbidden)] at hRest

/-- An operation that the state allows goes on from its read. -/
theorem guarded_allowed (hAllowed : operation.isAllowed record.state) :
    Program.calls h (c.guarded operation rest).run s =
        .clusters (.get c.id) :: Program.calls h (Action.within .cluster rest).run t ∧
      exec h (c.guarded operation rest) s = exec h (.within .cluster rest) t := by
  have hRest := guarded_read operation rest hRead
  rwa [afterRead, if_pos hAllowed] at hRest

omit hRead

/-! ### Calls that are sent if they are allowed -/

variable (h c operation) in
/-- What an operation comes to against a handler.  The state that counts is the one that its read
shows. -/
structure SentIfAllowed (s : σ) (call : Call) (act : Action α) (after : List Call)
    (result : call.Answer → σ → Except Error α × σ) : Prop where
  /-- The call is made exactly if the read just before shows a state that allows it. -/
  sent_iff : call ∈ Program.calls h act.run s ↔
    ∃ record, (h.answer (.clusters (.get c.id)) s).1 = .ok record ∧
      operation.isAllowed record.state
  /-- Where the cluster cannot be read, nothing else is called. -/
  unread : ∀ e t, h.answer (.clusters (.get c.id)) s = (.error e, t) →
    Program.calls h act.run s = [.clusters (.get c.id)] ∧
      exec h act s = (.error ((Error.transport e).within .cluster), t)
  /-- Where the state forbids the operation, nothing else is called, and the error names the state
  that has been read. -/
  forbidden : ∀ record t, h.answer (.clusters (.get c.id)) s = (.ok record, t) →
    operation.isAllowed record.state = false →
      Program.calls h act.run s = [.clusters (.get c.id)] ∧
        exec h act s = (.error (.invalidState c.id record.state operation.name), t)
  /-- Where the platform refuses the call, nothing follows. -/
  refused : ∀ record t e u, h.answer (.clusters (.get c.id)) s = (.ok record, t) →
    operation.isAllowed record.state = true → h.answer call t = (.error e, u) →
      Program.calls h act.run s = [.clusters (.get c.id), call] ∧
        exec h act s = (.error ((Error.transport e).within .cluster), u)
  /-- What follows where the platform accepts the call. -/
  accepted : ∀ record t answer u, h.answer (.clusters (.get c.id)) s = (.ok record, t) →
    operation.isAllowed record.state = true → h.answer call t = (.ok answer, u) →
      Program.calls h act.run s = .clusters (.get c.id) :: call :: after ∧
        exec h act s = result answer u

/-- An operation that is sent if it is allowed, by what it does after it has been accepted. -/
theorem sentIfAllowed_guarded {call : Call} {next : call.Answer → Action α} {after : List Call}
    {result : call.Answer → σ → Except Error α × σ} (hCall : call ≠ .clusters (.get c.id))
    (hNext : ∀ answer u, Program.calls h (Action.within .cluster (next answer)).run u = after ∧
      exec h (.within .cluster (next answer)) u = result answer u) :
    c.SentIfAllowed h operation s call (c.guarded operation (.ask call >>= next)) after
      result where
  sent_iff := by
    -- The read is another call, so the operation is among the calls only if it follows the read.
    rcases hRead : h.answer (.clusters (.get c.id)) s with ⟨e | record, t⟩
    · rw [(guarded_unread _ _ hRead).1]
      simpa using hCall
    · cases hAllowed : operation.isAllowed record.state with
      | false =>
        rw [(guarded_forbidden _ hRead hAllowed).1]
        simpa [hAllowed] using hCall
      | true =>
        have hSent : call ∈
            Program.calls h (Action.within .cluster (.ask call >>= next)).run t :=
          List.mem_cons_self
        rw [(guarded_allowed _ hRead hAllowed).1]
        simpa [hAllowed] using .inr hSent
  unread _ _ hRead := guarded_unread _ _ hRead
  forbidden _ _ hRead hForbidden := guarded_forbidden _ hRead hForbidden
  refused record t e u hRead hAllowed hAnswer := by
    obtain ⟨hExec, hCalls⟩ := exec_within_ask_error hAnswer .cluster next
    obtain ⟨hCalls', hExec'⟩ := guarded_allowed (.ask call >>= next) hRead hAllowed
    exact ⟨hCalls'.trans (congrArg _ hCalls), hExec'.trans hExec⟩
  accepted record t answer u hRead hAllowed hAnswer := by
    obtain ⟨hExec, hCalls⟩ := exec_within_ask hAnswer .cluster next
    obtain ⟨hCalls', hExec'⟩ := guarded_allowed (.ask call >>= next) hRead hAllowed
    obtain ⟨hAfter, hResult⟩ := hNext answer u
    exact ⟨hCalls'.trans (congrArg _ (hCalls.trans (congrArg _ hAfter))),
      hExec'.trans (hExec.trans hResult)⟩

/-- An operation that does nothing after its call. -/
theorem sentIfAllowed_ask (call : Call) (hCall : call ≠ .clusters (.get c.id)) :
    c.SentIfAllowed h operation s call (c.guarded operation (.ask call)) [] fun answer u =>
      (.ok answer, u) := by
  rw [← bind_pure (Action.ask call)]
  exact sentIfAllowed_guarded hCall fun _ _ => ⟨rfl, rfl⟩

/-! ### Resizing -/

/-- The handle that an answer to a read gives: one with the record that has been read. -/
def ofAnswer : Except ApiError ClusterRecord → Except Error Cluster
  | .ok record => .ok ⟨record⟩
  | .error e => .error ((Error.transport e).within .cluster)

/-- What reading the cluster again ends with. -/
def readAgain (h : Program.Handler σ) (c : Cluster) (s : σ) : Except Error Cluster × σ :=
  (ofAnswer (h.answer (.clusters (.get c.id)) s).1, (h.answer (.clusters (.get c.id)) s).2)

/-- The call that changes the size of a cluster. -/
def resizeCall (c : Cluster) (size : ClusterSize) : Call :=
  .clusters (.resize ⟨c.id, size.toParts.1, size.toParts.2⟩)

/-- The rest of a resize is one more read. -/
theorem refresh_spec (c : Cluster) (s : σ) :
    Program.calls h (Action.within .cluster c.refresh).run s = [.clusters (.get c.id)] ∧
      exec h (.within .cluster c.refresh) s = c.readAgain h s := by
  have hRun : (Action.within .cluster c.refresh).run =
      .call (.clusters (.get c.id)) fun answer => .done (ofAnswer answer) := by
    refine congrArg (Program.call _) (funext fun answer => ?_)
    cases answer with
    | error e => exact congrArg (Program.done ∘ Except.error) (Error.within_within ..)
    | ok record => rfl
  unfold exec
  rw [hRun]
  exact ⟨rfl, rfl⟩

/-- A size whose bounds are in order is sent if the state allows it, and the cluster is read once
more. -/
theorem sentIfAllowed_resize {size : ClusterSize} (hValid : size.validate = .ok ()) :
    c.SentIfAllowed h .resize s (c.resizeCall size) (c.resize size) [.clusters (.get c.id)]
      fun _ t => c.readAgain h t := by
  have hResize : c.resize size =
      c.guarded .resize (Action.ask (c.resizeCall size) >>= fun _ => c.refresh) := by
    unfold resize
    rw [hValid]
    rfl
  rw [hResize]
  exact sentIfAllowed_guarded nofun fun _ t => refresh_spec c t

/-- Nothing is called for a size whose bounds are not in order. -/
theorem resize_invalid {size : ClusterSize} {e : Error} (hInvalid : size.validate = .error e) :
    Program.calls h (c.resize size).run s = [] ∧ exec h (c.resize size) s = (.error e, s) := by
  have hFamily : e.within .cluster = e := by
    cases size with
    | fixed workers => cases hInvalid
    | autoscale least greatest =>
      -- The error is one of clusters already, and the family leaves it as it is.
      by_cases hInverted : greatest < least
      · cases (if_pos hInverted).symm.trans hInvalid
        rfl
      · cases (if_neg hInverted).symm.trans hInvalid
  have hRun : (c.resize size).run = .done (.error e) := by
    unfold resize
    rw [hInvalid]
    exact congrArg (Program.done ∘ Except.error) hFamily
  unfold exec
  rw [hRun]
  exact ⟨rfl, rfl⟩

end Cluster

open Cluster in
/-- Against every handler, an operation of a handle is sent exactly if the read just before it shows
a state that allows it; otherwise the read is the only call, and its answer decides the error.  A
restart, a termination and a permanent delete make no call after their own.  A resize whose bounds
are not in order makes no call at all; one that is accepted reads the cluster once more, and the new
handle keeps the record of that read. -/
theorem operations_guarded {σ : Type} (h : Program.Handler σ) (c : Cluster) (s : σ) :
    c.SentIfAllowed h .restart s (.clusters (.restart c.id)) c.restart [] (fun _ t => (.ok (), t)) ∧
      c.SentIfAllowed h .terminate s (.clusters (.terminate c.id)) c.terminate []
        (fun _ t => (.ok (), t)) ∧
      c.SentIfAllowed h .permanentDelete s (.clusters (.permanentDelete c.id)) c.permanentDelete []
        (fun _ t => (.ok (), t)) ∧
      (∀ size, size.validate = .ok () →
        c.SentIfAllowed h .resize s (c.resizeCall size) (c.resize size) [.clusters (.get c.id)]
          fun _ t => c.readAgain h t) ∧
      (∀ size, c.resizeCall size ∈ Program.calls h (c.resize size).run s ↔
        size.validate = .ok () ∧ ∃ record, (h.answer (.clusters (.get c.id)) s).1 = .ok record ∧
          ClusterOperation.resize.isAllowed record.state) ∧
      ∀ least greatest, greatest < least → ∃ e,
        (ClusterSize.autoscale least greatest).validate = .error e ∧
          Program.calls h (c.resize (.autoscale least greatest)).run s = [] ∧
          exec h (c.resize (.autoscale least greatest)) s = (.error e, s) := by
  refine ⟨sentIfAllowed_ask (.clusters (.restart c.id)) nofun,
    sentIfAllowed_ask (.clusters (.terminate c.id)) nofun,
    sentIfAllowed_ask (.clusters (.permanentDelete c.id)) nofun,
    fun size hValid => sentIfAllowed_resize hValid, fun size => ?_,
    fun least greatest hInverted => ?_⟩
  · cases hValid : size.validate with
    | ok => simpa using (sentIfAllowed_resize hValid).sent_iff
    | error e => simp [(resize_invalid hValid).1]
  · exact ⟨_, if_pos hInverted, resize_invalid (if_pos hInverted)⟩

/-! ### A handle that is out of date -/

/-- A cluster that is in one state all the time, and of which only reads and permanent deletes are
served. -/
def steadyCluster : Program.Handler ClusterState where
  answer
    | .clusters (.get id), state => (.ok { ClusterRecord.new id with state := state }, state)
    | .clusters (.permanentDelete _), state => (.ok (), state)
    | _, state => (.error .unauthorized, state)
  pause _ state := state
  readLocal _ _ := .error .notFound

/-- A handle that was made while its cluster was running. -/
def runningHandle : Cluster :=
  ⟨{ ClusterRecord.new ⟨"0000-000000-mock0001", rfl⟩ with state := .running }⟩

theorem operations_guarded_steadyCluster :
    (Program.calls steadyCluster runningHandle.restart.run .terminated =
        [.clusters (.get runningHandle.id)] ∧
      exec steadyCluster runningHandle.restart .terminated =
        (.error (.invalidState runningHandle.id .terminated "restart"), .terminated)) ∧
      Program.calls steadyCluster runningHandle.permanentDelete.run .terminated =
        [.clusters (.get runningHandle.id), .clusters (.permanentDelete runningHandle.id)] ∧
      exec steadyCluster runningHandle.permanentDelete .terminated = (.ok (), .terminated) :=
  have hAll := operations_guarded steadyCluster runningHandle .terminated
  ⟨hAll.1.forbidden _ _ rfl rfl, hAll.2.2.1.accepted _ _ () _ rfl rfl rfl⟩

end SparkFleet
