import SparkFleet.Job.Handle
import SparkFleet.Proofs.Calls
import SparkFleet.Proofs.Session
import SparkFleet.Wait

/-!
# Errors and the calls that failed

The transport error at the root of an error is the failure of a call.  `Action.Faithful` says of an
action that whatever is answered, it is that of the first call that failed, and that the action
succeeds or fails for another reason only where no call failed.  So an action of which this holds
never goes on after a failed call.

`Action.Reports` adds of which kind the errors are.  Its rules take an action apart along its
structure, so that what an operation reports is derived from its parts.
-/

namespace SparkFleet

open SparkFleet.Action (exec)

/-- Why the first call failed that did. -/
def firstFailure? (calls : List Exchange) : Option ApiError := calls.findSome? Exchange.failure?

theorem firstFailure?_append (calls later : List Exchange) :
    firstFailure? (calls ++ later) = (firstFailure? calls).or (firstFailure? later) :=
  List.findSome?_append

/-- The failed call that a result goes back to. -/
def failedCall? {α : Type} (result : Except Error α) : Option ApiError :=
  match result with
  | .ok _ => none
  | .error e => e.transport?

/-- A result that depends on another goes back to no call where neither does. -/
theorem failedCall?_bind {α β : Type} {result : Except Error α} {next : α → Except Error β}
    (hFirst : failedCall? result = none) (hNext : ∀ a, failedCall? (next a) = none) :
    failedCall? (result >>= next) = none := by
  cases result with
  | ok a => exact hNext a
  | error e => exact hFirst

/-- Wrapping an error keeps what is at its root. -/
@[simp] theorem Error.transport?_within (f : Family) (e : Error) :
    (e.within f).transport? = e.transport? := by
  unfold within
  split <;> rfl

@[simp] theorem failedCall?_failWithin {α : Type} (f : Family) (result : Except Error α) :
    failedCall? (Action.failWithin f result) = failedCall? result := by
  cases result with
  | ok a => rfl
  | error e => exact e.transport?_within f

namespace Action

variable {α β : Type}

/-- The first call of an action that fails is what the action fails with, and the action fails with
no other call. -/
def Faithful (act : Action α) : Prop :=
  ∀ ⦃σ : Type⦄ (h : Program.Handler σ) (s : σ),
    firstFailure? (Program.exchanges h act.run s) = failedCall? (exec h act s).1

variable {act : Action α} {f : α → Action β}

theorem faithful_pure (a : α) : (pure a : Action α).Faithful := fun _ _ _ => rfl

theorem faithful_ofExcept {result : Except Error α} (hResult : failedCall? result = none) :
    (ofExcept result).Faithful := fun _ _ _ => hResult.symm

theorem faithful_throw {e : Error} (hError : e.transport? = none) :
    (throw e : Action α).Faithful := fun _ _ _ => hError.symm

theorem faithful_ask (c : Call) : (ask c).Faithful := by
  intro σ h s
  rw [exchanges_ask, exec_ask]
  -- The only call fails, and the action with it, or neither does.
  cases (h.answer c s).1 <;> rfl

theorem faithful_readLocal (path : String) : (readLocal path).Faithful := by
  intro σ h s
  have hQuiet : (readLocal path).CallsOnly fun _ => False := callsOnly_readLocal path
  have hCalls : Program.exchanges h (readLocal path).run s = [] :=
    List.eq_nil_iff_forall_not_mem.2 fun _ hMem => Program.CallsOnly.of_mem hQuiet hMem
  rw [hCalls, exec_readLocal]
  cases h.readLocal path s <;> rfl

theorem Faithful.bind (hAct : act.Faithful) (hNext : ∀ a, (f a).Faithful) :
    (act >>= f).Faithful := by
  intro σ h s
  have hFirst := hAct h s
  rw [exchanges_bind, exec_bind, firstFailure?_append, hFirst]
  rcases exec h act s with ⟨e | a, t⟩
  · -- Where the first action fails no call follows, so the first failure is its own.
    exact Option.or_none
  · exact hNext a h t

theorem Faithful.within (hAct : act.Faithful) (f : Family) : (within f act).Faithful := by
  intro σ h s
  rw [exchanges_within, exec_within, failedCall?_failWithin]
  exact hAct h s

/-- An action that looks at the failure of its first call must go back to it. -/
theorem faithful_tryAsk_bind {c : Call} {next : Except ApiError c.Answer → Action α}
    (hOk : ∀ a, (next (.ok a)).Faithful)
    (hError : ∀ cause ⦃σ : Type⦄ (h : Program.Handler σ) (s : σ),
      failedCall? (exec h (next (.error cause)) s).1 = some cause) :
    (tryAsk c >>= next).Faithful := by
  intro σ h s
  obtain ⟨hExec, hExchanges⟩ := tryAsk_bind (h := h) (c := c) (s := s) rfl next
  rw [hExec, hExchanges]
  cases hAnswer : (h.answer c s).1 with
  | ok a => exact hOk a h _
  | error cause =>
    -- The call has failed and is the first, so what follows must come back to it.
    exact (hError cause h _).symm

theorem faithful_pause (span : Span) : (pause span).Faithful := fun _ _ _ => rfl

/-! ### Kinds of errors -/

/-- The errors of an action are of a kind, and go back to the first call that failed. -/
structure Reports (kind : Error → Prop) (act : Action α) : Prop where
  faithful : act.Faithful
  ends : ∀ ⦃σ : Type⦄ (h : Program.Handler σ) (s : σ),
    Ends h act s (fun _ _ => True) fun e _ => kind e

variable {kind kind' : Error → Prop}

theorem Reports.mono (hReports : act.Reports kind) (hKind : ∀ e, kind e → kind' e) :
    act.Reports kind' :=
  ⟨hReports.faithful, fun _ h s => (hReports.ends h s).mono (fun _ _ => id) fun e _ => hKind e⟩

theorem reports_pure (a : α) : (pure a : Action α).Reports kind :=
  ⟨faithful_pure a, fun _ _ _ => trivial⟩

/-- A result that needs no call goes back to none. -/
theorem reports_ofExcept {result : Except Error α}
    (hResult : ∀ e, result = .error e → kind e ∧ e.transport? = none) :
    (ofExcept result).Reports kind := by
  cases result with
  | ok a => exact reports_pure a
  | error e => exact ⟨faithful_ofExcept (hResult e rfl).2, fun _ _ _ => (hResult e rfl).1⟩

theorem reports_throw {e : Error} (hKind : kind e) (hError : e.transport? = none) :
    (throw e : Action α).Reports kind :=
  ⟨faithful_throw hError, fun _ _ _ => hKind⟩

theorem reports_within (f : Family) (hAct : act.Faithful) :
    (within f act).Reports fun e => e.family = some f := by
  refine ⟨hAct.within f, fun σ h s => .intro (fun _ _ _ => trivial) fun e t hExec => ?_⟩
  exact family_of_within (congrArg Prod.fst hExec)

theorem Reports.bind (hAct : act.Reports kind) (hNext : ∀ a, (f a).Reports kind) :
    (act >>= f).Reports kind :=
  ⟨hAct.faithful.bind fun a => (hNext a).faithful, fun _ h s =>
    (ends_bind f).2 ((hAct.ends h s).mono (fun a t _ => (hNext a).ends h t) fun _ _ => id)⟩

/-! ### Waiting -/

section Waiting

variable (o : WaitOptions) (what : String) (poll : Nat → Action (Option α)) (k : Nat)

/-- What is left of a wait before its `k`-th poll, as an action. -/
def waitFrom (pauses : Nat) : Action α :=
  ExceptT.mk (Polled.result <$> Wait.pollFrom o what poll k pauses)

theorem waitFrom_zero :
    waitFrom o what poll k 0 = poll k >>= fun found =>
      match found with
      | some value => pure value
      | none => pause o.rest >>= fun _ => throw (.timeout what o.timeout) := by
  change ExceptT.mk (Polled.result <$> ((poll k).run >>= _)) = ExceptT.mk ((poll k).run >>= _)
  rw [map_bind]
  refine congrArg (fun next => ExceptT.mk ((poll k).run >>= next)) (funext fun result => ?_)
  rcases result with e | _ | value <;> rfl

theorem waitFrom_succ (pauses : Nat) :
    waitFrom o what poll k (pauses + 1) = poll k >>= fun found =>
      match found with
      | some value => pure value
      | none => pause o.pause >>= fun _ => waitFrom o what poll (k + 1) pauses := by
  change ExceptT.mk (Polled.result <$> ((poll k).run >>= _)) = ExceptT.mk ((poll k).run >>= _)
  rw [map_bind]
  refine congrArg (fun next => ExceptT.mk ((poll k).run >>= next)) (funext fun result => ?_)
  -- A poll that fails or finds a value leaves nothing to do; otherwise the next one follows its
  -- pause.
  rcases result with e | _ | value <;> rfl

end Waiting

/-- A wait fails as its polls do, or because the time is over. -/
theorem reports_pollUntil {poll : Nat → Action (Option α)} (hPoll : ∀ k, (poll k).Reports kind)
    (hTimeout : ∀ what waited, kind (.timeout what waited)) (o : WaitOptions) (what : String) :
    (Wait.pollUntil o what poll).Reports kind := by
  suffices hFrom : ∀ pauses k, (waitFrom o what poll k pauses).Reports kind from hFrom o.pauses 0
  have hPause (span : Span) : (pause span).Reports kind :=
    ⟨faithful_pause span, fun _ _ _ => trivial⟩
  intro pauses
  induction pauses with
  | zero =>
    intro k
    rw [waitFrom_zero]
    refine (hPoll k).bind fun found => ?_
    cases found with
    | some value => exact reports_pure value
    | none =>
      -- The time is over, which goes back to no call.
      exact (hPause _).bind fun _ => reports_throw (hTimeout _ _) rfl
  | succ pauses ih =>
    intro k
    rw [waitFrom_succ]
    refine (hPoll k).bind fun found => ?_
    cases found with
    | some value => exact reports_pure value
    | none => exact (hPause _).bind fun _ => ih (k + 1)

end Action

/-! ### Programs with a catalog -/

namespace Session

variable {α β : Type}

/-- The first call of a program that fails is what the program fails with, and the program fails
with no other call. -/
def Faithful (act : Session α) : Prop :=
  ∀ ⦃σ : Type⦄ (h : Program.Handler σ) (known : Catalog) (s : σ),
    firstFailure? (exchanges h act known s) = failedCall? (Session.exec h act known s).1.1

theorem faithful_act {act : Action α} (hAct : act.Faithful) : (Session.act act).Faithful := by
  intro σ h known s
  rw [exchanges_act, exec_act]
  exact hAct h s

theorem Faithful.bind {act : Session α} {f : α → Session β} (hAct : act.Faithful)
    (hNext : ∀ a, (f a).Faithful) : (act >>= f).Faithful := by
  intro σ h known s
  have hFirst := hAct h known s
  rw [exchanges_bind, exec_bind, firstFailure?_append, hFirst]
  rcases Session.exec h act known s with ⟨⟨e | a, known'⟩, t⟩
  · exact Option.or_none
  · exact hNext a h known' t

theorem Faithful.within {act : Session α} (hAct : act.Faithful) (f : Family) :
    (Session.within f act).Faithful := by
  intro σ h known s
  rw [exchanges_within, exec_within, failedCall?_failWithin]
  exact hAct h known s

end Session

end SparkFleet
