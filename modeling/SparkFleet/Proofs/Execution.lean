import SparkFleet.Action
import SparkFleet.Platform.Serve
import SparkFleet.Simulation

/-!
# How actions end

`Action.exec` says what an action ends with against a handler, and the state that it leaves.
`Action.Ends` says that a successful end satisfies one condition and a failed end another; its rules
take an action apart along its structure (`ends_bind`, `ends_ask`, `ends_within`), so that what an
operation guarantees is derived from what its calls do.

`Simulation.answer_handler` says what a call leaves of a simulation; `Platform.handler` answers the
calls of an action with the platform in memory.
-/

namespace SparkFleet

namespace Action

variable {σ α β : Type} (h : Program.Handler σ)

/-- What an action ends with against a handler, and the state that it leaves. -/
def exec (act : Action α) (s : σ) : Except Error α × σ := Program.run h act.run s

variable (act : Action α) (s : σ)

/-! ### One step -/

/-- The second action starts where the first ends, unless the first fails. -/
theorem exec_bind (f : α → Action β) :
    exec h (act >>= f) s =
      match exec h act s with
      | (.ok a, t) => exec h (f a) t
      | (.error e, t) => (.error e, t) := by
  change Program.run h (Program.bind act.run _) s = _
  rw [Program.run_bind]
  unfold exec
  -- Running on is what a result is followed by, and a failure by nothing.
  rcases Program.run h act.run s with ⟨a | a, t⟩ <;> rfl

theorem exec_ask (c : Call) :
    exec h (ask c) s = (ofAnswer (h.answer c s).1, (h.answer c s).2) := rfl

theorem exec_attempt : exec h (attempt act) s = (.ok (exec h act s).1, (exec h act s).2) := by
  change Program.run h (Program.bind act.run _) s = _
  rw [Program.run_bind]
  rfl

theorem exec_within (f : Family) :
    exec h (within f act) s = (failWithin f (exec h act s).1, (exec h act s).2) := by
  change Program.run h (Program.bind act.run _) s = _
  rw [Program.run_bind]
  rfl

theorem exec_readLocal (path : String) :
    exec h (readLocal path) s =
      match h.readLocal path s with
      | .ok content => (.ok content, s)
      | .error fault => (.error (.io fault.message), s) := by
  change Program.run h (match h.readLocal path s with
    | .ok bytes => (pure (.ok bytes) : Program (Except Error ByteArray))
    | .error fault => pure (.error (.io fault.message))) s = _
  cases h.readLocal path s <;> rfl

/-! ### Conditions at the end -/

/-- The action ends with a result and a state of which `good` holds, or with an error and a state of
which `bad` holds. -/
def Ends (good : α → σ → Prop) (bad : Error → σ → Prop) : Prop :=
  match exec h act s with
  | (.ok a, t) => good a t
  | (.error e, t) => bad e t

variable {h act s} {good : α → σ → Prop} {bad : Error → σ → Prop}

theorem Ends.of_ok (hEnds : Ends h act s good bad) {a : α} {t : σ}
    (hExec : exec h act s = (.ok a, t)) : good a t := by
  simpa [Ends, hExec] using hEnds

theorem Ends.of_error (hEnds : Ends h act s good bad) {e : Error} {t : σ}
    (hExec : exec h act s = (.error e, t)) : bad e t := by
  simpa [Ends, hExec] using hEnds

/-- What is shown of every end, with the end at hand, holds of the end. -/
theorem Ends.intro (hOk : ∀ a t, exec h act s = (.ok a, t) → good a t)
    (hError : ∀ e t, exec h act s = (.error e, t) → bad e t) : Ends h act s good bad := by
  unfold Ends
  split
  · exact hOk _ _ ‹_›
  · exact hError _ _ ‹_›

theorem Ends.mono {good' : α → σ → Prop} {bad' : Error → σ → Prop} (hEnds : Ends h act s good bad)
    (hGood : ∀ a t, good a t → good' a t) (hBad : ∀ e t, bad e t → bad' e t) :
    Ends h act s good' bad' :=
  .intro (fun a t hExec => hGood a t (hEnds.of_ok hExec))
    fun e t hExec => hBad e t (hEnds.of_error hExec)

/-- An action that cannot end with an error ends with a result. -/
theorem Ends.exists_ok (hEnds : Ends h act s good fun _ _ => False) :
    ∃ a t, exec h act s = (.ok a, t) ∧ good a t := by
  rcases hExec : exec h act s with ⟨a | a, t⟩
  · exact (hEnds.of_error hExec).elim
  · exact ⟨_, _, rfl, hEnds.of_ok hExec⟩

/-! ### Rules -/

@[simp] theorem ends_pure (a : α) : Ends h (pure a : Action α) s good bad ↔ good a s := Iff.rfl

@[simp] theorem ends_throw (e : Error) : Ends h (throw e : Action α) s good bad ↔ bad e s := Iff.rfl

@[simp] theorem ends_bind (f : α → Action β) {good : β → σ → Prop} :
    Ends h (act >>= f) s good bad ↔ Ends h act s (fun a t => Ends h (f a) t good bad) bad := by
  unfold Ends
  rw [exec_bind]
  rcases exec h act s with ⟨a | a, t⟩ <;> rfl

@[simp] theorem ends_ofExcept (r : Except Error α) :
    Ends h (ofExcept r) s good bad ↔
      match r with
      | .ok a => good a s
      | .error e => bad e s := by
  cases r <;> rfl

theorem ends_ask (c : Call) {good : c.Answer → σ → Prop} :
    Ends h (ask c) s good bad ↔
      match h.answer c s with
      | (.ok a, t) => good a t
      | (.error e, t) => bad (.transport e) t := by
  unfold Ends
  rw [exec_ask]
  rcases h.answer c s with ⟨a | a, t⟩ <;> rfl

@[simp] theorem ends_tryAsk (c : Call) {good : Except ApiError c.Answer → σ → Prop} :
    Ends h (tryAsk c) s good bad ↔ good (h.answer c s).1 (h.answer c s).2 := Iff.rfl

@[simp] theorem ends_attempt {good : Except Error α → σ → Prop} :
    Ends h (attempt act) s good bad ↔
      Ends h act s (fun a t => good (.ok a) t) fun e t => good (.error e) t := by
  unfold Ends
  rw [exec_attempt]
  rcases exec h act s with ⟨a | a, t⟩ <;> rfl

@[simp] theorem ends_within (f : Family) :
    Ends h (within f act) s good bad ↔ Ends h act s good fun e t => bad (e.within f) t := by
  unfold Ends
  rw [exec_within]
  rcases exec h act s with ⟨a | a, t⟩ <;> rfl

theorem ends_readLocal (path : String) {good : ByteArray → σ → Prop} :
    Ends h (readLocal path) s good bad ↔
      match h.readLocal path s with
      | .ok content => good content s
      | .error fault => bad (.io fault.message) s := by
  unfold Ends
  rw [exec_readLocal]
  cases h.readLocal path s <;> rfl

end Action

/-- The errors of an action in a family are of the family. -/
@[simp] theorem Error.family_within (f : Family) (e : Error) : (e.within f).family = some f := by
  unfold Error.within
  split
  · assumption
  · rfl

/-- An error that has been wrapped for a family belongs to it already. -/
@[simp] theorem Error.within_within (f : Family) (e : Error) :
    (e.within f).within f = e.within f := if_pos (family_within f e)

/-- What an action in a family fails with is of the family. -/
theorem Action.family_of_within {σ α : Type} {h : Program.Handler σ} {f : Family} {act : Action α}
    {s : σ} {e : Error} (hError : (exec h (within f act) s).1 = .error e) : e.family = some f := by
  rw [exec_within] at hError
  cases hExec : (exec h act s).1 with
  | ok a =>
    rw [hExec] at hError
    exact nomatch hError
  | error e' =>
    rw [hExec] at hError
    rw [← Except.error.inj hError, Error.family_within]

/-! ### Backends -/

/-- A call changes the state of a backend alone, as the backend answers it. -/
theorem Simulation.answer_handler {σ : Type} {backend : Backend σ} {c : Call} {s : Simulation σ}
    {a : Except ApiError c.Answer} {t : σ} (h : backend c s.state = (a, t)) :
    (handler backend).answer c s = (a, { s with state := t }) := by
  change ((backend c s.state).1, ({ s with state := (backend c s.state).2 } : Simulation σ)) = _
  rw [h]

/-- The platform in memory answers calls, and local files are read where they are. -/
abbrev Platform.handler : Program.Handler (Simulation Platform) := Simulation.handler Platform.serve

/-- A call changes the platform alone, as it is served. -/
theorem Platform.answer_handler {c : Call} {s : Simulation Platform} {a : Except ApiError c.Answer}
    {q : Platform} (h : s.state.serve c = (a, q)) :
    Platform.handler.answer c s = (a, { s with state := q }) := Simulation.answer_handler h

end SparkFleet
