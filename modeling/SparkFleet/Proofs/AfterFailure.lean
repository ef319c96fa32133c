import SparkFleet.Proofs.FirstFailure

/-!
# What follows a failed call

`Program.Stops` says of a program, whatever is answered, that it ends after the first call that
fails: it makes no other call, or one that cleans up, and what it ends with does not depend on what
comes of that.  Which call cleans up may depend on the calls before it, so the condition is stated
with the calls that a program has behind it.

The rules take an action apart along its structure.  The main statement `Program.Stops.of_failed`
says what this means against a handler: what stands behind the first failed call in the list of the
exchanges, and what the program ends with.
-/

namespace SparkFleet

/-- Which call cleans up after a failed one, with the exchanges before that. -/
abbrev CleanUp := List Exchange → Call → Call → Prop

/-- No call cleans up. -/
def CleanUp.never : CleanUp := fun _ _ _ => False

namespace Program

variable {α β σ : Type} {cleansUp : CleanUp} {before : List Exchange}

/-- The program ends with a result, at once or after one call that cleans up. -/
inductive GivesUp (cleansUp : CleanUp) (before : List Exchange) (failed : Call) (result : α) :
    Program α → Prop
  | ends : GivesUp cleansUp before failed result (.done result)
  | cleansUp {c : Call} {next : Except ApiError c.Answer → Program α}
    (hCleans : cleansUp before failed c) (hEnds : ∀ answer, next answer = .done result) :
    GivesUp cleansUp before failed result (.call c next)

/-- With these exchanges behind it, the program gives up after the first call that fails, with a
result that is a failure for that reason. -/
def Stops (cleansUp : CleanUp) (fails : ApiError → α → Prop) : List Exchange → Program α → Prop
  | _, .done _ => True
  | before, .call c next =>
    (∀ a, (next (.ok a)).Stops cleansUp fails (before ++ [⟨c, .ok a⟩])) ∧
      ∀ cause, ∃ result, fails cause result ∧
        GivesUp cleansUp before c result (next (.error cause))
  | before, .pause _ next => (next ()).Stops cleansUp fails before
  | before, .readLocal _ next => ∀ content, (next content).Stops cleansUp fails before

variable {fails : ApiError → α → Prop} {fails' : ApiError → β → Prop}

theorem GivesUp.bind {program : Program α} {failed : Call} {result : α} {result' : β}
    {f : α → Program β} (hGives : GivesUp cleansUp before failed result program)
    (hResult : f result = .done result') :
    GivesUp cleansUp before failed result' (program.bind f) := by
  cases hGives with
  | ends =>
    change GivesUp _ _ _ _ (f result)
    rw [hResult]
    exact .ends
  | cleansUp hCleans hEnds =>
    refine .cleansUp hCleans fun answer => ?_
    rw [hEnds]
    exact hResult

/-- A program that stops is not gone on with after a failure. -/
theorem Stops.bind {program : Program α} {f : α → Program β}
    (hFirst : program.Stops cleansUp fails before)
    (hNext : ∀ result more, (f result).Stops cleansUp fails' (before ++ more))
    (hFails : ∀ cause result, fails cause result →
      ∃ result', fails' cause result' ∧ f result = .done result') :
    (program.bind f).Stops cleansUp fails' before := by
  induction program generalizing before with
  | done result =>
    have hHere := hNext result []
    rwa [List.append_nil] at hHere
  | call c next ih =>
    refine ⟨fun a => ih _ (hFirst.1 a) fun result more => ?_, fun cause => ?_⟩
    · rw [List.append_assoc]
      exact hNext result _
    · -- The first part gives up here, and what follows it only passes the failure on.
      obtain ⟨result, hFailed, hGives⟩ := hFirst.2 cause
      obtain ⟨result', hFailed', hResult⟩ := hFails cause result hFailed
      exact ⟨result', hFailed', hGives.bind hResult⟩
  | pause span next ih => exact ih () hFirst hNext
  | readLocal path next ih => exact fun content => ih content (hFirst content) hNext

theorem GivesUp.eq_done {program : Program α} {failed : Call} {result : α}
    (hGives : GivesUp .never before failed result program) : program = .done result := by
  cases hGives with
  | ends => rfl
  | cleansUp hCleans _ => exact hCleans.elim

/-- A program that never cleans up itself may be followed by one that does so for it. -/
theorem Stops.bind_of_never {program : Program α} {f : α → Program β}
    (hFirst : program.Stops .never fails before)
    (hNext : ∀ result more, (f result).Stops cleansUp fails' (before ++ more))
    (hFails : ∀ cause result failed more, fails cause result →
      ∃ result', fails' cause result' ∧
        GivesUp cleansUp (before ++ more) failed result' (f result)) :
    (program.bind f).Stops cleansUp fails' before := by
  induction program generalizing before with
  | done result =>
    have hHere := hNext result []
    rwa [List.append_nil] at hHere
  | call c next ih =>
    refine ⟨fun a => ih _ (hFirst.1 a) (fun result more => ?_) fun cause result failed more => ?_,
      fun cause => ?_⟩
    · rw [List.append_assoc]
      exact hNext result _
    · rw [List.append_assoc]
      exact hFails cause result failed _
    · obtain ⟨result, hFailed, hGives⟩ := hFirst.2 cause
      -- Without a clean-up the first part is over, so it is what follows that gives up.
      have hGives' := hFails cause result c [] hFailed
      rwa [List.append_nil, ← show (next (.error cause)).bind f = f result by
        rw [hGives.eq_done]; rfl] at hGives'
  | pause span next ih => exact ih () hFirst hNext hFails
  | readLocal path next ih => exact fun content => ih content (hFirst content) hNext hFails

/-- A program that never cleans up satisfies what one that may do so satisfies. -/
theorem Stops.mono {program : Program α} (hStops : program.Stops .never fails before) :
    program.Stops cleansUp fails before := by
  rw [← bind_done program]
  exact hStops.bind_of_never (fun _ _ => trivial) fun _ result _ _ hFailed =>
    ⟨result, hFailed, .ends⟩

/-- The calls of a program that has given up, and what it ends with. -/
theorem GivesUp.exchanges {program : Program α} {failed : Call} {result : α}
    (hGives : GivesUp cleansUp before failed result program) (h : Handler σ) (s : σ) :
    (program.run h s).1 = result ∧ (program.exchanges h s = [] ∨
      ∃ x, program.exchanges h s = [x] ∧ cleansUp before failed x.call) := by
  cases hGives with
  | ends => exact ⟨rfl, .inl rfl⟩
  | @cleansUp c next hCleans hEnds =>
    refine ⟨?_, .inr ⟨⟨c, (h.answer c s).1⟩, ?_, hCleans⟩⟩
    · change ((next (h.answer c s).1).run h _).1 = _
      rw [hEnds]
      rfl
    · change _ :: (next (h.answer c s).1).exchanges h _ = _
      rw [hEnds]
      rfl

/-- After the first call that fails a program that stops makes at most one call, which cleans up,
and it ends with a failure. -/
theorem Stops.of_failed {program : Program α} (hStops : program.Stops cleansUp fails before)
    {h : Handler σ} {s : σ} {first after : List Exchange} {failed : Exchange} {cause : ApiError}
    (hCalls : program.exchanges h s = first ++ failed :: after)
    (hFirst : firstFailure? first = none) (hFailed : failed.failure? = some cause) :
    fails cause (program.run h s).1 ∧
      (after = [] ∨ ∃ x, after = [x] ∧ cleansUp (before ++ first) failed.call x.call) := by
  induction program generalizing before first s with
  | done result => exact absurd hCalls.symm (by simp [exchanges])
  | pause span next ih => exact ih () hStops hCalls hFirst
  | readLocal path next ih => exact ih _ (hStops _) hCalls hFirst
  | call c next ih =>
    change _ :: (next (h.answer c s).1).exchanges h (h.answer c s).2 = _ at hCalls
    change fails cause ((next (h.answer c s).1).run h (h.answer c s).2).1 ∧ _
    cases first with
    | nil =>
      obtain ⟨rfl, rfl⟩ := List.cons.inj hCalls
      cases hAnswer : (h.answer c s).1 with
      | ok a =>
        rw [hAnswer] at hFailed
        cases hFailed
      | error cause' =>
        rw [hAnswer] at hFailed
        cases hFailed
        obtain ⟨result, hResult, hGives⟩ := hStops.2 cause
        obtain ⟨hRun, hAfter⟩ := hGives.exchanges h (h.answer c s).2
        rw [hRun, List.append_nil]
        exact ⟨hResult, hAfter⟩
    | cons x first =>
      -- The first call has not failed, as it lies before the failure, and joins what is behind.
      obtain ⟨rfl, hRest⟩ := List.cons.inj hCalls
      cases hAnswer : (h.answer c s).1 with
      | error cause' =>
        rw [hAnswer] at hFirst
        cases hFirst
      | ok a =>
        rw [hAnswer] at hFirst hRest
        have hMore := ih _ (hStops.1 a) hRest hFirst
        rwa [List.append_assoc] at hMore

end Program

namespace Action

variable {α β : Type} {cleansUp : CleanUp} {before : List Exchange}

/-- With these exchanges behind it, the action gives up with an error after the first call that
fails. -/
def StopsAfter (cleansUp : CleanUp) (before : List Exchange) (act : Action α) : Prop :=
  Program.Stops cleansUp (fun _ result => ∃ e, result = .error e) before act.run

/-- The first call of the action that fails is the last, and the action fails. -/
def Stops (act : Action α) : Prop := ∀ before, act.StopsAfter .never before

variable {act : Action α} {f : α → Action β}

theorem Stops.after (hStops : act.Stops) : act.StopsAfter cleansUp before := (hStops before).mono

theorem StopsAfter.bind (hAct : act.StopsAfter cleansUp before)
    (hNext : ∀ a more, (f a).StopsAfter cleansUp (before ++ more)) :
    (act >>= f).StopsAfter cleansUp before := by
  refine Program.Stops.bind hAct (fun result more => ?_) ?_
  · cases result with
    | ok a => exact hNext a more
    | error e =>
      trivial
  · rintro cause result ⟨e, rfl⟩
    exact ⟨.error e, ⟨e, rfl⟩, rfl⟩

theorem StopsAfter.within (hAct : act.StopsAfter cleansUp before) (f : Family) :
    (within f act).StopsAfter cleansUp before := by
  refine Program.Stops.bind hAct (fun _ _ => trivial) ?_
  rintro cause result ⟨e, rfl⟩
  exact ⟨.error (e.within f), ⟨_, rfl⟩, rfl⟩

/-- What follows a call has the call behind it. -/
theorem stopsAfter_ask_bind {c : Call} {next : c.Answer → Action α}
    (hNext : ∀ a, (next a).StopsAfter cleansUp (before ++ [⟨c, .ok a⟩])) :
    (ask c >>= next).StopsAfter cleansUp before :=
  ⟨hNext, fun cause => ⟨.error (.transport cause), ⟨_, rfl⟩, .ends⟩⟩

/-- An action that looks at a failure may clean up, and must fail. -/
theorem stopsAfter_tryAsk_bind {c : Call} {next : Except ApiError c.Answer → Action α}
    (hOk : ∀ a, (next (.ok a)).StopsAfter cleansUp (before ++ [⟨c, .ok a⟩]))
    (hError : ∀ cause, ∃ e,
      Program.GivesUp cleansUp before c (.error e) (next (.error cause)).run) :
    (tryAsk c >>= next).StopsAfter cleansUp before := by
  refine ⟨hOk, fun cause => ?_⟩
  obtain ⟨e, hGives⟩ := hError cause
  exact ⟨.error e, ⟨e, rfl⟩, hGives⟩

/-- An action whose failure is looked at may be followed by a call that cleans up. -/
theorem stopsAfter_attempt_bind {next : Except Error α → Action β} (hAct : act.Stops)
    (hNext : ∀ result more, (next result).StopsAfter cleansUp (before ++ more))
    (hError : ∀ e failed more, ∃ e',
      Program.GivesUp cleansUp (before ++ more) failed (.error e') (next (.error e)).run) :
    (attempt act >>= next).StopsAfter cleansUp before := by
  have hRun : (attempt act >>= next).run = act.run.bind fun result => (next result).run :=
    Program.bind_assoc act.run _ _
  unfold StopsAfter
  rw [hRun]
  refine Program.Stops.bind_of_never (hAct before) hNext ?_
  rintro cause result failed more ⟨e, rfl⟩
  obtain ⟨e', hGives⟩ := hError e failed more
  exact ⟨.error e', ⟨e', rfl⟩, hGives⟩

/-! ### Actions that never clean up -/

theorem stops_pure (a : α) : (pure a : Action α).Stops := fun _ => trivial

theorem stops_throw (e : Error) : (throw e : Action α).Stops := fun _ => trivial

theorem stops_ofExcept (result : Except Error α) : (ofExcept result).Stops := fun _ => trivial

theorem stops_pause (span : Span) : (pause span).Stops := fun _ => trivial

theorem stops_readLocal (path : String) : (readLocal path).Stops := by
  intro before content
  cases content <;> trivial

theorem stops_ask (c : Call) : (ask c).Stops :=
  fun _ => ⟨fun _ => trivial, fun cause => ⟨.error (.transport cause), ⟨_, rfl⟩, .ends⟩⟩

theorem Stops.bind (hAct : act.Stops) (hNext : ∀ a, (f a).Stops) : (act >>= f).Stops :=
  fun before => (hAct before).bind fun a _ => hNext a _

theorem Stops.within (hAct : act.Stops) (f : Family) : (within f act).Stops :=
  fun before => (hAct before).within f

/-- An action that looks at a failure only to fail. -/
theorem stops_tryAsk_bind {c : Call} {next : Except ApiError c.Answer → Action α}
    (hOk : ∀ a, (next (.ok a)).Stops) (hError : ∀ cause, ∃ e, next (.error cause) = throw e) :
    (tryAsk c >>= next).Stops := by
  refine fun before => stopsAfter_tryAsk_bind (fun a => hOk a _) fun cause => ?_
  obtain ⟨e, hThrow⟩ := hError cause
  rw [hThrow]
  exact ⟨e, .ends⟩

/-- A wait stops where its polls do. -/
theorem stops_pollUntil {poll : Nat → Action (Option α)} (hPoll : ∀ k, (poll k).Stops)
    (o : WaitOptions) (what : String) : (Wait.pollUntil o what poll).Stops := by
  suffices hFrom : ∀ pauses k, (waitFrom o what poll k pauses).Stops from hFrom o.pauses 0
  intro pauses
  induction pauses with
  | zero =>
    -- The deadline comes before another poll, and giving up makes no call.
    intro k
    rw [waitFrom_zero]
    refine (hPoll k).bind fun found => ?_
    cases found with
    | some value => exact stops_pure value
    | none => exact (stops_pause _).bind fun _ => stops_throw _
  | succ pauses ih =>
    intro k
    rw [waitFrom_succ]
    refine (hPoll k).bind fun found => ?_
    cases found with
    | some value => exact stops_pure value
    | none => exact (stops_pause _).bind fun _ => ih (k + 1)

end Action

namespace Session

variable {α β : Type} {cleansUp : CleanUp} {before : List Exchange}

/-- With these exchanges behind it, and whatever the catalog is, the program gives up with an error
after the first call that fails. -/
def StopsAfter (cleansUp : CleanUp) (before : List Exchange) (act : Session α) : Prop :=
  ∀ known, Program.Stops cleansUp (fun _ result => ∃ e, result.1 = .error e) before
    (act.run.run known)

/-- The first call of the program that fails is the last, and the program fails. -/
def Stops (act : Session α) : Prop := ∀ before, act.StopsAfter .never before

theorem stopsAfter_act {act : Action α} (hAct : act.StopsAfter cleansUp before) :
    (Session.act act).StopsAfter cleansUp before := by
  refine fun known => Program.Stops.bind hAct (fun _ _ => trivial) ?_
  rintro cause result ⟨e, rfl⟩
  exact ⟨(.error e, known), ⟨e, rfl⟩, rfl⟩

variable {act : Session α} {f : α → Session β}

theorem Stops.after (hStops : act.Stops) : act.StopsAfter cleansUp before :=
  fun known => (hStops before known).mono

theorem stops_pure (a : α) : (pure a : Session α).Stops := fun _ _ => trivial

theorem stops_throw (e : Error) : (throw e : Session α).Stops := fun _ _ => trivial

theorem stops_get : (get : Session Catalog).Stops := fun _ _ => trivial

theorem stops_modify (f : Catalog → Catalog) : (modify f : Session Unit).Stops :=
  fun _ _ => trivial

theorem stops_act {act : Action α} (hAct : act.Stops) : (Session.act act).Stops :=
  fun before => stopsAfter_act (hAct before)

theorem Stops.bind (hAct : act.Stops) (hNext : ∀ a, (f a).Stops) : (act >>= f).Stops := by
  refine fun before known => Program.Stops.bind (hAct before known) ?_ ?_
  · rintro ⟨e | a, known'⟩ more
    · trivial
    · exact hNext a _ known'
  · rintro cause ⟨_, known'⟩ ⟨e, rfl⟩
    exact ⟨(.error e, known'), ⟨e, rfl⟩, rfl⟩

theorem Stops.within (hAct : act.Stops) (f : Family) : (Session.within f act).Stops := by
  refine fun before known => Program.Stops.bind (hAct before known) (fun _ _ => trivial) ?_
  rintro cause ⟨_, known'⟩ ⟨e, rfl⟩
  exact ⟨(.error (e.within f), known'), ⟨_, rfl⟩, rfl⟩

end Session

end SparkFleet
