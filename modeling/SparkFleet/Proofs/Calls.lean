import SparkFleet.Proofs.Agreement

/-!
# What a program calls

Against a handler, `Program.exchanges` lists the calls that a program makes with the answers that it
is given, and `Program.calls` the calls alone.  One program after another makes its calls after
those of the first (`exchanges_bind`), and an action that fails makes no more of them
(`Action.exchanges_bind`).

`CallsOnly` says that every call of a program satisfies a condition, whatever is answered.  What all
such calls keep on the platform, the program keeps (`Program.CallsOnly.run_induction`).
-/

namespace SparkFleet

/-- A call with its answer. -/
structure Exchange where
  call : Call
  answer : Except ApiError call.Answer

/-- The failure that the call is answered with. -/
def Exchange.failure? : Exchange → Option ApiError
  | ⟨_, .ok _⟩ => none
  | ⟨_, .error cause⟩ => some cause

namespace Program

variable {α β σ : Type} {ok : Call → Prop}

/-- The calls that a program makes against a handler, with their answers, in order. -/
def exchanges (h : Handler σ) : Program α → σ → List Exchange
  | .done _, _ => []
  | .call c next, s =>
    ⟨c, (h.answer c s).1⟩ :: (next (h.answer c s).1).exchanges h (h.answer c s).2
  | .pause span next, s => (next ()).exchanges h (h.pause span s)
  | .readLocal path next, s => (next (h.readLocal path s)).exchanges h s

theorem map_call_exchanges (h : Handler σ) (p : Program α) (s : σ) :
    (p.exchanges h s).map Exchange.call = p.calls h s := by
  induction p generalizing s with
  | done result => rfl
  | call c next ih => exact congrArg (c :: ·) (ih _ _)
  | pause span next ih => exact ih _ _
  | readLocal path next ih => exact ih _ _

/-- One program after another makes its calls after those of the first. -/
theorem exchanges_bind (h : Handler σ) (p : Program α) (f : α → Program β) (s : σ) :
    (p.bind f).exchanges h s =
      p.exchanges h s ++ (f (p.run h s).1).exchanges h (p.run h s).2 := by
  induction p generalizing s with
  | done result => rfl
  | call c next ih => exact congrArg (⟨c, (h.answer c s).1⟩ :: ·) (ih _ _)
  | pause span next ih => exact ih _ _
  | readLocal path next ih => exact ih _ _

/-! ### Conditions on calls -/

/-- Every call of a program satisfies a condition, whatever is answered. -/
def CallsOnly (ok : Call → Prop) : Program α → Prop
  | .done _ => True
  | .call c next => ok c ∧ ∀ answer, (next answer).CallsOnly ok
  | .pause _ next => (next ()).CallsOnly ok
  | .readLocal _ next => ∀ content, (next content).CallsOnly ok

theorem CallsOnly.bind {program : Program α} {f : α → Program β} (h : program.CallsOnly ok)
    (hNext : ∀ a, (f a).CallsOnly ok) : (program.bind f).CallsOnly ok := by
  induction program with
  | done result => exact hNext result
  | call c next ih => exact ⟨h.1, fun answer => ih answer (h.2 answer)⟩
  | pause span next ih => exact ih () h
  | readLocal path next ih => exact fun content => ih content (h content)

theorem CallsOnly.mono {ok' : Call → Prop} {program : Program α} (hOnly : program.CallsOnly ok)
    (hImplies : ∀ c, ok c → ok' c) : program.CallsOnly ok' := by
  induction program with
  | done result => trivial
  | call c next ih => exact ⟨hImplies c hOnly.1, fun answer => ih answer (hOnly.2 answer)⟩
  | pause span next ih => exact ih () hOnly
  | readLocal path next ih => exact fun content => ih content (hOnly content)

/-- The calls that are made against a handler satisfy the condition. -/
theorem CallsOnly.of_mem {program : Program α} (hOnly : program.CallsOnly ok) {h : Handler σ}
    {s : σ} {x : Exchange} (hMem : x ∈ program.exchanges h s) : ok x.call := by
  induction program generalizing s with
  | done result => cases hMem
  | call c next ih =>
    -- It is the first call, or one of those that follow the answer to it.
    obtain rfl | hRest := List.mem_cons.1 hMem
    · exact hOnly.1
    · exact ih _ (hOnly.2 _) hRest
  | pause span next ih => exact ih _ hOnly hMem
  | readLocal path next ih => exact ih _ (hOnly _) hMem

/-- What every call that satisfies the condition keeps on the platform, the program keeps. -/
theorem CallsOnly.run_induction {program : Program α} (hOnly : program.CallsOnly ok)
    {motive : Platform → Prop} (hStep : ∀ c p, ok c → motive p → motive (p.serve c).2)
    {s : Simulation Platform} (hStart : motive s.state) :
    motive (program.run Platform.handler s).2.state := by
  induction program generalizing s with
  | done result => exact hStart
  | call c next ih => exact ih _ (hOnly.2 _) (hStep c s.state hOnly.1 hStart)
  | pause span next ih => exact ih _ hOnly hStart
  | readLocal path next ih => exact ih _ (hOnly _) hStart

end Program

namespace Action

variable {α β σ : Type} {ok : Call → Prop} (h : Program.Handler σ)

/-- A failed action is not gone on with, so no more calls are made. -/
theorem exchanges_bind (act : Action α) (f : α → Action β) (s : σ) :
    Program.exchanges h (act >>= f).run s =
      Program.exchanges h act.run s ++
        match exec h act s with
        | (.ok a, t) => Program.exchanges h (f a).run t
        | (.error _, _) => [] := by
  refine (Program.exchanges_bind h act.run _ s).trans (congrArg _ ?_)
  unfold exec
  rcases Program.run h act.run s with ⟨e | a, t⟩ <;> rfl

/-- The family of its errors does not matter to the calls of an action. -/
theorem exchanges_within (f : Family) (act : Action α) (s : σ) :
    Program.exchanges h (within f act).run s = Program.exchanges h act.run s :=
  (Program.exchanges_bind h act.run _ s).trans (List.append_nil _)

theorem exchanges_ask (c : Call) (s : σ) :
    Program.exchanges h (ask c).run s = [⟨c, (h.answer c s).1⟩] := rfl

theorem exchanges_attempt (act : Action α) (s : σ) :
    Program.exchanges h (attempt act).run s = Program.exchanges h act.run s :=
  (Program.exchanges_bind h act.run _ s).trans (List.append_nil _)

/-! ### Conditions on calls -/

/-- Every call of an action satisfies a condition, whatever is answered. -/
def CallsOnly (ok : Call → Prop) (act : Action α) : Prop := Program.CallsOnly ok act.run

variable {act : Action α}

theorem CallsOnly.bind {f : α → Action β} (h : act.CallsOnly ok)
    (hNext : ∀ a, (f a).CallsOnly ok) : (act >>= f).CallsOnly ok := by
  refine Program.CallsOnly.bind h fun result => ?_
  cases result with
  | ok a => exact hNext a
  | error e => trivial

theorem CallsOnly.within (h : act.CallsOnly ok) (f : Family) : (within f act).CallsOnly ok :=
  Program.CallsOnly.bind h fun _ => trivial

theorem callsOnly_ask {c : Call} (h : ok c) : (ask c).CallsOnly ok := ⟨h, fun _ => trivial⟩

theorem callsOnly_tryAsk {c : Call} (h : ok c) : (tryAsk c).CallsOnly ok := ⟨h, fun _ => trivial⟩

theorem callsOnly_pure (a : α) : (pure a : Action α).CallsOnly ok := trivial

theorem callsOnly_throw (e : Error) : (throw e : Action α).CallsOnly ok := trivial

theorem callsOnly_ofExcept (result : Except Error α) : (ofExcept result).CallsOnly ok := trivial

theorem callsOnly_readLocal (path : String) : (readLocal path).CallsOnly ok := by
  intro content
  cases content <;> trivial

theorem failWithin_eq_ok {f : Family} {result : Except Error α} {a : α}
    (hOk : failWithin f result = .ok a) : result = .ok a := by
  cases result with
  | ok b => exact hOk
  | error e => cases hOk

/-- What follows an action without a call adds none. -/
theorem calls_bind_quiet (act : Action α) {f : α → Action β}
    (hQuiet : ∀ a s, Program.calls h (f a).run s = []) (s : σ) :
    Program.calls h (act >>= f).run s = Program.calls h act.run s := by
  rw [← Program.map_call_exchanges, ← Program.map_call_exchanges, exchanges_bind, List.map_append]
  rcases exec h act s with ⟨e | a, t⟩
  · exact List.append_nil _
  · dsimp only
    rw [Program.map_call_exchanges h (f a).run, hQuiet, List.append_nil]

theorem calls_within_ask (f : Family) (c : Call) (s : σ) :
    Program.calls h (within f (ask c)).run s = [c] := by
  rw [← Program.map_call_exchanges, exchanges_within, exchanges_ask]
  rfl

theorem calls_within_ask_pure (f : Family) (c : Call) (g : c.Answer → α) (s : σ) :
    Program.calls h (within f (ask c >>= fun a => pure (g a))).run s = [c] := by
  rw [← Program.map_call_exchanges, exchanges_within, Program.map_call_exchanges,
    calls_bind_quiet h _ fun _ _ => rfl, ← Program.map_call_exchanges, exchanges_ask]
  rfl

/-! ### Actions that begin with a call -/

variable {h} {c : Call} {s t : σ}

/-- An action that begins with a call goes on from the answer. -/
theorem ask_bind_of_ok {a : c.Answer} (hAnswer : h.answer c s = (.ok a, t))
    (next : c.Answer → Action α) :
    exec h (ask c >>= next) s = exec h (next a) t ∧
      Program.exchanges h (ask c >>= next).run s =
        ⟨c, .ok a⟩ :: Program.exchanges h (next a).run t := by
  constructor
  · rw [exec_bind, exec_ask, hAnswer]
    rfl
  · change ⟨c, (h.answer c s).1⟩ :: Program.exchanges h _ (h.answer c s).2 = _
    rw [hAnswer]
    rfl

/-- An action that begins with a call that fails ends there. -/
theorem ask_bind_of_error {e : ApiError} (hAnswer : h.answer c s = (.error e, t))
    (next : c.Answer → Action α) :
    exec h (ask c >>= next) s = (.error (.transport e), t) ∧
      Program.exchanges h (ask c >>= next).run s = [⟨c, .error e⟩] := by
  constructor
  · rw [exec_bind, exec_ask, hAnswer]
    rfl
  · change ⟨c, (h.answer c s).1⟩ :: Program.exchanges h _ (h.answer c s).2 = _
    rw [hAnswer]
    rfl

/-- An action that begins with a call whose failure it looks at goes on from either answer. -/
theorem tryAsk_bind {answer : Except ApiError c.Answer} (hAnswer : h.answer c s = (answer, t))
    (next : Except ApiError c.Answer → Action α) :
    exec h (tryAsk c >>= next) s = exec h (next answer) t ∧
      Program.exchanges h (tryAsk c >>= next).run s =
        ⟨c, answer⟩ :: Program.exchanges h (next answer).run t := by
  constructor
  · change exec h (next (h.answer c s).1) (h.answer c s).2 = _
    rw [hAnswer]
  · change ⟨c, (h.answer c s).1⟩ :: Program.exchanges h _ (h.answer c s).2 = _
    rw [hAnswer]
    rfl

end Action

open SparkFleet.Action (exec)

variable {σ α : Type} {h : Program.Handler σ} {c : Call} {s t : σ}

/-- An action that begins with a call goes on from the answer. -/
theorem exec_within_ask {a : c.Answer} (hAnswer : h.answer c s = (.ok a, t)) (f : Family)
    (next : c.Answer → Action α) :
    exec h (.within f (.ask c >>= next)) s = exec h (.within f (next a)) t ∧
      Program.calls h (Action.within f (.ask c >>= next)).run s =
        c :: Program.calls h (Action.within f (next a)).run t := by
  obtain ⟨hExec, hExchanges⟩ := Action.ask_bind_of_ok hAnswer next
  simp only [Action.exec_within, hExec, ← Program.map_call_exchanges, Action.exchanges_within,
    hExchanges, List.map_cons, and_self]

/-- An action that begins with a call that fails ends there. -/
theorem exec_within_ask_error {e : ApiError} (hAnswer : h.answer c s = (.error e, t)) (f : Family)
    (next : c.Answer → Action α) :
    exec h (.within f (.ask c >>= next)) s = (.error ((Error.transport e).within f), t) ∧
      Program.calls h (Action.within f (.ask c >>= next)).run s = [c] := by
  obtain ⟨hExec, hExchanges⟩ := Action.ask_bind_of_error hAnswer next
  simp only [Action.exec_within, hExec, ← Program.map_call_exchanges, Action.exchanges_within,
    hExchanges, List.map_cons, List.map_nil, and_true]
  rfl

end SparkFleet
