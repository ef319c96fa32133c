import SparkFleet.Proofs.Execution

/-!
# Programs that agree

Two programs agree on a relation of their results if they ask for the same things in the same order,
whatever they are answered, and end with related results.  Agreement is a statement about all
answers, so it is proved along the two programs and then read off for every handler: `Agree.run`
says that agreeing programs leave the same state, and `Agree.calls` that they make the same calls.

`Action.Agree` is agreement of actions, whose results are related where both succeed or where both
fail with related errors.
-/

namespace SparkFleet

namespace Program

variable {α β γ δ σ : Type}

/-- The calls that a program makes against a handler, in order. -/
def calls (h : Handler σ) : Program α → σ → List Call
  | .done _, _ => []
  | .call c next, s => c :: (next (h.answer c s).1).calls h (h.answer c s).2
  | .pause span next, s => (next ()).calls h (h.pause span s)
  | .readLocal path next, s => (next (h.readLocal path s)).calls h s

/-- The same requests in the same order, whatever is answered, and related results. -/
inductive Agree (R : α → β → Prop) : Program α → Program β → Prop where
  | done {a : α} {b : β} (hResult : R a b) : Agree R (.done a) (.done b)
  | call (c : Call) {p : Except ApiError c.Answer → Program α}
      {q : Except ApiError c.Answer → Program β} (hNext : ∀ answer, Agree R (p answer) (q answer)) :
      Agree R (.call c p) (.call c q)
  | pause (span : Span) {p : Unit → Program α} {q : Unit → Program β}
      (hNext : ∀ u, Agree R (p u) (q u)) : Agree R (.pause span p) (.pause span q)
  | readLocal (path : String) {p : Except LocalFault ByteArray → Program α}
      {q : Except LocalFault ByteArray → Program β}
      (hNext : ∀ content, Agree R (p content) (q content)) :
      Agree R (.readLocal path p) (.readLocal path q)

theorem Agree.refl (p : Program α) : Agree Eq p p := by
  induction p with
  | done result => exact .done rfl
  | call c next ih => exact .call c ih
  | pause span next ih => exact .pause span ih
  | readLocal path next ih => exact .readLocal path ih

/-- Programs that go on from related results with agreeing programs agree. -/
theorem Agree.bind {R : α → β → Prop} {S : γ → δ → Prop} {p : Program α} {q : Program β}
    {f : α → Program γ} {g : β → Program δ} (hAgree : Agree R p q)
    (hNext : ∀ a b, R a b → Agree S (f a) (g b)) : Agree S (p.bind f) (q.bind g) := by
  induction hAgree with
  | done hResult => exact hNext _ _ hResult
  | call c _ ih => exact .call c ih
  | pause span _ ih => exact .pause span fun _ => ih ()
  | readLocal path _ ih => exact .readLocal path ih

/-- Agreeing programs end with related results and leave the same state. -/
theorem Agree.run {R : α → β → Prop} {p : Program α} {q : Program β} (hAgree : Agree R p q)
    (h : Handler σ) (s : σ) :
    R (p.run h s).1 (q.run h s).1 ∧ (q.run h s).2 = (p.run h s).2 := by
  induction hAgree generalizing s with
  | done hResult => exact ⟨hResult, rfl⟩
  | call c _ ih => exact ih _ _
  | pause span _ ih => exact ih _ _
  | readLocal path _ ih => exact ih _ _

/-- Agreeing programs make the same calls. -/
theorem Agree.calls {R : α → β → Prop} {p : Program α} {q : Program β} (hAgree : Agree R p q)
    (h : Handler σ) (s : σ) : q.calls h s = p.calls h s := by
  induction hAgree generalizing s with
  | done hResult => rfl
  | call c _ ih => exact congrArg (c :: ·) (ih _ _)
  | pause span _ ih => exact ih _ _
  | readLocal path _ ih => exact ih _ _

end Program

/-! ### Actions -/

/-- Two outcomes of which both are results, related by `R`, or both are errors, related by `E`. -/
inductive Matched {α β : Type} (R : α → β → Prop) (E : Error → Error → Prop) :
    Except Error α → Except Error β → Prop where
  | ok {a : α} {b : β} (hResult : R a b) : Matched R E (.ok a) (.ok b)
  | error {e e' : Error} (hError : E e e') : Matched R E (.error e) (.error e')

/-- What goes on from matched outcomes in a matched way has matched outcomes. -/
theorem Matched.bind {α β γ δ : Type} {R : α → β → Prop} {S : γ → δ → Prop}
    {E : Error → Error → Prop} {x : Except Error α} {y : Except Error β} {f : α → Except Error γ}
    {g : β → Except Error δ} (hMatched : Matched R E x y)
    (hNext : ∀ a b, R a b → Matched S E (f a) (g b)) : Matched S E (x >>= f) (y >>= g) := by
  cases hMatched with
  | ok hResult => exact hNext _ _ hResult
  | error hError => exact .error hError

namespace Action

variable {α β γ δ : Type} {R : α → β → Prop} {S : γ → δ → Prop} {E : Error → Error → Prop}

/-- The same requests in the same order, whatever is answered, and matched outcomes. -/
def Agree (R : α → β → Prop) (E : Error → Error → Prop) (x : Action α) (y : Action β) : Prop :=
  Program.Agree (Matched R E) x.run y.run

theorem Agree.pure {a : α} {b : β} (hResult : R a b) :
    Agree R E (Pure.pure a : Action α) (Pure.pure b : Action β) := .done (.ok hResult)

theorem Agree.throw {e e' : Error} (hError : E e e') :
    Agree R E (MonadExcept.throw e : Action α) (MonadExcept.throw e' : Action β) :=
  .done (.error hError)

theorem Agree.ofExcept {x : Except Error α} {y : Except Error β} (hMatched : Matched R E x y) :
    Agree R E (Action.ofExcept x) (Action.ofExcept y) := .done hMatched

/-- Actions that go on from related results with agreeing actions agree. -/
theorem Agree.bind {x : Action α} {y : Action β} {f : α → Action γ} {g : β → Action δ}
    (hAgree : Agree R E x y) (hNext : ∀ a b, R a b → Agree S E (f a) (g b)) :
    Agree S E (x >>= f) (y >>= g) := by
  refine Program.Agree.bind hAgree fun a b hResult => ?_
  -- After an error neither goes on.
  cases hResult with
  | ok hResult => exact hNext _ _ hResult
  | error hError => exact .done (.error hError)

/-- Both actions look at the answer to the same call. -/
theorem Agree.tryAsk (c : Call) : Agree Eq E (Action.tryAsk c) (Action.tryAsk c) :=
  .call c fun _ => .done (.ok rfl)

/-- An action agrees with itself where the errors of its family are related to themselves. -/
theorem Agree.within_self {f : Family} (x : Action α) (hError : ∀ e, e.family = some f → E e e) :
    Agree Eq E (within f x) (within f x) := by
  refine Program.Agree.bind (Program.Agree.refl x.run) ?_
  rintro (e | a) _ rfl
  · exact .done (.error (hError _ (Error.family_within f e)))
  · exact .done (.ok rfl)

/-- Agreeing actions agree within families that relate their errors. -/
theorem Agree.within {f g : Family} {E' : Error → Error → Prop} {x : Action α} {y : Action β}
    (hAgree : Agree R E x y) (hError : ∀ e e', E e e' → E' (e.within f) (e'.within g)) :
    Agree R E' (within f x) (within g y) := by
  refine Program.Agree.bind hAgree fun a b hResult => ?_
  cases hResult with
  | ok hResult => exact .done (.ok hResult)
  | error h => exact .done (.error (hError _ _ h))

end Action

end SparkFleet
