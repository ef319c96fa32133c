import SparkFleet.Catalog
import SparkFleet.Proofs.Calls
import SparkFleet.Proofs.Platform.Frame

/-!
# Programs with a catalog

`Session.exec` says what a program that shares a catalog ends with against a handler, the catalog
that it leaves and the state.  Its rules are those of actions: a program that fails is not gone on
with (`exec_bind`), and an action runs as it does without a catalog (`exec_act`).

The versions, node types and zones on offer are read with calls that change nothing on the platform
but what is counted, so neither does a program that makes no other calls (`onlyCounted_exec`).
-/

namespace SparkFleet

namespace Session

variable {σ α β : Type} (h : Program.Handler σ)

/-- What a program ends with against a handler, the catalog that it leaves, and the state. -/
def exec (act : Session α) (catalog : Catalog) (s : σ) : (Except Error α × Catalog) × σ :=
  Program.run h (act.run.run catalog) s

/-- The second program starts where the first ends, unless the first fails. -/
theorem exec_bind (act : Session α) (f : α → Session β) (catalog : Catalog) (s : σ) :
    exec h (act >>= f) catalog s =
      match exec h act catalog s with
      | ((.ok a, catalog'), t) => exec h (f a) catalog' t
      | ((.error e, catalog'), t) => ((.error e, catalog'), t) := by
  change Program.run h (Program.bind (act.run.run catalog) _) s = _
  rw [Program.run_bind]
  unfold exec
  -- A failure keeps the catalog that has been reached, and nothing follows it.
  rcases Program.run h (act.run.run catalog) s with ⟨⟨e | a, catalog'⟩, t⟩ <;> rfl

/-- What looks at the catalog goes on from the one that is there. -/
theorem exec_get_bind (f : Catalog → Session α) (catalog : Catalog) (s : σ) :
    exec h (get >>= f) catalog s = exec h (f catalog) catalog s := rfl

/-- An action leaves the catalog. -/
theorem exec_act (act : Action α) (catalog : Catalog) (s : σ) :
    exec h (Session.act act) catalog s =
      (((Action.exec h act s).1, catalog), (Action.exec h act s).2) := by
  change Program.run h (Program.bind act.run _) s = _
  rw [Program.run_bind]
  rfl

theorem exec_within (f : Family) (act : Session α) (catalog : Catalog) (s : σ) :
    exec h (Session.within f act) catalog s =
      ((Action.failWithin f (exec h act catalog s).1.1, (exec h act catalog s).1.2),
        (exec h act catalog s).2) := by
  change Program.run h (Program.bind (act.run.run catalog) _) s = _
  rw [Program.run_bind]
  rfl

/-! ### Calls -/

/-- The calls that a program makes against a handler, with their answers, in order. -/
def exchanges (act : Session α) (catalog : Catalog) (s : σ) : List Exchange :=
  Program.exchanges h (act.run.run catalog) s

/-- A failed program is not gone on with, so no more calls are made. -/
theorem exchanges_bind (act : Session α) (f : α → Session β) (catalog : Catalog) (s : σ) :
    exchanges h (act >>= f) catalog s =
      exchanges h act catalog s ++
        match exec h act catalog s with
        | ((.ok a, catalog'), t) => exchanges h (f a) catalog' t
        | ((.error _, _), _) => [] := by
  refine (Program.exchanges_bind h (act.run.run catalog) _ s).trans (congrArg _ ?_)
  unfold exec
  rcases Program.run h (act.run.run catalog) s with ⟨⟨e | a, catalog'⟩, t⟩ <;> rfl

theorem exchanges_get_bind (f : Catalog → Session α) (catalog : Catalog) (s : σ) :
    exchanges h (get >>= f) catalog s = exchanges h (f catalog) catalog s := rfl

/-- An action makes its calls, whatever the catalog is. -/
theorem exchanges_act (act : Action α) (catalog : Catalog) (s : σ) :
    exchanges h (Session.act act) catalog s = Program.exchanges h act.run s :=
  (Program.exchanges_bind h act.run _ s).trans (List.append_nil _)

/-- The family of its errors does not matter to the calls of a program. -/
theorem exchanges_within (f : Family) (act : Session α) (catalog : Catalog) (s : σ) :
    exchanges h (Session.within f act) catalog s = exchanges h act catalog s :=
  (Program.exchanges_bind h (act.run.run catalog) _ s).trans (List.append_nil _)

/-! ### Conditions on calls -/

/-- Every call of a program satisfies a condition, whatever the catalog is and whatever is
answered. -/
def CallsOnly (ok : Call → Prop) (act : Session α) : Prop :=
  ∀ catalog, (act.run.run catalog).CallsOnly ok

variable {ok : Call → Prop}

theorem CallsOnly.bind {act : Session α} {f : α → Session β} (hOnly : act.CallsOnly ok)
    (hNext : ∀ a, (f a).CallsOnly ok) : (act >>= f).CallsOnly ok := by
  intro catalog
  refine Program.CallsOnly.bind (hOnly catalog) ?_
  rintro ⟨e | a, catalog'⟩
  · trivial
  · exact hNext a catalog'

theorem callsOnly_pure (a : α) : (pure a : Session α).CallsOnly ok := fun _ => trivial

theorem callsOnly_throw (e : Error) : (throw e : Session α).CallsOnly ok := fun _ => trivial

theorem callsOnly_get : (get : Session Catalog).CallsOnly ok := fun _ => trivial

theorem callsOnly_modify (f : Catalog → Catalog) : (modify f : Session Unit).CallsOnly ok :=
  fun _ => trivial

theorem callsOnly_act {act : Action α} (hOnly : act.CallsOnly ok) :
    (Session.act act).CallsOnly ok :=
  fun _ => Program.CallsOnly.bind hOnly fun _ => trivial

/-! ### Conditions on results -/

/-- What a program gives satisfies a condition, whatever the catalog is and whatever is answered. -/
def Yields (good : α → Prop) (act : Session α) : Prop :=
  ∀ ⦃σ : Type⦄ ⦃h : Program.Handler σ⦄ ⦃catalog catalog' : Catalog⦄ ⦃s t : σ⦄ ⦃a : α⦄,
    exec h act catalog s = ((.ok a, catalog'), t) → good a

theorem yields_pure {good : α → Prop} {a : α} (hGood : good a) :
    (pure a : Session α).Yields good := by
  rintro σ h catalog catalog' s t b ⟨⟩
  exact hGood

theorem yields_throw {good : α → Prop} (e : Error) : (throw e : Session α).Yields good := by
  rintro σ h catalog catalog' s t a ⟨⟩

theorem yields_true (act : Session α) : act.Yields fun _ => True :=
  fun _ _ _ _ _ _ _ _ => trivial

/-- A program goes on from a result only if there is one. -/
theorem yields_ofExcept (result : Except Error α) :
    (Session.act (.ofExcept result)).Yields fun a => result = .ok a := by
  rintro σ h catalog catalog' s t a ⟨⟩
  rfl

theorem Yields.bind {first : α → Prop} {good : β → Prop} {act : Session α} {f : α → Session β}
    (hFirst : act.Yields first) (hNext : ∀ a, first a → (f a).Yields good) :
    (act >>= f).Yields good := by
  intro σ h catalog catalog' s t b hExec
  rw [exec_bind] at hExec
  rcases hAct : exec h act catalog s with ⟨⟨e | a, known⟩, u⟩
  · rw [hAct] at hExec
    cases hExec
  · rw [hAct] at hExec
    exact hNext a (hFirst hAct) hExec

end Session

/-! ### Reading what is on offer -/

/-- A call that reads what is on offer. -/
def Call.readsOffer : Call → Bool
  | .clusters .sparkVersions | .clusters .nodeTypes | .clusters .zones => true
  | _ => false

namespace Platform

variable {p q : Platform}

/-- Nothing has changed but what is counted. -/
def OnlyCounted (p q : Platform) : Prop := q = { p with calls := q.calls }

theorem OnlyCounted.refl (p : Platform) : OnlyCounted p p := rfl

theorem OnlyCounted.trans {r : Platform} (hFirst : OnlyCounted p q) (hSecond : OnlyCounted q r) :
    OnlyCounted p r := by
  unfold OnlyCounted at hFirst hSecond
  rw [hFirst] at hSecond
  exact hSecond

theorem OnlyCounted.count (hOnly : OnlyCounted p q) (endpoint : String) :
    OnlyCounted p (q.count endpoint) := by
  unfold OnlyCounted at hOnly ⊢
  rw [hOnly]
  rfl

theorem OnlyCounted.serve {c : Call} (hReads : c.readsOffer = true) (hOnly : OnlyCounted p q) :
    OnlyCounted p (q.serve c).2 := by
  refine serve_induction (hOnly.count _) fun a r hPerform => ?_
  cases c with
  | clusters call =>
    cases call with
    | sparkVersions | nodeTypes | zones =>
      -- The three answers are read off the platform, and only the call is counted.
      cases hPerform
      exact hOnly.count _
    | _ => cases hReads
  | _ => cases hReads

end Platform

namespace Session

variable {α : Type}

/-- A program that only reads what is on offer. -/
def ReadsOffer (act : Session α) : Prop := act.CallsOnly (·.readsOffer = true)

theorem onlyCounted_exec {act : Session α} (hReads : act.ReadsOffer) (catalog : Catalog)
    (s : Simulation Platform) :
    s.state.OnlyCounted (exec Platform.handler act catalog s).2.state :=
  (hReads catalog).run_induction (fun _ _ hReads hOnly => hOnly.serve hReads) (.refl s.state)

/-- What is on offer is read and kept in the catalog. -/
theorem readAndKeep_readsOffer (c : Call) (hReads : c.readsOffer = true)
    (ofAnswer : c.Answer → α) (keep : α → Catalog → Catalog) :
    ReadsOffer (do
      let found := ofAnswer (← act (.ask c))
      modify (keep found)
      return found) := by
  refine .bind (callsOnly_act (Action.callsOnly_ask hReads)) fun answer => ?_
  exact .bind (callsOnly_modify _) fun _ => callsOnly_pure _

theorem sparkVersions_readsOffer : sparkVersions.ReadsOffer := by
  refine .bind callsOnly_get fun catalog => ?_
  cases catalog.sparkVersions with
  | some versions =>
    -- What is known already is not asked for again.
    exact callsOnly_pure versions
  | none =>
    exact readAndKeep_readsOffer (.clusters .sparkVersions) rfl SparkVersions.ofOffer
      fun versions known => { known with sparkVersions := some versions }

theorem nodeTypes_readsOffer : nodeTypes.ReadsOffer := by
  refine .bind callsOnly_get fun catalog => ?_
  cases catalog.nodeTypes with
  | some types => exact callsOnly_pure types
  | none =>
    exact readAndKeep_readsOffer (.clusters .nodeTypes) rfl NodeTypes.ofOffer
      fun types known => { known with nodeTypes := some types }

theorem zones_readsOffer : zones.ReadsOffer := by
  refine .bind callsOnly_get fun catalog => ?_
  cases catalog.zones with
  | some zones => exact callsOnly_pure zones
  | none =>
    exact readAndKeep_readsOffer (.clusters .zones) rfl Zones.ofOffer
      fun zones known => { known with zones := some zones }

end Session

end SparkFleet
