import SparkFleet.Proofs.FirstFailure

/-!
# How long a wait takes

A wait whose polls find nothing until a certain one takes the pauses before that poll, if they fit
into the time that it has, and all of the time otherwise.

`FindsAt` says of polls that they find a value at the `m`-th, counted from zero, with an invariant
of the platform that each of them keeps on its way.  The main statement `FindsAt.takes` derives from
it when the wait succeeds, how long it takes and which calls it makes.
-/

namespace SparkFleet

open SparkFleet.Action (exec waitFrom)

namespace WaitOptions

variable {o : WaitOptions}

theorem pause_pos (hInterval : 0 < o.interval.nanos) : 0 < o.pause.nanos := by
  unfold pause
  split
  · decide
  · exact hInterval

/-- A pause of up to thirty years is as long as the interval that is asked for. -/
theorem pause_nanos (o : WaitOptions) :
    o.pause.nanos = min o.interval.nanos longestPause.nanos := by
  unfold pause
  split <;> omega

theorem pauses_eq (hInterval : 0 < o.interval.nanos) :
    o.pauses = o.timeout.nanos / o.pause.nanos :=
  if_neg (Nat.pos_iff_ne_zero.1 hInterval)

/-- The pauses and what is left after them make up the time that a wait has. -/
theorem pauses_mul_add_rest (hInterval : 0 < o.interval.nanos) :
    o.pauses * o.pause.nanos + o.rest.nanos = o.timeout.nanos := by
  have hFits : o.pauses * o.pause.nanos ≤ o.timeout.nanos := by
    rw [pauses_eq hInterval]
    exact Nat.div_mul_le_self _ _
  change _ + (o.timeout.nanos - o.pauses * o.pause.nanos) = _
  omega

end WaitOptions

namespace Wait

variable {α : Type}

/-- The polls of a wait find nothing before the `m`-th, which finds a value; each makes one call. -/
structure FindsAt (poll : Nat → Action (Option α)) (c : Call) (m : Nat) (good : α → Prop)
    (inv : Nat → Platform → Prop) : Prop where
  calls : ∀ k s, Program.calls Platform.handler (poll k).run s = [c]
  before : ∀ k (s : Simulation Platform), k < m → inv k s.state →
    ∃ q, exec Platform.handler (poll k) s = (.ok none, { s with state := q }) ∧ inv (k + 1) q
  found : ∀ s : Simulation Platform, inv m s.state →
    ∃ value q, exec Platform.handler (poll m) s = (.ok (some value), { s with state := q }) ∧
      good value

/-- A wait succeeds exactly if `m` pauses fit into its time, and takes just these.  Otherwise it is
given up when the time is over. -/
structure Takes (o : WaitOptions) (what : String) (c : Call) (m : Nat) (good : α → Prop)
    (s : Simulation Platform) (wait : Action α) : Prop where
  inTime : m * o.pause.nanos ≤ o.timeout.nanos → ∃ value t,
    exec Platform.handler wait s = (.ok value, t) ∧ good value ∧
      t.clock.nanos = s.clock.nanos + m * o.pause.nanos ∧
      Program.calls Platform.handler wait.run s = List.replicate (m + 1) c
  late : o.timeout.nanos < m * o.pause.nanos → ∃ t,
    exec Platform.handler wait s = (.error (.timeout what o.timeout), t) ∧
      t.clock.nanos = s.clock.nanos + o.timeout.nanos ∧
      Program.calls Platform.handler wait.run s =
        List.replicate (o.timeout.nanos / o.pause.nanos + 1) c

section

variable {poll : Nat → Action (Option α)} {c : Call} {m : Nat} {good : α → Prop}
  {inv : Nat → Platform → Prop} (hFinds : FindsAt poll c m good inv) (o : WaitOptions)
  (what : String)

/-- A poll that finds nothing is followed by a pause. -/
theorem poll_none {act : Action (Option α)} {s t : Simulation Platform}
    (hExec : exec Platform.handler act s = (.ok none, t))
    (hCalls : Program.calls Platform.handler act.run s = [c]) (span : Span) (next : Action α) :
    let wait := act >>= fun found =>
      match found with
      | some value => pure value
      | none => Action.pause span >>= fun _ => next
    exec Platform.handler wait s = exec Platform.handler next { t with clock := t.clock + span } ∧
      Program.calls Platform.handler wait.run s =
        c :: Program.calls Platform.handler next.run { t with clock := t.clock + span } := by
  intro wait
  have hWait : wait = act >>= _ := rfl
  rw [← Program.map_call_exchanges] at hCalls ⊢
  rw [hWait, Action.exec_bind, Action.exchanges_bind, hExec, List.map_append, hCalls,
    ← Program.map_call_exchanges]
  exact ⟨rfl, rfl⟩

/-- A poll that finds a value ends the wait. -/
theorem poll_some {act : Action (Option α)} {s t : Simulation Platform} {value : α}
    (hExec : exec Platform.handler act s = (.ok (some value), t))
    (hCalls : Program.calls Platform.handler act.run s = [c]) (next : Action α) :
    let wait := act >>= fun found =>
      match found with
      | some value => pure value
      | none => next
    exec Platform.handler wait s = (.ok value, t) ∧
      Program.calls Platform.handler wait.run s = [c] := by
  intro wait
  have hWait : wait = act >>= _ := rfl
  rw [← Program.map_call_exchanges] at hCalls ⊢
  rw [hWait, Action.exec_bind, Action.exchanges_bind, hExec, List.map_append, hCalls]
  exact ⟨rfl, rfl⟩

variable (poll) in
/-- A wait whose first poll fails ends with it. -/
theorem pollUntil_of_error {s t : Simulation Platform} {e : Error}
    (hExec : exec Platform.handler (poll 0) s = (.error e, t)) :
    exec Platform.handler (pollUntil o what poll) s = (.error e, t) ∧
      Program.calls Platform.handler (pollUntil o what poll).run s =
        Program.calls Platform.handler (poll 0).run s := by
  -- Whatever follows the first poll, it is not come to.
  have hEnds (next : Option α → Action α) :
      exec Platform.handler (poll 0 >>= next) s = (.error e, t) ∧
        Program.calls Platform.handler (poll 0 >>= next).run s =
          Program.calls Platform.handler (poll 0).run s := by
    rw [← Program.map_call_exchanges, ← Program.map_call_exchanges, Action.exec_bind,
      Action.exchanges_bind, hExec]
    exact ⟨rfl, congrArg _ (List.append_nil _)⟩
  change exec Platform.handler (waitFrom o what poll 0 o.pauses) s = _ ∧
    Program.calls Platform.handler (waitFrom o what poll 0 o.pauses).run s = _
  cases o.pauses with
  | zero =>
    rw [Action.waitFrom_zero]
    exact hEnds _
  | succ pauses =>
    rw [Action.waitFrom_succ]
    exact hEnds _

include hFinds

/-- A value that is found before the pauses are used up. -/
theorem FindsAt.found_in_time {pauses k left : Nat} (hPoll : k + left = m) (hLeft : left ≤ pauses)
    {s : Simulation Platform} (hInv : inv k s.state) :
    ∃ value t, exec Platform.handler (waitFrom o what poll k pauses) s = (.ok value, t) ∧
      good value ∧ t.clock.nanos = s.clock.nanos + left * o.pause.nanos ∧
      Program.calls Platform.handler (waitFrom o what poll k pauses).run s =
        List.replicate (left + 1) c := by
  induction left generalizing pauses k s with
  | zero =>
    obtain rfl : k = m := hPoll
    obtain ⟨value, q, hExec, hGood⟩ := hFinds.found s hInv
    refine ⟨value, { s with state := q }, ?_⟩
    -- The poll finds the value whether or not pauses are left, and none is made.
    cases pauses with
    | zero =>
      rw [Action.waitFrom_zero]
      obtain ⟨hEnds, hCalls⟩ := poll_some hExec (hFinds.calls k s) _
      exact ⟨hEnds, hGood, by simp, hCalls⟩
    | succ pauses =>
      rw [Action.waitFrom_succ]
      obtain ⟨hEnds, hCalls⟩ := poll_some hExec (hFinds.calls k s) _
      exact ⟨hEnds, hGood, by simp, hCalls⟩
  | succ left ih =>
    obtain ⟨rest, rfl⟩ : ∃ rest, pauses = rest + 1 := ⟨pauses - 1, by omega⟩
    obtain ⟨q, hExec, hNext⟩ := hFinds.before k s (by omega) hInv
    obtain ⟨hStep, hCalls⟩ := poll_none hExec (hFinds.calls k s) o.pause
      (waitFrom o what poll (k + 1) rest)
    -- The clock has gone on by one pause, of those that are left before the value is found.
    let later : Simulation Platform := { s with state := q, clock := s.clock + o.pause }
    have hLater : inv (k + 1) later.state := hNext
    obtain ⟨value, t, hEnds, hGood, hClock, hRest⟩ :=
      ih (show k + 1 + left = m by omega) (Nat.le_of_succ_le_succ hLeft) hLater
    rw [Action.waitFrom_succ]
    refine ⟨value, t, hStep.trans hEnds, hGood, ?_, hCalls.trans (congrArg (c :: ·) hRest)⟩
    rw [hClock, Nat.succ_mul]
    change s.clock.nanos + o.pause.nanos + _ = _
    omega

/-- A value that is not found before the pauses are used up. -/
theorem FindsAt.not_in_time {pauses k : Nat} (hPoll : k + pauses < m) {s : Simulation Platform}
    (hInv : inv k s.state) :
    ∃ t, exec Platform.handler (waitFrom o what poll k pauses) s =
        (.error (.timeout what o.timeout), t) ∧
      t.clock.nanos = s.clock.nanos + (pauses * o.pause.nanos + o.rest.nanos) ∧
      Program.calls Platform.handler (waitFrom o what poll k pauses).run s =
        List.replicate (pauses + 1) c := by
  induction pauses generalizing k s with
  | zero =>
    -- This is the last poll, and what is left of the time is shorter than a pause.
    obtain ⟨q, hExec, -⟩ := hFinds.before k s (by omega) hInv
    obtain ⟨hStep, hCalls⟩ := poll_none hExec (hFinds.calls k s) o.rest
      (throw (.timeout what o.timeout) : Action α)
    rw [Action.waitFrom_zero]
    refine ⟨_, hStep, ?_, hCalls⟩
    rw [Nat.zero_mul, Nat.zero_add]
    rfl
  | succ pauses ih =>
    obtain ⟨q, hExec, hNext⟩ := hFinds.before k s (by omega) hInv
    obtain ⟨hStep, hCalls⟩ := poll_none hExec (hFinds.calls k s) o.pause
      (waitFrom o what poll (k + 1) pauses)
    let later : Simulation Platform := { s with state := q, clock := s.clock + o.pause }
    have hLater : inv (k + 1) later.state := hNext
    obtain ⟨t, hEnds, hClock, hRest⟩ := ih (by omega) hLater
    rw [Action.waitFrom_succ]
    refine ⟨t, hStep.trans hEnds, ?_, hCalls.trans (congrArg (c :: ·) hRest)⟩
    rw [hClock, Nat.succ_mul]
    change s.clock.nanos + o.pause.nanos + _ = _
    omega

/-- A wait takes the pauses before the poll that finds a value, or all of its time. -/
theorem FindsAt.takes (hInterval : 0 < o.interval.nanos) {s : Simulation Platform}
    (hInv : inv 0 s.state) : Takes o what c m good s (pollUntil o what poll) := by
  have hPauses : o.pauses = o.timeout.nanos / o.pause.nanos := WaitOptions.pauses_eq hInterval
  have hPositive : 0 < o.pause.nanos := WaitOptions.pause_pos hInterval
  refine ⟨fun hTime => ?_, fun hTime => ?_⟩
  · have hLeft : m ≤ o.pauses := by
      rw [hPauses]
      exact (Nat.le_div_iff_mul_le hPositive).2 hTime
    exact hFinds.found_in_time o what (Nat.zero_add m) hLeft hInv
  · have hLate : 0 + o.pauses < m := by
      rw [Nat.zero_add, hPauses]
      exact (Nat.div_lt_iff_lt_mul hPositive).2 hTime
    obtain ⟨t, hEnds, hClock, hCalls⟩ := hFinds.not_in_time o what hLate hInv
    rw [WaitOptions.pauses_mul_add_rest hInterval] at hClock
    exact ⟨t, hEnds, hClock, hCalls.trans (by rw [hPauses])⟩

end

end Wait

end SparkFleet
