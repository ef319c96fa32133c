import Mathlib.Order.Lattice.Nat
import SparkFleet.Proofs.WaitLength

/-!
# Waiting as a race against a deadline

The polls of a wait are a loop without an end of its own: only a value or an error leaves it.  What
ends it otherwise is a deadline.  `Race` says this as it is, without counting in advance how many
pauses there will be: after a poll that finds nothing the next one comes if its pause ends at the
deadline at the latest, and else the deadline does.

A wait that counts its pauses beforehand is such a race (`race_pollFrom`), and a race has only one
end (`Race.unique`).  Polls that take no time have outcomes one pause apart (`outcome`), and with
them the race is run up to any poll before which nothing is found (`Race.of_nothing_before`).  The
main statement `wait_is_bounded_search` puts these together: the last poll is the first whose
outcome is a value or an error, or the last one that fits into the time.
-/

namespace SparkFleet

open SparkFleet.Action (exec)

namespace Wait

variable {σ α : Type}

/-- The polls take no time, from whatever state they are made. -/
def TakeNoTime (h : Program.Handler (Simulation σ)) (poll : Nat → Action (Option α)) : Prop :=
  ∀ k s, (exec h (poll k) s).2.clock = s.clock

theorem TakeNoTime.clock_eq {h : Program.Handler (Simulation σ)} {poll : Nat → Action (Option α)}
    {k : Nat} {s t : Simulation σ} {result : Except Error (Option α)} (hInstant : TakeNoTime h poll)
    (hPoll : exec h (poll k) s = (result, t)) : t.clock = s.clock := by
  have hTaken := hInstant k s
  rwa [hPoll] at hTaken

/-- A loop of polls, from the `k`-th on, against a deadline: the calls that are made with their
answers, what comes of the wait, and the state at the end. -/
inductive Race (h : Program.Handler (Simulation σ)) (o : WaitOptions) (what : String)
    (poll : Nat → Action (Option α)) (deadline : Nat) :
    Nat → Simulation σ → List Exchange → Polled α → Simulation σ → Prop where
  | found {k : Nat} {s t : Simulation σ} {value : α}
      (hPoll : exec h (poll k) s = (.ok (some value), t)) :
      Race h o what poll deadline k s (Program.exchanges h (poll k).run s) ⟨.ok value, k + 1⟩ t
  | failed {k : Nat} {s t : Simulation σ} {e : Error}
      (hPoll : exec h (poll k) s = (.error e, t)) :
      Race h o what poll deadline k s (Program.exchanges h (poll k).run s) ⟨.error e, k + 1⟩ t
  /-- A poll that is due at the deadline is made. -/
  | again {k : Nat} {s t u : Simulation σ} {made : List Exchange} {polled : Polled α}
      (hPoll : exec h (poll k) s = (.ok none, t))
      (hTime : t.clock.nanos + o.pause.nanos ≤ deadline)
      (hRest : Race h o what poll deadline (k + 1) { t with clock := t.clock + o.pause } made
        polled u) :
      Race h o what poll deadline k s (Program.exchanges h (poll k).run s ++ made) polled u
  | late {k : Nat} {s t : Simulation σ} (hPoll : exec h (poll k) s = (.ok none, t))
      (hTime : deadline < t.clock.nanos + o.pause.nanos) :
      Race h o what poll deadline k s (Program.exchanges h (poll k).run s)
        ⟨.error (.timeout what o.timeout), k + 1⟩ { t with clock := ⟨deadline⟩ }

section

variable {h : Program.Handler (Simulation σ)} {o : WaitOptions} {what : String}
  {poll : Nat → Action (Option α)} {deadline k : Nat} {s t u : Simulation σ}

/-- A race has only one end. -/
theorem Race.unique {made made' : List Exchange} {polled polled' : Polled α}
    (hFirst : Race h o what poll deadline k s made polled t)
    (hSecond : Race h o what poll deadline k s made' polled' u) :
    made = made' ∧ polled = polled' ∧ t = u := by
  induction hFirst generalizing made' with
  | found hPoll =>
    cases hSecond with
    | found hPoll' =>
      cases hPoll.symm.trans hPoll'
      exact ⟨rfl, rfl, rfl⟩
    | failed hPoll' | again hPoll' | late hPoll' => cases hPoll.symm.trans hPoll'
  | failed hPoll =>
    cases hSecond with
    | failed hPoll' =>
      cases hPoll.symm.trans hPoll'
      exact ⟨rfl, rfl, rfl⟩
    | found hPoll' | again hPoll' | late hPoll' => cases hPoll.symm.trans hPoll'
  | again hPoll hTime _ ih =>
    cases hSecond with
    | found hPoll' | failed hPoll' => cases hPoll.symm.trans hPoll'
    | again hPoll' _ hRest =>
      cases hPoll.symm.trans hPoll'
      obtain ⟨rfl, rfl, rfl⟩ := ih hRest
      exact ⟨rfl, rfl, rfl⟩
    | late hPoll' hLate =>
      -- The clock after the poll is the same in both races, so only one of them can be past the
      -- deadline.
      cases hPoll.symm.trans hPoll'
      omega
  | late hPoll hTime =>
    cases hSecond with
    | found hPoll' | failed hPoll' => cases hPoll.symm.trans hPoll'
    | again hPoll' hInTime =>
      cases hPoll.symm.trans hPoll'
      omega
    | late hPoll' =>
      cases hPoll.symm.trans hPoll'
      exact ⟨rfl, rfl, rfl⟩

end

/-! ### Counted pauses -/

section

variable (o : WaitOptions) (what : String) (poll : Nat → Action (Option α)) (k pauses : Nat)

/-- What a wait does after its `k`-th poll, with so many pauses left. -/
def afterPoll : Nat → Except Error (Option α) → Program (Polled α)
  | _, .ok (some value) => .done ⟨.ok value, k + 1⟩
  | _, .error e => .done ⟨.error e, k + 1⟩
  | 0, .ok none => .pause o.rest fun _ => .done ⟨.error (.timeout what o.timeout), k + 1⟩
  | pauses + 1, .ok none => .pause o.pause fun _ => pollFrom o what poll (k + 1) pauses

theorem pollFrom_eq :
    pollFrom o what poll k pauses = (poll k).run.bind (afterPoll o what poll k pauses) := by
  cases pauses with
  | zero =>
    refine congrArg (Program.bind (poll k).run) (funext fun result => ?_)
    rcases result with e | _ | value <;> rfl
  | succ pauses =>
    refine congrArg (Program.bind (poll k).run) (funext fun result => ?_)
    rcases result with e | _ | value <;> rfl

variable (h : Program.Handler (Simulation σ)) (deadline : Nat) (s : Simulation σ)

/-- A wait that counts its pauses, from the `k`-th poll on, runs as the race does. -/
def RunsRace : Prop :=
  let wait := pollFrom o what poll k pauses
  Race h o what poll deadline k s (Program.exchanges h wait s) (Program.run h wait s).1
    (Program.run h wait s).2

variable {o what poll k pauses h deadline s}

/-- A poll that finds a value or fails ends the race, whatever the pauses that are left; so it is
enough that a wait races on from the state that a poll leaves which finds nothing. -/
theorem runsRace_of_nothing
    (hNothing : ∀ t, exec h (poll k) s = (.ok none, t) →
      Race h o what poll deadline k s
        (Program.exchanges h (poll k).run s ++
          Program.exchanges h (afterPoll o what poll k pauses (.ok none)) t)
        (Program.run h (afterPoll o what poll k pauses (.ok none)) t).1
        (Program.run h (afterPoll o what poll k pauses (.ok none)) t).2) :
    RunsRace o what poll k pauses h deadline s := by
  rcases hPoll : exec h (poll k) s with ⟨result, t⟩
  have hRun : Program.run h (poll k).run s = (result, t) := hPoll
  rw [RunsRace, pollFrom_eq, Program.run_bind, Program.exchanges_bind, hRun]
  rcases result with e | _ | value
  · simpa [afterPoll, Program.exchanges, Program.run] using Race.failed hPoll
  · exact hNothing t hPoll
  · simpa [afterPoll, Program.exchanges, Program.run] using Race.found hPoll

end

section

variable {backend : Backend σ} {o : WaitOptions} {what : String}
  {poll : Nat → Action (Option α)} {deadline k pauses : Nat} {s : Simulation σ}

/-- A wait that counts the pauses up to its deadline races against it. -/
theorem race_pollFrom (hInstant : TakeNoTime (Simulation.handler backend) poll)
    (hLast : o.rest.nanos < o.pause.nanos)
    (hDeadline : s.clock.nanos + (pauses * o.pause.nanos + o.rest.nanos) = deadline) :
    RunsRace o what poll k pauses (Simulation.handler backend) deadline s := by
  -- The induction is on the pauses that are left: together with the rest after them they fit
  -- exactly into the time up to the deadline.
  induction pauses generalizing k s with
  | zero =>
    -- No whole pause is left, only the rest, which is shorter than one: another pause would be
    -- late.
    refine runsRace_of_nothing fun t hPoll => ?_
    have hClock : t.clock = s.clock := hInstant.clock_eq hPoll
    have hLate : deadline < t.clock.nanos + o.pause.nanos := by
      rw [hClock]
      omega
    have hEnd : t.clock + o.rest = ⟨deadline⟩ := by
      change (⟨t.clock.nanos + o.rest.nanos⟩ : Span) = ⟨deadline⟩
      rw [hClock, ← hDeadline, Nat.zero_mul, Nat.zero_add]
    have hRace : Race _ o what poll deadline k s _ _ _ := .late hPoll hLate
    rw [← hEnd] at hRace
    rwa [← List.append_nil (Program.exchanges _ (poll k).run s)] at hRace
  | succ pauses ih =>
    refine runsRace_of_nothing fun t hPoll => ?_
    have hClock : t.clock = s.clock := hInstant.clock_eq hPoll
    rw [Nat.succ_mul] at hDeadline
    have hInTime : t.clock.nanos + o.pause.nanos ≤ deadline := by
      rw [hClock]
      omega
    let later : Simulation σ := { t with clock := t.clock + o.pause }
    have hLater : later.clock.nanos + (pauses * o.pause.nanos + o.rest.nanos) = deadline := by
      change t.clock.nanos + o.pause.nanos + _ = _
      rw [hClock]
      omega
    exact .again hPoll hInTime (ih hLater)

/-- A wait with an interval races against its timeout. -/
theorem race_polling (hInterval : 0 < o.interval.nanos)
    (hInstant : TakeNoTime (Simulation.handler backend) poll) :
    RunsRace o what poll 0 o.pauses (Simulation.handler backend)
      (s.clock.nanos + o.timeout.nanos) s := by
  have hTime := WaitOptions.pauses_mul_add_rest hInterval
  have hLast : o.rest.nanos < o.pause.nanos := by
    have hMod := Nat.mod_lt o.timeout.nanos (WaitOptions.pause_pos hInterval)
    have hSplit := Nat.div_add_mod' o.timeout.nanos o.pause.nanos
    rw [WaitOptions.pauses_eq hInterval] at hTime
    omega
  refine race_pollFrom hInstant hLast ?_
  rw [hTime]

end

/-! ### Outcomes -/

section

variable (h : Program.Handler (Simulation σ)) (o : WaitOptions) (poll : Nat → Action (Option α))
  (s : Simulation σ)

/-- The state in which the `k`-th poll is made: each poll before it is followed by a pause. -/
def beforePoll : Nat → Simulation σ
  | 0 => s
  | k + 1 =>
    let t := (exec h (poll k) (beforePoll k)).2
    { t with clock := t.clock + o.pause }

/-- The calls of the polls before the `k`-th, with their answers. -/
def callsBefore (k : Nat) : List Exchange :=
  (List.range k).flatMap fun j => Program.exchanges h (poll j).run (beforePoll h o poll s j)

/-- What the `k`-th poll finds: a value, nothing or an error. -/
def outcome (k : Nat) : Except Error (Option α) := (exec h (poll k) (beforePoll h o poll s k)).1

/-- Each sequence of outcomes is that of some polls. -/
theorem outcome_ofExcept (results : Nat → Except Error (Option α)) :
    outcome h o (fun k => .ofExcept (results k)) s = results := rfl

theorem takeNoTime_ofExcept (results : Nat → Except Error (Option α)) :
    TakeNoTime h fun k => .ofExcept (results k) := fun _ _ => rfl

variable {h o poll s}

theorem clock_beforePoll (hInstant : TakeNoTime h poll) (k : Nat) :
    (beforePoll h o poll s k).clock.nanos = s.clock.nanos + k * o.pause.nanos := by
  induction k with
  | zero => rw [Nat.zero_mul]; rfl
  | succ k ih =>
    change (exec h (poll k) (beforePoll h o poll s k)).2.clock.nanos + o.pause.nanos = _
    rw [hInstant, ih, Nat.succ_mul, Nat.add_assoc]

theorem exec_beforePoll {k : Nat} {result : Except Error (Option α)}
    (hOutcome : outcome h o poll s k = result) :
    exec h (poll k) (beforePoll h o poll s k) =
      (result, (exec h (poll k) (beforePoll h o poll s k)).2) := Prod.ext hOutcome rfl

theorem callsBefore_succ (k : Nat) :
    callsBefore h o poll s (k + 1) =
      callsBefore h o poll s k ++ Program.exchanges h (poll k).run (beforePoll h o poll s k) := by
  simp [callsBefore, List.range_succ]

/-- As long as nothing is found and the time is not over, the race comes to the next poll. -/
theorem Race.of_nothing_before {what : String} {deadline k : Nat} {t : Simulation σ}
    {made : List Exchange} {polled : Polled α} (hInstant : TakeNoTime h poll)
    (hNothing : ∀ j < k, outcome h o poll s j = .ok none)
    (hTime : s.clock.nanos + k * o.pause.nanos ≤ deadline)
    (hRace : Race h o what poll deadline k (beforePoll h o poll s k) made polled t) :
    Race h o what poll deadline 0 s (callsBefore h o poll s k ++ made) polled t := by
  induction k generalizing made with
  | zero => exact hRace
  | succ k ih =>
    -- The last of these polls is put in front of the race, and the polls before it are left to the
    -- induction.
    have hPoll := exec_beforePoll (hNothing k (Nat.lt_succ_self k))
    have hInTime : (exec h (poll k) (beforePoll h o poll s k)).2.clock.nanos + o.pause.nanos ≤
        deadline := by
      rw [hInstant, clock_beforePoll hInstant]
      rw [Nat.succ_mul] at hTime
      omega
    have hBefore : Race h o what poll deadline k (beforePoll h o poll s k)
        (Program.exchanges h (poll k).run (beforePoll h o poll s k) ++ made) polled t :=
      .again hPoll hInTime hRace
    have hFirst := ih (fun j hj => hNothing j (Nat.lt_succ_of_lt hj))
      (by rw [Nat.succ_mul] at hTime; omega) hBefore
    rwa [callsBefore_succ, List.append_assoc]

end

/-! ### The search -/

/-- What a wait ends with if this is the outcome of its last poll. -/
def conclude (o : WaitOptions) (what : String) : Except Error (Option α) → Except Error α
  | .ok (some value) => .ok value
  | .ok none => .error (.timeout what o.timeout)
  | .error e => .error e

/-- How long a wait takes whose last poll is the `k`-th, counted from zero, with this outcome: all
of its time if nothing has been found. -/
def duration (o : WaitOptions) (k : Nat) : Except Error (Option α) → Span
  | .ok none => o.timeout
  | .ok (some _) | .error _ => ⟨k * o.pause.nanos⟩

/-- The wait ends with its `k`-th poll, counted from zero. -/
structure EndsWith (h : Program.Handler (Simulation σ)) (o : WaitOptions) (what : String)
    (poll : Nat → Action (Option α)) (s : Simulation σ) (k : Nat) (polled : Polled α)
    (t : Simulation σ) : Prop where
  /-- It is the first whose outcome is a value or an error, or the last that fits into the time. -/
  last : IsLeast (insert (o.timeout.nanos / o.pause.nanos) {j | outcome h o poll s j ≠ .ok none}) k
  polls : polled.polls = k + 1
  result : polled.result = conclude o what (outcome h o poll s k)
  clock : t.clock = s.clock + duration o k (outcome h o poll s k)
  /-- The backend is left as the last poll leaves it. -/
  state : t.state = (exec h (poll k) (beforePoll h o poll s k)).2.state

section

variable {h : Program.Handler (Simulation σ)} {o : WaitOptions} {poll : Nat → Action (Option α)}
  {s : Simulation σ}

/-- A race against the timeout ends with the first poll whose outcome is a value or an error, or the
last one that fits into the time. -/
theorem exists_race (hInterval : 0 < o.interval.nanos) (what : String)
    (hInstant : TakeNoTime h poll) :
    ∃ k polled t, EndsWith h o what poll s k polled t ∧
      Race h o what poll (s.clock.nanos + o.timeout.nanos) 0 s (callsBefore h o poll s (k + 1))
        polled t := by
  let ends : Set Nat :=
    insert (o.timeout.nanos / o.pause.nanos) {j | outcome h o poll s j ≠ .ok none}
  obtain ⟨k, hLast⟩ : ∃ k, IsLeast ends k :=
    ⟨sInf ends, Nat.sInf_mem (Set.insert_nonempty ..), fun _ hMem => Nat.sInf_le hMem⟩
  have hNothing : ∀ j < k, outcome h o poll s j = .ok none := by
    intro j hj
    by_contra hFound
    exact absurd (hLast.2 (Set.mem_insert_of_mem _ hFound)) (Nat.not_le.2 hj)
  have hTime : s.clock.nanos + k * o.pause.nanos ≤ s.clock.nanos + o.timeout.nanos := by
    have hFits : k ≤ o.timeout.nanos / o.pause.nanos := hLast.2 (Set.mem_insert ..)
    have hPauses := (Nat.le_div_iff_mul_le (WaitOptions.pause_pos hInterval)).1 hFits
    omega
  let t := (exec h (poll k) (beforePoll h o poll s k)).2
  have hClock : t.clock = s.clock + ⟨k * o.pause.nanos⟩ := by
    change (exec h (poll k) (beforePoll h o poll s k)).2.clock = _
    rw [hInstant]
    exact congrArg Span.mk (clock_beforePoll hInstant k)
  -- The race comes to the `k`-th poll, and it is this one that ends it.
  have hRace {polled : Polled α} {u : Simulation σ}
      (hEnd : Race h o what poll (s.clock.nanos + o.timeout.nanos) k (beforePoll h o poll s k)
        (Program.exchanges h (poll k).run (beforePoll h o poll s k)) polled u) :
      Race h o what poll (s.clock.nanos + o.timeout.nanos) 0 s (callsBefore h o poll s (k + 1))
        polled u := by
    rw [callsBefore_succ]
    exact .of_nothing_before hInstant hNothing hTime hEnd
  rcases hOutcome : outcome h o poll s k with e | _ | value
  · refine ⟨k, ⟨.error e, k + 1⟩, t, ⟨hLast, rfl, ?_, ?_, rfl⟩,
      hRace (.failed (exec_beforePoll hOutcome))⟩
    · rw [hOutcome]
      rfl
    · rw [hOutcome]
      exact hClock
  · -- If the last poll finds nothing either, it is the last because of the time alone.
    have hLastFits : k = o.timeout.nanos / o.pause.nanos := by
      obtain hTimeOver | hFound := hLast.1
      · exact hTimeOver
      · exact absurd hOutcome hFound
    have hLate : s.clock.nanos + o.timeout.nanos < t.clock.nanos + o.pause.nanos := by
      have hNext := Nat.lt_mul_div_succ o.timeout.nanos (WaitOptions.pause_pos hInterval)
      rw [hClock, hLastFits]
      rw [Nat.mul_comm, Nat.succ_mul] at hNext
      change _ < s.clock.nanos + o.timeout.nanos / o.pause.nanos * o.pause.nanos + _
      omega
    refine ⟨k, ⟨.error (.timeout what o.timeout), k + 1⟩,
      { t with clock := ⟨s.clock.nanos + o.timeout.nanos⟩ }, ⟨hLast, rfl, ?_, ?_, rfl⟩,
      hRace (.late (exec_beforePoll hOutcome) hLate)⟩
    · rw [hOutcome]
      rfl
    · rw [hOutcome]
      rfl
  · refine ⟨k, ⟨.ok value, k + 1⟩, t, ⟨hLast, rfl, ?_, ?_, rfl⟩,
      hRace (.found (exec_beforePoll hOutcome))⟩
    · rw [hOutcome]
      rfl
    · rw [hOutcome]
      exact hClock

end

variable {backend : Backend σ} {o : WaitOptions} {what : String} {poll : Nat → Action (Option α)}
  {s : Simulation σ}

/-- A wait gives what its polling comes to. -/
theorem exec_pollUntil (h : Program.Handler (Simulation σ)) :
    exec h (pollUntil o what poll) s =
      ((Program.run h (polling o what poll) s).1.result,
        (Program.run h (polling o what poll) s).2) :=
  Program.run_bind h (polling o what poll) _ s

/-- A wait makes the calls of its polling. -/
theorem exchanges_pollUntil (h : Program.Handler (Simulation σ)) :
    Program.exchanges h (pollUntil o what poll).run s =
      Program.exchanges h (polling o what poll) s :=
  (Program.exchanges_bind h (polling o what poll) _ s).trans (List.append_nil _)

/-- For every interval that is not zero and every timeout, a wait whose polls take no time is a
bounded search through their outcomes.  It makes exactly the polls up to the first whose outcome is
a value or an error, or up to the last that fits into the time if there is none, so that there is at
least one and the wait always ends.  It gives the value or the error when the pauses before that
poll are over, and otherwise the timeout when its time is over; a pause is as long as the interval
that is asked for, but no longer than thirty years.  This is how the endless loop of the polls races
against the deadline. -/
theorem wait_is_bounded_search (hInterval : 0 < o.interval.nanos)
    (hInstant : TakeNoTime (Simulation.handler backend) poll) :
    let h := Simulation.handler backend
    o.pause.nanos = min o.interval.nanos WaitOptions.longestPause.nanos ∧
      ∃ k polled t, EndsWith h o what poll s k polled t ∧
        Program.run h (polling o what poll) s = (polled, t) ∧
        exec h (pollUntil o what poll) s = (polled.result, t) ∧
        Program.exchanges h (pollUntil o what poll).run s = callsBefore h o poll s (k + 1) ∧
        ∀ made polled' u, Race h o what poll (s.clock.nanos + o.timeout.nanos) 0 s made polled' u ↔
          made = callsBefore h o poll s (k + 1) ∧ polled' = polled ∧ u = t := by
  intro h
  obtain ⟨k, polled, t, hEnds, hRace⟩ := exists_race (s := s) hInterval what hInstant
  obtain ⟨hCalls, hPolled, hState⟩ := (race_polling hInterval hInstant).unique hRace
  have hRun : Program.run h (polling o what poll) s = (polled, t) := Prod.ext hPolled hState
  refine ⟨o.pause_nanos, k, polled, t, hEnds, hRun, ?_, ?_, fun made polled' u => ⟨?_, ?_⟩⟩
  · rw [exec_pollUntil, hRun]
  · rw [exchanges_pollUntil]
    exact hCalls
  · intro hOther
    exact hOther.unique hRace
  · rintro ⟨rfl, rfl, rfl⟩
    exact hRace

/-- The outcomes of polls that find a value from the `m`-th on. -/
def foundAt (m : Nat) (value : α) (k : Nat) : Except Error (Option α) :=
  .ok (if k < m then none else some value)

theorem isLeast_foundAt {m pauses : Nat} (hFits : m ≤ pauses) (value : α) :
    IsLeast (insert pauses {j | foundAt m value j ≠ .ok none}) m := by
  constructor
  · simp [foundAt]
  · rintro j (rfl | hFound)
    · exact hFits
    · by_contra hEarly
      exact hFound (by rw [foundAt, if_pos (Nat.lt_of_not_le hEarly)])

/-- A value that is there when the time is just over is still found. -/
theorem wait_is_bounded_search_atDeadline :
    let o : WaitOptions := ⟨.seconds 10, .seconds 20⟩
    let poll (k : Nat) : Action (Option Nat) := .ofExcept (foundAt 2 7 k)
    (0 < o.interval.nanos ∧ TakeNoTime Platform.handler poll) ∧
      ∃ t, exec Platform.handler (pollUntil o "seven" poll) { state := {} } = (.ok 7, t) ∧
        t.clock = .seconds 20 := by
  intro o poll
  have hInterval : 0 < o.interval.nanos := by decide
  have hInstant : TakeNoTime Platform.handler poll := takeNoTime_ofExcept _ _
  obtain ⟨-, k, polled, t, hEnds, -, hExec, -⟩ :=
    @wait_is_bounded_search Platform Nat _ o "seven" poll { state := {} } hInterval hInstant
  have hOutcome : outcome Platform.handler o poll { state := {} } = foundAt 2 7 :=
    outcome_ofExcept _ _ _ _
  obtain ⟨hLast, -, hResult, hClock, -⟩ := hEnds
  rw [hOutcome] at hLast hResult hClock
  obtain rfl : k = 2 := hLast.unique (isLeast_foundAt (by decide) 7)
  refine ⟨⟨hInterval, hInstant⟩, t, ?_, ?_⟩
  · rw [hExec, hResult]
    rfl
  · rw [hClock]
    decide

/-- A pause is shorter than an interval of a million million milliseconds, and so is the wait for
what the second poll finds. -/
theorem search_ends_early :
    let o : WaitOptions := ⟨.millis 1000000000000, .millis 10000000000000⟩
    let poll (k : Nat) : Action (Option Nat) := .ofExcept (foundAt 1 7 k)
    0 < o.interval.nanos ∧
      IsLeast (insert (o.timeout.nanos / o.interval.nanos) {j | foundAt 1 7 j ≠ .ok none}) 1 ∧
      ∃ t, exec Platform.handler (pollUntil o "seven" poll) { state := {} } = (.ok 7, t) ∧
        t.clock.nanos < 1 * o.interval.nanos := by
  intro o poll
  have hPauses : o.pauses = 9 + 1 := by decide
  refine ⟨by decide, isLeast_foundAt (by decide) 7, { state := {}, clock := ⟨0⟩ + o.pause }, ?_, ?_⟩
  · change exec Platform.handler (Action.waitFrom o "seven" poll 0 o.pauses) _ = _
    rw [hPauses, Action.waitFrom_succ]
    rfl
  · decide

end Wait

end SparkFleet
