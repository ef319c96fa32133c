import SparkFleet.Job.Shape

/-!
# Which records describe a job

Whether a record describes a job at all is decided by the fields that are set: exactly one compute
target, exactly one task, not spark-submit on a cluster that exists, and the field that the task
cannot do without.  `variant_eq_ok_iff` says that the kind of job is the pair of what is set, and
`supported_iff` that the records of the supported kinds are those that are described so.
-/

namespace SparkFleet.Shape

variable {s : Shape}

/-- The target of a mode is set and the other one is not. -/
def HasMode (s : Shape) : Mode → Prop
  | .interactive => s.existingCluster.isSome ∧ s.newCluster = none
  | .automated => s.existingCluster = none ∧ s.newCluster.isSome

/-- The task of a kind is set and no other one is. -/
def HasKind (s : Shape) (k : TaskKind) : Prop := ∀ k', s.has k' = decide (k' = k)

/-- The field that a task cannot do without is set. -/
structure Complete (s : Shape) : Prop where
  notebook : ∀ t, s.notebook = some t → t.notebookPath.isSome
  jar : ∀ t, s.jar = some t → t.mainClassName.isSome
  python : ∀ t, s.python = some t → t.pythonFile.isSome
  submit : ∀ t, s.submit = some t → t.parameters.isSome

/-- The fields that are set describe a job. -/
structure Supported (s : Shape) : Prop where
  target : s.existingCluster.isSome ≠ s.newCluster.isSome
  task : s.kinds.length = 1
  /-- It is not spark-submit on a cluster that exists. -/
  pair : ¬(s.existingCluster.isSome ∧ s.submit.isSome)
  /-- The task has the field that it cannot do without. -/
  complete : s.Complete

/-! ### Kinds -/

theorem mode_eq_ok_iff {f : Family} {m : Mode} : s.mode f = .ok m ↔ s.HasMode m := by
  unfold mode
  cases hExisting : s.existingCluster <;> cases hNew : s.newCluster <;> cases m <;>
    simp [HasMode, hExisting, hNew]

theorem mem_kinds {k : TaskKind} : k ∈ s.kinds ↔ s.has k := by
  have hAll : k ∈ TaskKind.all := by cases k <;> decide
  simp [kinds, hAll]

theorem kinds_eq_singleton_iff {k : TaskKind} : s.kinds = [k] ↔ s.HasKind k := by
  constructor
  · intro h k'
    have hMem : s.has k' ↔ k' = k := by rw [← mem_kinds, h, List.mem_singleton]
    exact Bool.eq_iff_iff.2 (hMem.trans decide_eq_true_iff.symm)
  · intro h
    have hHas : s.has = fun k' => decide (k' = k) := funext h
    rw [kinds, hHas]
    cases k <;> decide

/-- Which of the four tasks are set. -/
theorem HasKind.fields {k : TaskKind} (h : s.HasKind k) :
    s.notebook.isSome = decide (.notebook = k) ∧ s.jar.isSome = decide (.jar = k) ∧
      s.python.isSome = decide (.python = k) ∧ s.submit.isSome = decide (.sparkSubmit = k) :=
  ⟨h .notebook, h .jar, h .python, h .sparkSubmit⟩

theorem kind_eq_ok_iff {f : Family} {k : TaskKind} : s.kind f = .ok k ↔ s.HasKind k := by
  rw [← kinds_eq_singleton_iff]
  unfold kind
  split
  · next k' h => simp [h]
  · next h => simp [h]
  · -- Several tasks are set: none of them is the only one.
    next h _ => exact ⟨fun hError => (nomatch hError), fun hKinds => (h k hKinds).elim⟩

/-- The kind of job is the pair of the target and the task that are set. -/
theorem variant_eq_ok_iff {f : Family} {v : Variant} :
    s.variant f = .ok v ↔ s.HasMode v.mode ∧ s.HasKind v.kind := by
  rw [← mode_eq_ok_iff, ← kind_eq_ok_iff]
  unfold variant
  cases hMode : s.mode f with
  | error e => exact iff_of_false (by rintro ⟨⟩) (by rintro ⟨⟨⟩, -⟩)
  | ok m =>
    -- Both have been found, but the pair may still be no kind of job.
    cases hKind : s.kind f with
    | error e => exact iff_of_false (by rintro ⟨⟩) (by rintro ⟨-, ⟨⟩⟩)
    | ok k =>
      rw [Except.ok.injEq, Except.ok.injEq, @eq_comm _ m, @eq_comm _ k, ← Variant.of?_eq_some_iff]
      dsimp only [bind, Except.bind]
      cases Variant.of? m k with
      | none => exact iff_of_false (by rintro ⟨⟩) (by rintro ⟨⟩)
      | some v' =>
        exact ⟨fun h => congrArg some (Except.ok.inj h),
          fun h => congrArg Except.ok (Option.some.inj h)⟩

/-! ### Supported records -/

theorem exists_mode_iff : (∃ m, s.HasMode m) ↔ s.existingCluster.isSome ≠ s.newCluster.isSome := by
  constructor
  · rintro ⟨m, hMode⟩
    cases m <;> simp [HasMode] at hMode <;> simp [hMode]
  · intro h
    cases hExisting : s.existingCluster with
    | some id =>
      have hNew : s.newCluster = none := by simpa [hExisting] using h
      exact ⟨.interactive, by simp [HasMode, hExisting, hNew]⟩
    | none =>
      have hNew : s.newCluster.isSome := by
        simpa [hExisting, Option.isSome_iff_ne_none] using h
      exact ⟨.automated, hExisting, hNew⟩

theorem exists_kind_iff : (∃ k, s.HasKind k) ↔ s.kinds.length = 1 := by
  simp only [List.length_eq_one_iff, kinds_eq_singleton_iff]

/-- The pair that is no kind of job. -/
theorem of?_eq_none_iff {m : Mode} {k : TaskKind} :
    Variant.of? m k = none ↔ m = .interactive ∧ k = .sparkSubmit := by
  cases m <;> cases k <;> decide

/-- The supported records are those of a kind of job that have the field that it needs. -/
theorem supported_iff :
    s.Supported ↔ (∃ v : Variant, s.HasMode v.mode ∧ s.HasKind v.kind) ∧ s.Complete := by
  constructor
  · rintro ⟨hTarget, hTask, hPair, hComplete⟩
    obtain ⟨m, hMode⟩ := exists_mode_iff.2 hTarget
    obtain ⟨k, hKind⟩ := exists_kind_iff.2 hTask
    refine ⟨?_, hComplete⟩
    cases hOf : Variant.of? m k with
    | some v =>
      obtain ⟨rfl, rfl⟩ := Variant.of?_eq_some_iff.1 hOf
      exact ⟨v, hMode, hKind⟩
    | none =>
      obtain ⟨rfl, rfl⟩ := of?_eq_none_iff.1 hOf
      exact absurd ⟨hMode.1, hKind .sparkSubmit⟩ hPair
  · rintro ⟨⟨v, hMode, hKind⟩, hComplete⟩
    refine ⟨exists_mode_iff.1 ⟨_, hMode⟩, exists_kind_iff.1 ⟨_, hKind⟩, ?_, hComplete⟩
    rintro ⟨hExisting, hSubmit⟩
    -- Only the pair that is no kind of job has both fields.
    have hSparkSubmit : TaskKind.sparkSubmit = v.kind :=
      of_decide_eq_true ((hKind .sparkSubmit).symm.trans hSubmit)
    have hInteractive : v.mode = .interactive := by
      cases hMode' : v.mode with
      | interactive => rfl
      | automated =>
        rw [hMode'] at hMode
        rw [hMode.1] at hExisting
        exact nomatch hExisting
    cases v <;> simp_all

end SparkFleet.Shape
