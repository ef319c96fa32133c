import SparkFleet.Job.Draft
import SparkFleet.Proofs.Run.Parameters

/-!
# What the settings of a draft describe

The settings that a draft sends are put together from its task, its target and its libraries, and
resolving takes them apart again.  What is found is the draft's task and target (`apply_bare_eq`,
`buildSettings_sameTarget`) and its libraries, with the archive of a jar task first
(`libraries_buildSettings`).
-/

namespace SparkFleet

variable {v : Variant} {k : TaskKind}

/-! ### Libraries -/

/-- The libraries of a job: the archive that a task brings along comes first, and only there. -/
def Task.withArchive : Task k → List Library → List Library
  | .jar (some uri) _ _, libraries => .jar uri :: libraries.filter (· ≠ .jar uri)
  | _, libraries => libraries

theorem Library.filterMap_toSpec (libraries : List Library) :
    (libraries.map toSpec).filterMap ofSpec? = libraries := by
  rw [List.filterMap_map]
  have hSome : ofSpec? ∘ toSpec = some := funext ofSpec?_toSpec
  rw [hSome, List.filterMap_some]

/-- The archive in front stands for the task's library, and the others are as they were. -/
theorem Task.filterMap_withJarFirst (libraries : List Library) (uri : String) :
    (withJarFirst (libraries.map Library.toSpec) uri).filterMap Library.ofSpec? =
      .jar uri :: libraries.filter (· ≠ .jar uri) := by
  -- Removing the archive's record removes the library that it stands for, and no other one.
  have hSame (l : Library) : decide (l.toSpec ≠ jarSpec uri) = decide (l ≠ .jar uri) := by
    refine decide_eq_decide.2 (not_congr ⟨fun h => ?_, fun h => h ▸ rfl⟩)
    exact Library.toSpec_injective h
  rw [withJarFirst, List.filter_map]
  change _ :: List.filterMap _ _ = _
  rw [Library.filterMap_toSpec]
  exact congrArg _ (List.filter_congr fun l _ => hSame l)

theorem Compute.libraries_apply {m : Mode} (compute : Compute m) (settings : JobSettings) :
    (compute.apply settings).libraries = settings.libraries := by
  cases compute <;> rfl

theorem Task.libraries_apply (task : Task k) {settings : JobSettings} {libraries : List Library}
    (h : settings.libraries = libraries.map Library.toSpec) :
    (task.apply settings).libraries.filterMap Library.ofSpec? = task.withArchive libraries := by
  cases task with
  | jar uri mainClass parameters =>
    -- The only task whose settings reach into the libraries.
    cases uri with
    | none =>
      change settings.libraries.filterMap _ = _
      rw [h, Library.filterMap_toSpec]
      rfl
    | some uri =>
      change (withJarFirst settings.libraries uri).filterMap _ = _
      rw [h, filterMap_withJarFirst]
      rfl
  | notebook | python | sparkSubmit =>
    change settings.libraries.filterMap _ = _
    rw [h, Library.filterMap_toSpec]
    rfl

/-! ### Tasks and targets -/

/-- A class comes with the archive that holds it. -/
def Task.HasArchive : Task k → Prop
  | .jar uri _ _ => uri.isSome
  | _ => True

theorem Task.hasArchive_withBaseParameters {task : Task k} (h : task.HasArchive)
    (parameters : TextMap) : (task.withBaseParameters parameters).HasArchive := by
  cases task <;> exact h

theorem Task.hasArchive_withBaseParameter {task : Task k} (h : task.HasArchive)
    (key value : String) : (task.withBaseParameter key value).HasArchive := by
  cases task <;> exact h

theorem Task.hasArchive_withParameters {task : Task k} (h : task.HasArchive)
    (parameters : List String) : (task.withParameters parameters).HasArchive := by
  cases task <;> exact h

variable {p : Platform} {settings : JobSettings}

/-- What the settings of a task describe is the task, apart from what the platform knows of its
notebook. -/
theorem Task.apply_bare_eq {task found : Task k} (hArchive : task.HasArchive)
    (h : (task.apply settings).shape.Describes p found) : found.bare = task.bare := by
  cases task with
  | notebook n base =>
    cases h with
    | notebook hTask hPath hNotebook =>
      cases hTask
      cases hPath
      rfl
  | jar uri mainClass parameters =>
    -- Without the archive nothing in the settings would say where the class is.
    obtain ⟨uri, rfl⟩ := Option.isSome_iff_exists.1 hArchive
    cases h with
    | jar hTask hClass =>
      cases hTask
      cases hClass
      rfl
  | python script parameters =>
    cases h with
    | python hTask hScript =>
      cases hTask
      cases hScript
      rfl
  | sparkSubmit parameters =>
    cases h with
    | sparkSubmit hTask hParameters =>
      cases hTask
      cases hParameters
      rfl

/-- What the settings of a target name is the target. -/
theorem Compute.apply_sameTarget {m : Mode} {compute found : Compute m} {task : Task k}
    (h : (task.apply (compute.apply settings)).shape.Targets found) : found.SameTarget compute := by
  cases compute with
  | existing cluster =>
    cases found with
    | existing other =>
      refine ⟨?_, rfl⟩
      cases task <;> exact h.cluster
  | fresh spec =>
    cases found with
    | fresh other =>
      refine ⟨rfl, ?_⟩
      cases task <;> exact h.newCluster

/-! ### Drafts -/

variable {d : JobDraft v}

/-- A draft that can be sent has a target, and its settings are put together. -/
theorem JobDraft.buildSettings_eq_ok (h : d.buildSettings = .ok settings) :
    ∃ compute, d.compute = some compute ∧
      settings = d.task.apply (compute.apply
        { d.settings with libraries := d.libraries.map Library.toSpec }) := by
  unfold buildSettings at h
  split at h
  · cases h
  · next compute hCompute =>
    cases hValidate : d.task.validate with
    | error e =>
      rw [hValidate] at h
      cases h
    | ok u =>
      rw [hValidate] at h
      exact ⟨compute, hCompute, (Except.ok.inj h).symm⟩

/-- The libraries of the settings are those of the draft with the archive of its task first. -/
theorem JobDraft.libraries_buildSettings (h : d.buildSettings = .ok settings) :
    settings.libraries.filterMap Library.ofSpec? = d.task.withArchive d.libraries := by
  obtain ⟨compute, -, rfl⟩ := buildSettings_eq_ok h
  exact d.task.libraries_apply (compute.libraries_apply _)

end SparkFleet
