/-!
# The kinds of jobs

A job runs either on a cluster that exists or on one that is created for each run, and it runs one
of four kinds of tasks.  Of the eight pairs seven are kinds of jobs: a spark-submit task brings its
cluster with it.

The main statement is `of?_eq_some_iff`: a kind of job is known by its pair.
-/

namespace SparkFleet

/-- Where a job runs. -/
inductive Mode where
  | interactive
  /-- On a cluster that is created for each run. -/
  | automated
  deriving DecidableEq

namespace Mode

/-- The name of a mode. -/
def name : Mode → String
  | .interactive => "interactive"
  | .automated => "automated"

/-- The word that stands for a mode in messages about unsupported jobs. -/
def debug : Mode → String
  | .interactive => "Interactive"
  | .automated => "Automated"

/-- Every mode. -/
def all : List Mode := [.interactive, .automated]

end Mode

/-- What a job runs. -/
inductive TaskKind where
  | notebook
  | jar
  | python
  | sparkSubmit
  deriving DecidableEq

namespace TaskKind

/-- The name of a kind of task. -/
def name : TaskKind → String
  | .notebook => "notebook"
  | .jar => "jar"
  | .python => "python"
  | .sparkSubmit => "spark-submit"

/-- The word that stands for a kind of task in messages about unsupported jobs. -/
def debug : TaskKind → String
  | .notebook => "Notebook"
  | .jar => "Jar"
  | .python => "Python"
  | .sparkSubmit => "SparkSubmit"

/-- Every kind of task. -/
def all : List TaskKind := [.notebook, .jar, .python, .sparkSubmit]

end TaskKind

/-- A kind of job. -/
inductive Variant where
  | interactiveNotebook
  | interactiveJar
  /-- A Python script on a cluster that exists. -/
  | interactivePython
  /-- A notebook on a cluster of its own. -/
  | automatedNotebook
  /-- A jar on a cluster of its own. -/
  | automatedJar
  /-- A Python script on a cluster of its own. -/
  | automatedPython
  /-- A spark-submit command line on a cluster of its own. -/
  | automatedSparkSubmit
  deriving DecidableEq

namespace Variant

/-- Where a job of this kind runs. -/
@[reducible] def mode : Variant → Mode
  | .interactiveNotebook | .interactiveJar | .interactivePython => .interactive
  | .automatedNotebook | .automatedJar | .automatedPython | .automatedSparkSubmit => .automated

/-- What a job of this kind runs. -/
@[reducible] def kind : Variant → TaskKind
  | .interactiveNotebook | .automatedNotebook => .notebook
  | .interactiveJar | .automatedJar => .jar
  | .interactivePython | .automatedPython => .python
  | .automatedSparkSubmit => .sparkSubmit

/-- The kind of job of a pair, if there is one. -/
def of? : Mode → TaskKind → Option Variant
  | .interactive, .notebook => some .interactiveNotebook
  | .interactive, .jar => some .interactiveJar
  | .interactive, .python => some .interactivePython
  | .interactive, .sparkSubmit => none
  | .automated, .notebook => some .automatedNotebook
  | .automated, .jar => some .automatedJar
  | .automated, .python => some .automatedPython
  | .automated, .sparkSubmit => some .automatedSparkSubmit

/-- A kind of job is known by its pair. -/
theorem of?_eq_some_iff {mode : Mode} {kind : TaskKind} {v : Variant} :
    of? mode kind = some v ↔ v.mode = mode ∧ v.kind = kind := by
  cases mode <;> cases kind <;> cases v <;> decide

/-- Every kind of job. -/
def all : List Variant :=
  [.interactiveNotebook, .interactiveJar, .interactivePython, .automatedNotebook, .automatedJar,
    .automatedPython, .automatedSparkSubmit]

/-- A kind of job as messages say it. -/
def text (v : Variant) : String := v.mode.name ++ " " ++ v.kind.name

end Variant

end SparkFleet
