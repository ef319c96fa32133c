import SparkFleet.SortedMap

/-!
# Maps from text to text

Parameters, tags and settings are maps from text to text, listed in the code-point order of their
keys.
-/

namespace SparkFleet

/-- A map from text to text. -/
abbrev TextMap := SortedMap String String

end SparkFleet
