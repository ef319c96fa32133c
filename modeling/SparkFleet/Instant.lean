/-!
# Points in time

The platform gives points in time as milliseconds since the start of 1970.  Only those of the years
from −262143 to 262142 are dates; a number outside is none.
-/

namespace SparkFleet

/-- The first millisecond that has a date. -/
def firstMillisecond : Int := -8334601228800000

/-- The last millisecond that has a date. -/
def lastMillisecond : Int := 8210266876799999

/-- A number of milliseconds, if it has a date. -/
def dated? (millis : Int64) : Option Int64 :=
  if firstMillisecond ≤ millis.toInt ∧ millis.toInt ≤ lastMillisecond then some millis else none

end SparkFleet
