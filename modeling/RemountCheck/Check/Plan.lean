import RemountCheck.Check.Names
import RemountCheck.Check.Policy

/-!
# The plan of a check

* `RemountCheck.Plan` – everything that a check has to know before it starts: the
  names and sizes of its resources, where the volume is mounted each time, what is
  written to it and how long deletions are waited for.

All but the names and the image have usual values, which a plan takes unless it
is told otherwise.
-/

namespace RemountCheck

/-- **The plan of a check.** Sizes are in megabytes. -/
structure Plan where
  names : Names
  image : String
  volumeDisplayName : String := "Test Persistence Volume"
  volumeSize : UInt32 := 1024
  memory : UInt32 := 2048
  region : Option String := none
  firstMount : String := "/persistent-data"
  secondMount : String := "/data"
  fileName : String := "test-file.txt"
  content : String := "Hello from sandbox!"
  policy : Policy := {}
  deriving DecidableEq, Repr

end RemountCheck
