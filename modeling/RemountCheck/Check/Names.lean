import RemountCheck.Text.Digits

/-!
# The names of a check's resources

A check creates one volume and two sandboxes. Under the fixed names two checks
that run at the same time are in each other's way; a suffix of its own keeps a
check apart from every other.

* `RemountCheck.Names` – the three names;
* `RemountCheck.Names.fixed`, `RemountCheck.Names.withSuffix`;
* `RemountCheck.Names.uniqueSuffix` – a suffix from the time, in seconds, and
  some random bits.
-/

namespace RemountCheck

/-- **The names of the three resources** that a check creates. -/
structure Names where
  volume : String
  firstSandbox : String
  secondSandbox : String
  deriving DecidableEq, Repr

namespace Names

/-- The well-known names. -/
def fixed : Names where
  volume := "test-persistence-volume"
  firstSandbox := "first-sandbox"
  secondSandbox := "second-sandbox"

/-- The well-known names with a suffix after a dash. -/
def withSuffix (suffix : String) : Names where
  volume := fixed.volume ++ "-" ++ suffix
  firstSandbox := fixed.firstSandbox ++ "-" ++ suffix
  secondSandbox := fixed.secondSandbox ++ "-" ++ suffix

/-- **A suffix that no other check shares**: the seconds in decimal, then five
lower-case hexadecimal digits of the random number. -/
def uniqueSuffix (seconds random : Nat) : String :=
  toString seconds ++ String.ofList ((List.range 5).map fun i => Text.lowerHex (random >>> (4 * i) % 16))

end Names

end RemountCheck
