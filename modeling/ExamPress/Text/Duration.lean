import ExamPress.Number.Decimal

/-!
# Durations

A span of time in seconds and billionths of a second, and its text in the largest unit that leaves
something before the decimal point.
-/

set_option autoImplicit false

namespace ExamPress

/-- A span of time. -/
structure Duration where
  seconds : Nat := 0
  /-- Less than a second, in billionths. -/
  nanos : Nat := 0
  deriving DecidableEq

namespace Duration

/-- A number with the given decimal places after it, final zeros left out. -/
def withFraction (whole fraction places : Nat) : List Char :=
  let digits := Number.natText fraction
  let padded := List.replicate (places - digits.length) '0' ++ digits
  let kept := (padded.reverse.dropWhile (· = '0')).reverse
  Number.natText whole ++ (if fraction = 0 then [] else '.' :: kept)

/-- **The text of a duration**, in seconds, milliseconds, microseconds or nanoseconds. -/
def text (d : Duration) : String := String.ofList <|
  if 0 < d.seconds then withFraction d.seconds d.nanos 9 ++ ['s']
  else if 1000000 ≤ d.nanos then
    withFraction (d.nanos / 1000000) (d.nanos % 1000000) 6 ++ ['m', 's']
  else if 1000 ≤ d.nanos then
    withFraction (d.nanos / 1000) (d.nanos % 1000) 3 ++ ['µ', 's']
  else Number.natText d.nanos ++ ['n', 's']

/-- Seconds and any number of billionths. -/
def ofParts (seconds nanos : Nat) : Duration :=
  { seconds := seconds + nanos / 1000000000, nanos := nanos % 1000000000 }

/-- A number of milliseconds. -/
def ofMillis (n : Nat) : Duration := ofParts (n / 1000) (n % 1000 * 1000000)

end Duration

end ExamPress
