import Mathlib.Tactic

/-
  The text of a datetime.

  Key definitions include:
    * `civilDate`
    * `isoformat`
-/

------------------------------------------------------------
-- Calendar
------------------------------------------------------------

namespace AccessIQ

namespace Python

/-
  The year, month and day of a number of days since the
  epoch.  Years begin in March here, so that a leap day is
  the last day of its year; 400 years are a cycle.
-/
def civilDate
    (days : Int) :
    Int × Int × Int :=
  let shifted := days + 719468
  let cycle := shifted / 146097
  let dayOfCycle := shifted - cycle * 146097
  let yearOfCycle :=
    (dayOfCycle - dayOfCycle / 1460 + dayOfCycle / 36524 -
        dayOfCycle / 146096) / 365
  let dayOfYear :=
    dayOfCycle -
      (365 * yearOfCycle + yearOfCycle / 4 -
        yearOfCycle / 100)
  let shiftedMonth := (5 * dayOfYear + 2) / 153
  let day := dayOfYear - (153 * shiftedMonth + 2) / 5 + 1
  let month :=
    if shiftedMonth < 10 then
      shiftedMonth + 3
    else
      shiftedMonth - 9
  let year := yearOfCycle + cycle * 400
  (if month ≤ 2 then year + 1 else year, month, day)

/- A number with zeros in front up to a width. -/
def padded
    (width : Nat)
    (n : Int) :
    String :=
  let digits := toString n
  String.ofList
    (List.replicate (width - digits.length) '0' ++
      digits.toList)

/-
  `datetime.isoformat` of a number of microseconds since the
  epoch, with the offset of UTC unless the datetime is naive.
-/
def isoformat
    (aware : Bool)
    (instant : Int) :
    String :=
  let seconds := instant / 1000000
  let microseconds := instant % 1000000
  let secondOfDay := seconds % 86400
  let (year, month, day) := civilDate (seconds / 86400)
  padded 4 year ++ "-" ++ padded 2 month ++ "-" ++
    padded 2 day ++ "T" ++
    padded 2 (secondOfDay / 3600) ++ ":" ++
    padded 2 (secondOfDay / 60 % 60) ++ ":" ++
    padded 2 (secondOfDay % 60) ++
    (if microseconds = 0 then
      ""
    else
      "." ++ padded 6 microseconds) ++
    (if aware = true then "+00:00" else "")

example :
    isoformat true 1709210096000250 =
      "2024-02-29T12:34:56.000250+00:00" := by
  decide +kernel

end Python

end AccessIQ
