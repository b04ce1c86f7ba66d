/-!
# Moments

A moment in local time, with the two texts that logs show of it: the time of day, and the whole date
and time with the zone.
-/

namespace MembershipGrid

structure Moment where
  year : Nat
  month : Nat
  day : Nat
  hour : Nat
  minute : Nat
  second : Nat
  nanosecond : Nat
  /-- How many minutes the zone is ahead of universal time. -/
  offset : Int
  deriving DecidableEq

namespace Moment

/-- A decimal numeral of at least `width` digits. -/
def padded (width n : Nat) : String :=
  let digits := Nat.toDigits 10 n
  String.ofList (List.replicate (width - digits.length) '0' ++ digits)

def clock (m : Moment) : String :=
  padded 2 m.hour ++ ":" ++ padded 2 m.minute ++ ":" ++ padded 2 m.second

def timeOfDay (m : Moment) : String :=
  m.clock ++ "." ++ padded 3 (m.nanosecond / 1000000)

/-- What follows the seconds: nothing, or three, six or nine digits, as many as are needed. -/
def fraction (m : Moment) : String :=
  if m.nanosecond = 0 then ""
  else if m.nanosecond % 1000000 = 0 then "." ++ padded 3 (m.nanosecond / 1000000)
  else if m.nanosecond % 1000 = 0 then "." ++ padded 6 (m.nanosecond / 1000)
  else "." ++ padded 9 m.nanosecond

def zone (m : Moment) : String :=
  (if m.offset < 0 then "-" else "+") ++ padded 2 (m.offset.natAbs / 60) ++ ":" ++
    padded 2 (m.offset.natAbs % 60)

def stamp (m : Moment) : String :=
  padded 4 m.year ++ "-" ++ padded 2 m.month ++ "-" ++ padded 2 m.day ++ " " ++ m.clock ++
    m.fraction ++ " " ++ m.zone

end Moment

end MembershipGrid
