/-! Civil time: the calendar date and clock time of an instant, in UTC. -/

namespace MediaTimeline.Civil

def second : Int := 1000000000

def dateOfDays (z : Int) : Int × Nat × Nat :=
  let z := z + 719468
  let era := z.fdiv 146097
  let doe := z - era * 146097
  let yoe := (doe - doe / 1460 + doe / 36524 - doe / 146096) / 365
  let y := yoe + era * 400
  let doy := doe - (365 * yoe + yoe / 4 - yoe / 100)
  let mp := (5 * doy + 2) / 153
  let d := doy - (153 * mp + 2) / 5 + 1
  let m := if mp < 10 then mp + 3 else mp - 9
  ((if m ≤ 2 then y + 1 else y), m.toNat, d.toNat)

def daysOfDate (y : Int) (m d : Nat) : Int :=
  let y := if m ≤ 2 then y - 1 else y
  let era := y.fdiv 400
  let yoe := y - era * 400
  let mi : Int := m
  let doy := (153 * (if mi > 2 then mi - 3 else mi + 9) + 2) / 5 + d - 1
  let doe := yoe * 365 + yoe / 4 - yoe / 100 + doy
  era * 146097 + doe - 719468

def padded (width : Nat) (n : Nat) : String :=
  let ds := toString n
  String.ofList (List.replicate (width - ds.length) '0') ++ ds

/-- The date and time parts of an instant: date, hours, minutes, seconds and nanoseconds. -/
def parts (t : Int) : (Int × Nat × Nat) × Nat × Nat × Nat × Nat :=
  let secs := t.fdiv second
  let ns := (t - secs * second).toNat
  let days := secs.fdiv 86400
  let s := (secs - days * 86400).toNat
  (dateOfDays days, s / 3600, s / 60 % 60, s % 60, ns)

def yearText (y : Int) : String :=
  if y < 0 then "-" ++ padded 4 y.natAbs else padded 4 y.toNat

def fractionText (ns : Nat) : String :=
  if ns = 0 then ""
  else
    let ds := (padded 9 ns).toList
    String.ofList ('.' :: (ds.reverse.dropWhile (· = '0')).reverse)

/-- The date and the time of an instant with its fraction of a second, the two
parts separated by `sep`. -/
def dateTimeText (sep : String) (t : Int) : String :=
  let ((y, mo, d), h, mi, s, ns) := parts t
  yearText y ++ "-" ++ padded 2 mo ++ "-" ++ padded 2 d ++ sep ++ padded 2 h ++ ":" ++ padded 2 mi ++ ":" ++
    padded 2 s ++ fractionText ns

def rfc3339 (t : Int) : String := dateTimeText "T" t ++ "Z"

def longText (t : Int) : String := dateTimeText " " t ++ " +0000 UTC"

end MediaTimeline.Civil
