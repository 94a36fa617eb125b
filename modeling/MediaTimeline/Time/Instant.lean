import MediaTimeline.Time.Civil

/-! Instants as the clock keeps them. -/

namespace MediaTimeline

attribute [local instance (high)] instPowNat

/-- An instant: seconds since 0001-01-01T00:00:00Z within the signed 64-bit
range, the nanoseconds past them, below a second, and the offset east of UTC in
seconds that it is shown in. -/
structure Instant where
  secs : Int
  nanos : Nat
  offset : Int := 0
deriving DecidableEq, Inhabited, Repr

namespace Instant

def wrap (n : Int) : Int := Int.bmod n (2 ^ (64 : Nat))

def maxSecs : Int := 2 ^ (63 : Nat) - 1

def unixEpoch : Int := 62135596800

def calendarEpoch : Int := 9223372028741760000

def zero : Instant := ⟨0, 0, 0⟩

def isZero (t : Instant) : Bool := t.secs == 0 && t.nanos == 0

/-- The instant `sec` seconds and `nsec` nanoseconds after 1970-01-01T00:00:00Z.
Whole seconds among the nanoseconds are carried into the seconds, and the
seconds wrap. -/
def ofUnix (sec nsec : Int) : Instant :=
  ⟨wrap (sec + nsec.fdiv 1000000000 + unixEpoch), (nsec.fmod 1000000000).toNat, 0⟩

def ofNanos (n : Int) : Instant := ofUnix 0 n

def shownAt (t : Instant) (offset : Int) : Instant := { t with offset := offset }

def unix (t : Instant) : Int := wrap (t.secs - unixEpoch)

def unixNanos (t : Instant) : Int := wrap (t.unix * 1000000000 + t.nanos)

def before (a b : Instant) : Bool := a.secs < b.secs || (a.secs == b.secs && a.nanos < b.nanos)

def same (a b : Instant) : Bool := a.secs == b.secs && a.nanos == b.nanos

/-- `t` moved by `d` nanoseconds. The seconds stop at the largest count, or at
its negation, rather than wrap. -/
def add (t : Instant) (d : Int) : Instant :=
  let n := (t.nanos : Int) + d.tmod 1000000000
  let (carry, n) :=
    if 1000000000 ≤ n then (1, n - 1000000000) else if n < 0 then (-1, n + 1000000000) else (0, n)
  let sum := t.secs + d.tdiv 1000000000 + carry
  ⟨if maxSecs < sum then maxSecs else if sum < -2 ^ (63 : Nat) then -maxSecs else sum, n.toNat, t.offset⟩

def back (t : Instant) (d : Int) : Instant := t.add (wrap (-d))

def calendarSeconds (t : Instant) : Int := (t.unix + t.offset + calendarEpoch) % 2 ^ (64 : Nat) - calendarEpoch

def calendarNanos (t : Instant) : Int := t.calendarSeconds * 1000000000 + t.nanos

def year (t : Instant) : Int := (Civil.dateOfDays (t.calendarSeconds.fdiv 86400)).1

def offsetText (t : Instant) (sep : String) : String :=
  let minutes := t.offset.tdiv 60
  (if minutes < 0 then "-" else "+") ++ Civil.padded 2 (minutes.natAbs / 60) ++ sep ++
    Civil.padded 2 (minutes.natAbs % 60)

def rfc3339 (t : Instant) : String :=
  Civil.dateTimeText "T" t.calendarNanos ++ if t.offset = 0 then "Z" else t.offsetText ":"

/-- The long text of the calendar reading: date, time, offset and zone, which
is UTC or else named by its offset. -/
def longText (t : Instant) : String :=
  Civil.dateTimeText " " t.calendarNanos ++ " " ++ t.offsetText "" ++ " " ++
    if t.offset = 0 then "UTC" else t.offsetText ""

/-- The RFC 3339 text of an instant in a JSON document, which only years 0 to
9999 and offsets of less than 24 hours have. -/
def documentText (t : Instant) : Except String String :=
  if t.year < 0 ∨ 9999 < t.year then .error "year outside of range [0,9999]"
  else if t.offset ≠ 0 ∧ 24 ≤ (t.offset.tdiv 60).natAbs / 60 then .error "timezone hour outside of range [0,23]"
  else .ok t.rfc3339

end Instant

end MediaTimeline
