import MediaTimeline.Text.Quoted

/-! Timestamps on the media timeline. -/

namespace MediaTimeline

attribute [local instance (high)] instPowNat

def nanosPerSecond : Nat := 1000000000

def int64Min : Int := -9223372036854775808

def int64Max : Int := 9223372036854775807

def IsInt64 (n : Int) : Prop := int64Min ≤ n ∧ n ≤ int64Max

instance (n : Int) : Decidable (IsInt64 n) := inferInstanceAs (Decidable (_ ∧ _))

/-- A point on the timeline, as its distance from the origin in nanoseconds. -/
structure Stamp where
  nanos : Int
deriving DecidableEq, Inhabited

namespace Stamp

def zero : Stamp := ⟨0⟩

instance : Ord Stamp := ⟨fun a b => compare a.nanos b.nanos⟩
instance : LT Stamp := ⟨fun a b => a.nanos < b.nanos⟩
instance : LE Stamp := ⟨fun a b => a.nanos ≤ b.nanos⟩
instance (a b : Stamp) : Decidable (a < b) := inferInstanceAs (Decidable (a.nanos < b.nanos))
instance (a b : Stamp) : Decidable (a ≤ b) := inferInstanceAs (Decidable (a.nanos ≤ b.nanos))

def sec (t : Stamp) : Int := t.nanos / (nanosPerSecond : Int)

def nsec (t : Stamp) : Nat := (t.nanos % (nanosPerSecond : Int)).toNat

def Representable (v : Int) : Prop :=
  int64Min * nanosPerSecond ≤ v ∧ v < (int64Max + 1) * nanosPerSecond

instance (v : Int) : Decidable (Representable v) := inferInstanceAs (Decidable (_ ∧ _))

/-- A timestamp as it is stored: whole seconds and the nanoseconds past them. In normal form
the nanoseconds lie in `[0, 10^9)`. -/
structure Words where
  sec : Int64
  nsec : Int32
deriving DecidableEq, Inhabited

namespace Words

def value (w : Words) : Int := w.sec.toInt * nanosPerSecond + w.nsec.toInt

def Normal (w : Words) : Prop := 0 ≤ w.nsec.toInt ∧ w.nsec.toInt < nanosPerSecond

instance (w : Words) : Decidable w.Normal := inferInstanceAs (Decidable (_ ∧ _))

def toStamp (w : Words) : Stamp := ⟨w.value⟩

/-- The canonical text. Before the origin it is a minus sign and the magnitudes of the
seconds and the nanoseconds, the seconds taken as an unsigned word so that the least
second has one. -/
def toText (w : Words) : String :=
  if 0 ≤ w.sec then toString w.sec.toInt ++ ":" ++ toString w.nsec.toInt
  else
    let (magSec, magNsec) : UInt64 × Int64 :=
      if w.nsec = 0 then ((-(w.sec + 1)).toUInt64 + 1, 0)
      else ((-(w.sec + 1)).toUInt64, 1000000000 - w.nsec.toInt64)
    "-" ++ toString magSec.toNat ++ ":" ++ toString magNsec.toInt

/-- The stored form of a nanosecond count: truncating division, and a second borrowed when
the remainder is negative. -/
def ofNanosec (ns : Int64) : Words :=
  let sec := ns / 1000000000
  let nsec := ns % 1000000000
  if nsec < 0 then ⟨sec - 1, (nsec + 1000000000).toInt32⟩ else ⟨sec, nsec.toInt32⟩

def compare (a b : Words) : Ordering :=
  if a.sec < b.sec then .lt
  else if b.sec < a.sec then .gt
  else if a.nsec < b.nsec then .lt
  else if b.nsec < a.nsec then .gt
  else .eq

end Words

def words (t : Stamp) : Words := ⟨Int64.ofInt t.sec, Int32.ofNat t.nsec⟩

def toText (t : Stamp) : String := t.words.toText

/-- Why a text is no timestamp. Each case carries the text as it was given. -/
inductive ParseError where
  | malformed (text : String)
  | secondsTooLong (text digits : String)
  | nanosOutOfRange (text : String)
  | secondsOutOfRange (text : String)
deriving DecidableEq

def ParseError.message : ParseError → String
  | .malformed s => "invalid timestamp: " ++ Text.quote s
  | .secondsTooLong s d =>
    "invalid timestamp: seconds " ++ Text.quote s ++ ": strconv.ParseUint: parsing " ++
      Text.quote d ++ ": value out of range"
  | .nanosOutOfRange s => "invalid timestamp: nanoseconds out of range in " ++ Text.quote s
  | .secondsOutOfRange s => "invalid timestamp: seconds out of range in " ++ Text.quote s

def digitsValue (ds : List Char) : Nat :=
  ds.foldl (fun acc d => acc * 10 + (d.toNat - '0'.toNat)) 0

def allDigits (ds : List Char) : Bool :=
  !ds.isEmpty && ds.all Char.isDigit

def splitSign : List Char → Bool × List Char
  | '-' :: rest => (true, rest)
  | '+' :: rest => (false, rest)
  | cs => (false, cs)

/-- The stored form of the magnitude `mag` seconds and `nsec` nanoseconds, negated when `neg`,
or nothing when the seconds lie outside the timeline. A negative time without nanoseconds
reaches one second further than a positive one. -/
def Words.ofMagnitude (neg : Bool) (mag : UInt64) (nsec : Int64) : Option Words :=
  let limit : UInt64 :=
    if neg && nsec = 0 then Int64.maxValue.toUInt64 + 1 else Int64.maxValue.toUInt64
  if limit < mag then none
  else if !neg then some ⟨mag.toInt64, nsec.toInt32⟩
  else if mag = 0 && nsec = 0 then some ⟨0, 0⟩
  else if nsec = 0 then some ⟨-(mag - 1).toInt64 - 1, 0⟩
  else some ⟨-mag.toInt64 - 1, (1000000000 - nsec).toInt32⟩

/-- Reads `[+|-]seconds:nanoseconds` into its stored form. The seconds must fit an unsigned
64-bit integer before the value is checked against the timeline, and the nanoseconds
must be below a second; leading zeros are allowed in both. -/
def Words.parse (s : String) : Except ParseError Words :=
  let (neg, body) := splitSign s.toList
  let secs := body.takeWhile (· != ':')
  match body.dropWhile (· != ':') with
  | [] => .error (.malformed s)
  | _ :: nanosPart =>
    if !(allDigits secs && allDigits nanosPart) then .error (.malformed s)
    else if 2 ^ (64 : Nat) ≤ digitsValue secs then .error (.secondsTooLong s (String.ofList secs))
    else if nanosPerSecond ≤ digitsValue nanosPart then .error (.nanosOutOfRange s)
    else
      match Words.ofMagnitude neg (UInt64.ofNat (digitsValue secs))
          (Int64.ofNat (digitsValue nanosPart)) with
      | some w => .ok w
      | none => .error (.secondsOutOfRange s)

def parse (s : String) : Except ParseError Stamp := (Words.parse s).map Words.toStamp

def toNanos? (t : Stamp) : Option Int :=
  if IsInt64 t.nanos then some t.nanos else none

def ofNanos (n : Int) : Stamp := ⟨n⟩

end Stamp

/-- Why an instant, or an end of a range, has no 64-bit nanosecond key. -/
inductive KeyError where
  | unbounded
  | overflow (t : Stamp)
  | openStartAtMax (t : Stamp)
  | openStopAtMin (t : Stamp)
deriving DecidableEq

def KeyError.message : KeyError → String
  | .unbounded => "timerange bound is unbounded"
  | .overflow t => "timestamp overflows int64 nanoseconds: " ++ t.toText
  | .openStartAtMax t => "timestamp overflows int64 nanoseconds: exclusive start " ++ t.toText
  | .openStopAtMin t => "timestamp overflows int64 nanoseconds: exclusive end " ++ t.toText

/-- The nanosecond count of an instant, or the overflow that prevents it. -/
def Stamp.toNanos (t : Stamp) : Except KeyError Int :=
  match t.toNanos? with
  | some n => .ok n
  | none => .error (.overflow t)

/-- The nanosecond count of a stored form, or the overflow when it does not fit 64 bits. The
seconds below the least whole second of the count are taken from the next second up, so
that no product overflows on the way. -/
def Stamp.Words.toNanosec (w : Words) : Except KeyError Int64 :=
  let maxSec : Int64 := Int64.maxValue / 1000000000
  let minSec : Int64 := Int64.minValue / 1000000000
  if maxSec < w.sec || w.sec < minSec - 1 then .error (.overflow w.toStamp)
  else if w.sec = maxSec && Int64.maxValue - maxSec * 1000000000 < w.nsec.toInt64 then
    .error (.overflow w.toStamp)
  else if w.sec = minSec - 1 then
    let base := (w.sec + 1) * 1000000000
    let rem := w.nsec.toInt64 - 1000000000
    if rem < Int64.minValue - base then .error (.overflow w.toStamp) else .ok (base + rem)
  else .ok (w.sec * 1000000000 + w.nsec.toInt64)

end MediaTimeline
