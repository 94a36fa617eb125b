import MediaTimeline.Time.Civil

/-! Reading RFC 3339 text into an instant, element by element. -/

namespace MediaTimeline.Civil

attribute [local instance (high)] instPowNat

def rfc3339Layout : String := "2006-01-02T15:04:05Z07:00"

/-- Why text is no RFC 3339 instant; `text` is the whole text read. -/
inductive TimeTextError where
  | outOfRange (text : List UInt8) (what : String)
  | unreadable (text rest : List UInt8) (element : String)
  | extraText (text rest : List UInt8)
deriving DecidableEq

def hexByte (b : UInt8) : List Char :=
  let digit (n : Nat) : Char := if n < 10 then Char.ofNat (48 + n) else Char.ofNat (87 + n)
  [digit (b.toNat / 16), digit (b.toNat % 16)]

/-- Text between double quotes as a time error cites it: each byte outside
printable ASCII written as hex after a backslash and an x, and the double quote
and backslash escaped. -/
def quoteTimeText (bs : List UInt8) : String :=
  let piece (b : UInt8) : List Char :=
    if b ≥ 0x80 || b < 0x20 then '\\' :: 'x' :: hexByte b
    else if b = 0x22 || b = 0x5C then ['\\', Char.ofNat b.toNat]
    else [Char.ofNat b.toNat]
  String.ofList ('"' :: (bs.flatMap piece ++ ['"']))

def TimeTextError.message : TimeTextError → String
  | .outOfRange text what => "parsing time " ++ quoteTimeText text ++ ": " ++ what ++ " out of range"
  | .unreadable text rest element =>
    "parsing time " ++ quoteTimeText text ++ " as " ++ quoteTimeText rfc3339Layout.toUTF8.toList ++
      ": cannot parse " ++ quoteTimeText rest ++ " as " ++ quoteTimeText element.toUTF8.toList
  | .extraText text rest => "parsing time " ++ quoteTimeText text ++ ": extra text: " ++ quoteTimeText rest

def isDigitByte (b : UInt8) : Bool := 0x30 ≤ b && b ≤ 0x39

def digitValue (b : UInt8) : Nat := b.toNat - 0x30

def readNumber (fixed : Bool) : List UInt8 → Option (Nat × List UInt8)
  | a :: b :: r =>
    if !isDigitByte a then none
    else if isDigitByte b then some (digitValue a * 10 + digitValue b, r)
    else if fixed then none
    else some (digitValue a, b :: r)
  | [a] => if isDigitByte a && !fixed then some (digitValue a, []) else none
  | [] => none

def readYear : List UInt8 → Option (Nat × List UInt8)
  | a :: b :: c :: d :: r =>
    if [a, b, c, d].all isDigitByte then
      some (((digitValue a * 10 + digitValue b) * 10 + digitValue c) * 10 + digitValue d, r)
    else none
  | _ => none

def isLeapYear (y : Nat) : Bool := y % 4 = 0 && (y % 100 != 0 || y % 400 = 0)

def daysInMonth (m y : Nat) : Nat :=
  if m = 2 then (if isLeapYear y then 29 else 28)
  else if m = 4 || m = 6 || m = 9 || m = 11 then 30
  else 31

def fractionNanos (ds : List UInt8) : Nat :=
  let kept := ds.take 9
  kept.foldl (fun a d => a * 10 + digitValue d) 0 * 10 ^ (9 - kept.length)

/-- An optional fraction of a second after a point or a comma: its nanoseconds
and the text after its digits. -/
def readFraction : List UInt8 → Nat × List UInt8
  | c :: d :: r =>
    if (c = 0x2E || c = 0x2C) && isDigitByte d then
      (fractionNanos (d :: r.takeWhile isDigitByte), r.dropWhile isDigitByte)
    else (0, c :: d :: r)
  | r => (0, r)

def readOffset (text : List UInt8) : List UInt8 → Except TimeTextError (Int × List UInt8)
  | 0x5A :: r => .ok (0, r)
  | r =>
    match r with
    | sg :: h1 :: h2 :: colon :: m1 :: m2 :: rest =>
      if colon != 0x3A then .error (.unreadable text r "Z07:00")
      else
        let hr := readNumber true [h1, h2]
        let mm := if hr.isSome then readNumber true [m1, m2] else none
        let hours := (hr.map (·.1)).getD 0
        let minutes := (mm.map (·.1)).getD 0
        if minutes > 60 then .error (.outOfRange text "time zone offset minute")
        else if hours > 24 then .error (.outOfRange text "time zone offset hour")
        else if mm.isNone || !(sg = 0x2B || sg = 0x2D) then .error (.unreadable text r "Z07:00")
        else
          let v : Int := ((hours * 60 + minutes) * 60 : Nat)
          .ok (if sg = 0x2D then -v else v, rest)
    | _ => .error (.unreadable text r "Z07:00")

def expectByte (text : List UInt8) (c : UInt8) (r : List UInt8) : Except TimeTextError (List UInt8) :=
  match r with
  | d :: rest => if d = c then .ok rest else .error (.unreadable text r (String.singleton (Char.ofNat c.toNat)))
  | [] => .error (.unreadable text r (String.singleton (Char.ofNat c.toNat)))

def expectNumber (text : List UInt8) (element : String) (read : List UInt8 → Option (Nat × List UInt8))
    (r : List UInt8) : Except TimeTextError (Nat × List UInt8) :=
  match read r with
  | some v => .ok v
  | none => .error (.unreadable text r element)

/-- The instant, in nanoseconds since 1970-01-01T00:00:00Z, that RFC 3339 text
stands for, and the offset east of UTC in seconds it is written in. -/
def parseRfc3339 (s : String) : Except TimeTextError (Int × Int) := do
  let text := s.toUTF8.toList
  let (y, r) ← expectNumber text "2006" readYear text
  let r ← expectByte text 0x2D r
  let (mo, r) ← expectNumber text "01" (readNumber true) r
  if mo = 0 || mo > 12 then throw (.outOfRange text "month")
  let r ← expectByte text 0x2D r
  let (d, r) ← expectNumber text "02" (readNumber true) r
  let r ← expectByte text 0x54 r
  let (h, r) ← expectNumber text "15" (readNumber false) r
  if h ≥ 24 then throw (.outOfRange text "hour")
  let r ← expectByte text 0x3A r
  let (mi, r) ← expectNumber text "04" (readNumber true) r
  if mi ≥ 60 then throw (.outOfRange text "minute")
  let r ← expectByte text 0x3A r
  let (sec, r) ← expectNumber text "05" (readNumber true) r
  if sec ≥ 60 then throw (.outOfRange text "second")
  let (ns, r) := readFraction r
  let (offset, r) ← readOffset text r
  if !r.isEmpty then throw (.extraText text r)
  if d = 0 || d > daysInMonth mo y then throw (.outOfRange text "day")
  pure ((daysOfDate y mo d * 86400 + h * 3600 + mi * 60 + sec - offset) * second + ns, offset)

end MediaTimeline.Civil
