import MediaTimeline.Settings.Number

/-! Durations written as setting texts, such as `1m30s` or `-1.5h`. -/

namespace MediaTimeline.Settings

attribute [local instance (high)] instPowNat

def durationUnits : List (String × Nat) :=
  [("ns", 1), ("us", 1000), ("µs", 1000), ("μs", 1000), ("ms", 1000000), ("s", 1000000000),
    ("m", 60000000000), ("h", 3600000000000)]

/-- A text quoted for a duration message: a quote or backslash gets a backslash,
and a character that is not printable ASCII is written as the hex of its bytes. -/
def quoteForDuration (s : String) : String :=
  let hex (b : UInt8) : List Char := '\\' :: 'x' :: Text.hexPadded 2 b.toNat
  let body := s.toList.flatMap fun c =>
    if c.toNat < 0x20 || 0x80 ≤ c.toNat then (String.singleton c).toUTF8.toList.flatMap hex
    else if c = '"' || c = '\\' then ['\\', c]
    else [c]
  String.ofList ('"' :: body ++ ['"'])

/-- Why a text is not a duration. -/
inductive DurationError where
  | malformed (text : String)
  | missingUnit (text : String)
  | unknownUnit (unit text : String)
deriving DecidableEq, Inhabited

def DurationError.message : DurationError → String
  | .malformed t => "time: invalid duration " ++ quoteForDuration t
  | .missingUnit t => "time: missing unit in duration " ++ quoteForDuration t
  | .unknownUnit u t => "time: unknown unit " ++ quoteForDuration u ++ " in duration " ++ quoteForDuration t

def leadingInt (cs : List Char) : Option Nat :=
  cs.foldl (fun acc c => acc.bind fun n =>
    let m := n * 10 + (c.toNat - '0'.toNat)
    if 2 ^ (63 : Nat) < m then none else some m) (some 0)

def leadingFraction (cs : List Char) : Nat × Float :=
  let (f, scale, _) := cs.foldl (fun (f, scale, overflow) c =>
    if overflow then (f, scale, true)
    else
      let m := f * 10 + (c.toNat - '0'.toNat)
      if 2 ^ (63 : Nat) < m then (f, scale, true) else (m, scale * 10, false)) (0, (1 : Float), false)
  (f, scale)

def readQuantities (orig : String) : Nat → List Char → Nat → Except DurationError Nat
  | 0, _, total => .ok total
  | _, [], total => .ok total
  | fuel + 1, cs, total => do
    match cs with
    | c :: _ => if !(c = '.' || c.isDigit) then throw (.malformed orig)
    | [] => pure ()
    let whole := cs.takeWhile Char.isDigit
    let v ← match leadingInt whole with
      | some v => pure v
      | none => throw (.malformed orig)
    let rest := cs.drop whole.length
    let (frac, rest, post) := match rest with
      | '.' :: r => let f := r.takeWhile Char.isDigit; (f, r.drop f.length, !f.isEmpty)
      | r => ([], r, false)
    if whole.isEmpty && !post then throw (.malformed orig)
    let unit := rest.takeWhile fun c => !(c = '.' || c.isDigit)
    let rest := rest.drop unit.length
    if unit.isEmpty then throw (.missingUnit orig)
    let u ← match durationUnits.lookup (String.ofList unit) with
      | some u => pure u
      | none => throw (.unknownUnit (String.ofList unit) orig)
    if 2 ^ (63 : Nat) / u < v then throw (.malformed orig)
    let (f, scale) := leadingFraction frac
    let v := v * u + (if f = 0 then 0 else (Float.ofNat f * (Float.ofNat u / scale)).toUInt64.toNat)
    if 2 ^ (63 : Nat) < v then throw (.malformed orig)
    let total := total + v
    if 2 ^ (63 : Nat) < total then throw (.malformed orig)
    readQuantities orig fuel rest total

def readDuration (s : String) : Except DurationError Int := do
  let (neg, body) := match s.toList with
    | '-' :: r => (true, r)
    | '+' :: r => (false, r)
    | r => (false, r)
  if body = ['0'] then return 0
  if body.isEmpty then throw (.malformed s)
  let total ← readQuantities s (body.length + 1) body 0
  if neg then return -(total : Int)
  if 2 ^ (63 : Nat) - 1 < total then throw (.malformed s)
  pure total

def fractionText (v prec : Nat) : String × Nat :=
  let frac := v % 10 ^ prec
  let ds := Nat.toDigits 10 frac
  let padded := List.replicate (prec - ds.length) '0' ++ ds
  let trimmed := (padded.reverse.dropWhile (· = '0')).reverse
  (if frac = 0 then "" else String.ofList ('.' :: trimmed), v / 10 ^ prec)

/-- The text of a duration: below a second in the largest unit of `ns`, `µs`
and `ms` that fits, with a fraction; from a second on as hours, minutes and
seconds, leading zero parts left out and the seconds with a fraction. -/
def durationText (d : Int) : String :=
  let u := d.natAbs
  let sign := if d < 0 then "-" else ""
  if u = 0 then "0s"
  else if u < 1000 then sign ++ toString u ++ "ns"
  else if u < 1000000 then
    let (f, w) := fractionText u 3
    sign ++ toString w ++ f ++ "µs"
  else if u < 1000000000 then
    let (f, w) := fractionText u 6
    sign ++ toString w ++ f ++ "ms"
  else
    let (f, secs) := fractionText u 9
    let mins := secs / 60
    let hours := mins / 60
    let s := toString (secs % 60) ++ f ++ "s"
    if mins = 0 then sign ++ s
    else if hours = 0 then sign ++ toString mins ++ "m" ++ s
    else sign ++ toString hours ++ "h" ++ toString (mins % 60) ++ "m" ++ s

end MediaTimeline.Settings
