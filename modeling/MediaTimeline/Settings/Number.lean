import MediaTimeline.Text.Quoted

/-! Numbers and truth values written as setting texts. -/

namespace MediaTimeline.Settings

attribute [local instance (high)] instPowNat

/-- Why a text is not a number. -/
inductive NumberError where
  | malformed
  | outOfRange
deriving DecidableEq, Inhabited

def NumberError.message (what text : String) : NumberError → String
  | .malformed => what ++ ": parsing " ++ Text.quote text ++ ": invalid syntax"
  | .outOfRange => what ++ ": parsing " ++ Text.quote text ++ ": value out of range"

def digitValue (c : Char) : Option Nat :=
  if c.isDigit then some (c.toNat - '0'.toNat)
  else if 'a' ≤ c.toLower ∧ c.toLower ≤ 'z' then some (c.toLower.toNat - 'a'.toNat + 10)
  else none

def underscoresBetweenDigits (cs : List Char) : Bool :=
  let cs := match cs with
    | '+' :: r | '-' :: r => r
    | r => r
  let (start, hex, rest) := match cs with
    | '0' :: p :: r =>
      if p.toLower = 'b' ∨ p.toLower = 'o' ∨ p.toLower = 'x' then ('0', p.toLower == 'x', r)
      else ('^', false, cs)
    | _ => ('^', false, cs)
  let last := rest.foldl (fun (saw : Option Char) c =>
    match saw with
    | none => none
    | some s =>
      if c.isDigit || (hex && 'a' ≤ c.toLower && c.toLower ≤ 'f') then some '0'
      else if c = '_' then (if s = '0' then some '_' else none)
      else if s = '_' then none
      else some '!') (some start)
  match last with
  | some s => s != '_'
  | none => false

def readDigits (base limit : Nat) (allowUnderscore : Bool) : List Char → Nat → Except NumberError Nat
  | [], n => .ok n
  | c :: rest, n =>
    if c = '_' && allowUnderscore then readDigits base limit allowUnderscore rest n
    else match digitValue c with
      | none => .error .malformed
      | some d =>
        if base ≤ d then .error .malformed
        else if limit < n * base + d then .error .outOfRange
        else readDigits base limit allowUnderscore rest (n * base + d)

def readUnsigned (limit : Nat) (cs : List Char) : Except NumberError Nat :=
  if cs.isEmpty then .error .malformed
  else
    let (base, digits) := match cs with
      | '0' :: p :: d :: r =>
        if p.toLower = 'b' then (2, d :: r)
        else if p.toLower = 'o' then (8, d :: r)
        else if p.toLower = 'x' then (16, d :: r)
        else (8, p :: d :: r)
      | '0' :: r => (8, r)
      | r => (10, r)
    match readDigits base limit true digits 0 with
    | .error e => .error e
    | .ok n => if cs.contains '_' && !underscoresBetweenDigits cs then .error .malformed else .ok n

def readInteger (s : String) : Except NumberError Int :=
  let cs := s.toList
  let (neg, body) := match cs with
    | '-' :: r => (true, r)
    | '+' :: r => (false, r)
    | r => (false, r)
  match readUnsigned (2 ^ (64 : Nat) - 1) body with
  | .error e => .error e
  | .ok n =>
    if neg then (if 2 ^ (63 : Nat) < n then .error .outOfRange else .ok (-(n : Int)))
    else if 2 ^ (63 : Nat) ≤ n then .error .outOfRange else .ok n

def readDecimalUnsigned (limit : Nat) (s : String) : Except NumberError Nat :=
  if s.isEmpty then .error .malformed else readDigits 10 limit false s.toList 0

def readDecimalInteger (s : String) : Except NumberError Int :=
  let (neg, body) := match s.toList with
    | '-' :: r => (true, r)
    | '+' :: r => (false, r)
    | r => (false, r)
  match readDecimalUnsigned (2 ^ (64 : Nat) - 1) (String.ofList body) with
  | .error e => .error e
  | .ok n =>
    if neg then (if 2 ^ (63 : Nat) < n then .error .outOfRange else .ok (-(n : Int)))
    else if 2 ^ (63 : Nat) ≤ n then .error .outOfRange else .ok n

def readBool (s : String) : Except NumberError Bool :=
  if ["1", "t", "T", "true", "TRUE", "True"].contains s then .ok true
  else if ["0", "f", "F", "false", "FALSE", "False"].contains s then .ok false
  else .error .malformed

/-- A decimal text with a point, an optional sign and digits before the point
and only digits after it, loses the point and what follows; any other text is
kept. -/
def dropDecimalPart (s : String) : String :=
  let cs := s.toList
  let body := match cs with
    | '+' :: r | '-' :: r => r
    | r => r
  let whole := body.takeWhile Char.isDigit
  match body.drop whole.length with
  | '.' :: frac =>
    if !whole.isEmpty && frac.all Char.isDigit then String.ofList (cs.take (cs.length - frac.length - 1))
    else s
  | _ => s

/-- An exact decimal number: `digits × 10 ^ exponent`. -/
structure Decimal where
  digits : Int
  exponent : Int
deriving DecidableEq, Inhabited

def finiteBound : Nat := 2 ^ (1024 : Nat) - 2 ^ (970 : Nat)

/-- Whether a decimal lies beyond the doubles: at or above half a unit past the
largest. A decimal of `w` digits times `10 ^ e` lies in `[10 ^ (w + e - 1), 10 ^ (w + e))`,
which settles all but the decimals of 309 places before the point. -/
def Decimal.beyondDoubles (d : Decimal) : Bool :=
  let m := d.digits.natAbs
  let width : Int := (toString m).length
  if m = 0 then false
  else if width + d.exponent ≤ 308 then false
  else if 309 ≤ width - 1 + d.exponent then true
  else if 0 ≤ d.exponent then finiteBound ≤ m * 10 ^ d.exponent.toNat
  else finiteBound * 10 ^ (-d.exponent).toNat ≤ m

def fractionDigits (cs : List Char) : Option (Nat × Int × List Char) :=
  let whole := cs.takeWhile (fun c => c.isDigit || c = '_')
  let rest := cs.drop whole.length
  let (frac, rest) := match rest with
    | '.' :: r => let f := r.takeWhile (fun (c : Char) => c.isDigit || c = '_'); (f, r.drop f.length)
    | r => ([], r)
  let ds := (whole ++ frac).filter Char.isDigit
  if ds.isEmpty then none
  else some (ds.foldl (fun n (c : Char) => n * 10 + (c.toNat - '0'.toNat)) 0,
    -((frac.filter Char.isDigit).length : Int), rest)

def readDecimalBody (neg : Bool) (whole : List Char) (body : List Char) : Except NumberError Decimal :=
  match fractionDigits body with
  | none => .error .malformed
  | some (n, e, rest) =>
    let expo : Option Int := match rest with
      | [] => some 0
      | c :: r =>
        if c.toLower = 'e' then
          let (eneg, eds) := match r with
            | '-' :: t => (true, t)
            | '+' :: t => (false, t)
            | t => (false, t)
          if !eds.isEmpty && eds.all (fun (c : Char) => c.isDigit || c = '_') then
            let v : Int := (eds.filter Char.isDigit).foldl (fun n (c : Char) => n * 10 + (c.toNat - '0'.toNat : Nat)) 0
            some (if eneg then -v else v)
          else none
        else none
    match expo with
    | none => .error .malformed
    | some x =>
      if whole.contains '_' && !underscoresBetweenDigits whole then .error .malformed
      else
        let d : Decimal := ⟨if neg then -(n : Int) else n, e + x⟩
        if d.beyondDoubles then .error .outOfRange else .ok d

def hexDigitValue (c : Char) : Option Nat :=
  match digitValue c with
  | some d => if d < 16 then some d else none
  | none => none

def hexMantissa : List Char → Nat → Nat → Bool → Bool → Nat × Nat × Bool × List Char
  | [], n, after, _, saw => (n, after, saw, [])
  | c :: r, n, after, dot, saw =>
    if c = '_' then hexMantissa r n after dot saw
    else if c = '.' then
      if dot then (n, after, saw, c :: r) else hexMantissa r n after true saw
    else match hexDigitValue c with
      | some d => hexMantissa r (n * 16 + d) (if dot then after + 1 else after) dot true
      | none => (n, after, saw, c :: r)

/-- Reads a binary exponent after its letter: an optional sign, then digits of
which the first is no underscore. Like the decimal exponent it stops growing
past a hundred thousand, which lies far beyond every double. -/
def binaryExponent (cs : List Char) : Option Int :=
  let (neg, ds) := match cs with
    | '-' :: t => (true, t)
    | '+' :: t => (false, t)
    | t => (false, t)
  match ds with
  | d :: _ =>
    if d.isDigit && ds.all (fun (c : Char) => c.isDigit || c = '_') then
      let v : Nat := (ds.filter Char.isDigit).foldl
        (fun n (c : Char) => if n < 10000 then n * 10 + (c.toNat - '0'.toNat) else n) 0
      some (if neg then -(v : Int) else v)
    else none
  | [] => none

def binaryDecimal (neg : Bool) (m : Nat) (k : Int) : Option Decimal :=
  let sign (n : Nat) : Int := if neg then -(n : Int) else n
  let magnitude : Int := (Nat.log2 m : Int) + 1 + k
  if m = 0 then some ⟨0, 0⟩
  else if 1026 < magnitude then none
  else if magnitude < -1100 then some ⟨0, 0⟩
  else
    let d : Decimal := if 0 ≤ k then ⟨sign (m * 2 ^ k.toNat), 0⟩ else ⟨sign (m * 5 ^ (-k).toNat), k⟩
    if d.beyondDoubles then none else some d

def readHexFraction (neg : Bool) (whole : List Char) (cs : List Char) : Except NumberError Decimal :=
  let (m, after, saw, rest) := hexMantissa cs 0 0 false false
  if !saw then .error .malformed
  else match rest with
    | p :: r =>
      if p.toLower != 'p' then .error .malformed
      else match binaryExponent r with
        | none => .error .malformed
        | some e =>
          if whole.contains '_' && !underscoresBetweenDigits whole then .error .malformed
          else match binaryDecimal neg m (e - 4 * after) with
            | some d => .ok d
            | none => .error .outOfRange
    | [] => .error .malformed

def readDecimal (s : String) : Except NumberError Decimal :=
  let cs := s.toList
  let (neg, body) := match cs with
    | '-' :: r => (true, r)
    | '+' :: r => (false, r)
    | r => (false, r)
  match body with
  | '0' :: x :: c :: r =>
    if x.toLower = 'x' then readHexFraction neg cs (c :: r)
    else readDecimalBody neg cs body
  | _ => readDecimalBody neg cs body

/-- A double as a text names it: a finite decimal, an infinity of a sign, or
not a number. -/
inductive Floating where
  | finite (d : Decimal)
  | infinite (negative : Bool)
  | notANumber
deriving DecidableEq, Inhabited

/-- Reads a double: an infinity spelled `inf` or `infinity` in any case after an
optional sign, `nan` in any case with no sign, or else a decimal or hex fraction. -/
def readFloat (s : String) : Except NumberError Floating :=
  let (neg, body) := match s.toList with
    | '-' :: r => (true, r)
    | '+' :: r => (false, r)
    | r => (false, r)
  let word := (String.ofList body).toLower
  if word == "inf" || word == "infinity" then .ok (.infinite neg)
  else if s.toLower == "nan" then .ok .notANumber
  else (readDecimal s).map .finite

def Decimal.toText (d : Decimal) : String :=
  toString d.digits ++ "e" ++ toString d.exponent

end MediaTimeline.Settings
