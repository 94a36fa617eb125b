import MediaTimeline.Settings.Number

/-! The double nearest a decimal, and the JSON text of that double. -/

namespace MediaTimeline.Settings

attribute [local instance (high)] instPowNat

/-- A double that is not negative: `mantissa × 2 ^ exponent`, with a mantissa
below `2 ^ 53`. -/
structure Binary where
  mantissa : Nat
  exponent : Int

def roundHalfEven (n d : Nat) : Nat :=
  let q := n / d
  let r := n % d
  if 2 * r < d then q else if d < 2 * r then q + 1 else if q % 2 = 0 then q else q + 1

/-- The double nearest the positive fraction `p / q`, for a fraction within the
finite doubles. With `lp` and `lq` the binary logarithms of `p` and `q`, the
fraction over `2 ^ (lp - lq - 52)` lies strictly between `2 ^ 51` and `2 ^ 53`,
so one more halving step brings the mantissa into `[2 ^ 52, 2 ^ 53)`. -/
def nearestBinary (p q : Nat) : Binary :=
  let scaled (e : Int) : Nat × Nat :=
    if 0 ≤ e then (p, q * 2 ^ e.toNat) else (p * 2 ^ (-e).toNat, q)
  let e0 : Int := (Nat.log2 p : Int) - Nat.log2 q - 52
  let e1 := if (scaled e0).1 < (scaled e0).2 * 2 ^ (52 : Nat) then e0 - 1 else e0
  let e := max e1 (-1074)
  let m := roundHalfEven (scaled e).1 (scaled e).2
  if m = 2 ^ (53 : Nat) then ⟨2 ^ (52 : Nat), e + 1⟩ else ⟨m, e⟩

def Binary.whole? (b : Binary) : Option Nat :=
  if 0 ≤ b.exponent then some (b.mantissa * 2 ^ b.exponent.toNat)
  else if b.mantissa % 2 ^ (-b.exponent).toNat = 0 then some (b.mantissa / 2 ^ (-b.exponent).toNat)
  else none

def readsBackAs (b : Binary) (v c : Nat) : Bool :=
  let up := 2 ^ b.exponent.toNat
  let down := if b.mantissa = 2 ^ (52 : Nat) then up / 2 else up
  let even := b.mantissa % 2 = 0
  if c ≤ v then (if even then 2 * (v - c) ≤ down else 2 * (v - c) < down)
  else (if even then 2 * (c - v) ≤ up else 2 * (c - v) < up)

def gridPoint (b : Binary) (v k : Nat) : Option Nat :=
  let unit := 10 ^ k
  let lo := v / unit * unit
  let hi := lo + unit
  let loOk := readsBackAs b v lo
  let hiOk := readsBackAs b v hi
  if loOk && hiOk then
    if v - lo < hi - v then some lo
    else if hi - v < v - lo then some hi
    else if (lo / unit) % 2 = 0 then some lo else some hi
  else if loOk then some lo
  else if hiOk then some hi
  else none

def shortestWhole (b : Binary) (v : Nat) : Nat → Nat
  | 0 => v
  | k + 1 => match gridPoint b v (k + 1) with
    | some c => c
    | none => shortestWhole b v k

def Decimal.jsonText (d : Decimal) : String :=
  let m := d.digits.natAbs
  let width : Int := (toString m).length
  let sign := if d.digits < 0 then "-" else ""
  if m = 0 || width + d.exponent ≤ -330 then "0"
  else
    let b := if 0 ≤ d.exponent then nearestBinary (m * 10 ^ d.exponent.toNat) 1
      else nearestBinary m (10 ^ (-d.exponent).toNat)
    if b.mantissa = 0 then "0"
    else match b.whole? with
      | some v =>
        if v < 10 ^ (21 : Nat) then
          sign ++ toString (if v < 2 ^ (53 : Nat) then v else shortestWhole b v 21)
        else d.toText
      | none => d.toText

end MediaTimeline.Settings
