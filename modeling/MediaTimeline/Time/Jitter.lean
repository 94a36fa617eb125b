/-! Jittered intervals. -/

namespace MediaTimeline

def jitter (base : Int) (fraction : Float) (u : Float) : Int :=
  if fraction ≤ 0 then base
  else
    let f := if fraction > 1 then 1 else fraction
    let offset := (u * 2 - 1) * (Float.ofInt base * f)
    base + (if offset < 0 then -((-offset).floor.toUInt64.toNat : Int) else (offset.floor.toUInt64.toNat : Int))

/-- Whether a length lies within the jitter bounds of `base` and `fraction`. -/
def withinJitter (base : Int) (fraction : Float) (length : Int) : Bool :=
  let f := if fraction > 1 then 1 else fraction
  Float.abs (Float.ofInt (length - base)) ≤ Float.ofInt base * f

/-- A ticker: how often it fired, and whether it was stopped. -/
structure Ticker where
  base : Int
  fraction : Float
  fired : Nat := 0
  closed : Bool := false

def Ticker.tick (t : Ticker) : Ticker := if t.closed then t else { t with fired := t.fired + 1 }

def Ticker.stop (t : Ticker) : Ticker := { t with closed := true }

def Ticker.intervals (t : Ticker) (draws : List Float) : List Int := draws.map (jitter t.base t.fraction)

end MediaTimeline
