import MediaTimeline.Time.Stamp

/-! Time ranges: intervals of the timeline whose ends may be open, closed or absent. -/

namespace MediaTimeline

/-- One end of a range: an instant, and whether the range holds it. -/
structure Bound where
  stamp : Stamp
  closed : Bool
deriving DecidableEq, Inhabited

/-- A stretch of the timeline from `lower` to `upper`; an absent end is unbounded. -/
structure TimeRange where
  lower : Option Bound
  upper : Option Bound
deriving DecidableEq, Inhabited

namespace TimeRange

def eternity : TimeRange := ⟨none, none⟩

def never : TimeRange := ⟨some ⟨Stamp.zero, false⟩, some ⟨Stamp.zero, false⟩⟩

/-- A range holds no instant when its start lies after its end, or on it with
one of the two ends open. -/
def isEmpty (r : TimeRange) : Bool :=
  match r.lower, r.upper with
  | some a, some b => b.stamp < a.stamp || (a.stamp = b.stamp && !(a.closed && b.closed))
  | _, _ => false

def make (lower upper : Option Bound) : TimeRange :=
  if (TimeRange.mk lower upper).isEmpty then never else ⟨lower, upper⟩

def ofStamps (start stop : Option Stamp) (closedStart closedStop : Bool) : TimeRange :=
  make (start.map (⟨·, closedStart⟩)) (stop.map (⟨·, closedStop⟩))

def instant (t : Stamp) : TimeRange := make (some ⟨t, true⟩) (some ⟨t, true⟩)

def isEternity (r : TimeRange) : Bool := r.lower.isNone && r.upper.isNone

def isInstant (r : TimeRange) : Bool :=
  match r.lower, r.upper with
  | some a, some b => a.stamp = b.stamp && a.closed && b.closed
  | _, _ => false

def isBounded (r : TimeRange) : Bool := r.lower.isSome && r.upper.isSome

def equiv (r o : TimeRange) : Bool :=
  if r.isEmpty || o.isEmpty then r.isEmpty && o.isEmpty else r == o

/-- Of two present start bounds, the later; on a tie the instant is held only if both hold it. -/
def laterStart (a b : Bound) : Bound :=
  if b.stamp < a.stamp then a
  else if a.stamp < b.stamp then b
  else ⟨a.stamp, a.closed && b.closed⟩

/-- Of two present end bounds, the earlier; on a tie the instant is held only if both hold it. -/
def earlierStop (a b : Bound) : Bound :=
  if a.stamp < b.stamp then a
  else if b.stamp < a.stamp then b
  else ⟨a.stamp, a.closed && b.closed⟩

/-- Of two present start bounds, the earlier; on a tie the instant is held if either holds it. -/
def earlierStart (a b : Bound) : Bound :=
  if a.stamp < b.stamp then a
  else if b.stamp < a.stamp then b
  else ⟨a.stamp, a.closed || b.closed⟩

def laterStop (a b : Bound) : Bound :=
  if b.stamp < a.stamp then a
  else if a.stamp < b.stamp then b
  else ⟨a.stamp, a.closed || b.closed⟩

def meetEnds (f : Bound → Bound → Bound) : Option Bound → Option Bound → Option Bound
  | none, b => b
  | a, none => a
  | some a, some b => some (f a b)

def joinEnds (f : Bound → Bound → Bound) : Option Bound → Option Bound → Option Bound
  | some a, some b => some (f a b)
  | _, _ => none

def intersect (r o : TimeRange) : TimeRange :=
  if r.isEmpty || o.isEmpty then never
  else make (meetEnds laterStart r.lower o.lower) (meetEnds earlierStop r.upper o.upper)

def startWithin (a : Option Bound) (b : Option Bound) : Bool :=
  match a, b with
  | none, _ => true
  | some _, none => false
  | some a, some b => a.stamp < b.stamp || (a.stamp = b.stamp && (a.closed || !b.closed))

def stopWithin (a : Option Bound) (b : Option Bound) : Bool :=
  match a, b with
  | none, _ => true
  | some _, none => false
  | some a, some b => b.stamp < a.stamp || (a.stamp = b.stamp && (a.closed || !b.closed))

def contains (r o : TimeRange) : Bool :=
  if o.isEmpty then true
  else if r.isEmpty then false
  else startWithin r.lower o.lower && stopWithin r.upper o.upper

def extend (r o : TimeRange) : TimeRange :=
  if r.isEmpty then make o.lower o.upper
  else if o.isEmpty then make r.lower r.upper
  else make (joinEnds earlierStart r.lower o.lower) (joinEnds laterStop r.upper o.upper)

/-- Everything after the range: from its end, with the end instant held exactly
when the range does not hold it. Empty when the range is empty or has no end. -/
def after (r : TimeRange) : TimeRange :=
  if r.isEmpty then never
  else match r.upper with
    | none => never
    | some b => make (some ⟨b.stamp, !b.closed⟩) none

def startKey (r : TimeRange) : Except KeyError Int :=
  match r.lower with
  | none => .error .unbounded
  | some b =>
    match b.stamp.toNanos? with
    | none => .error (.overflow b.stamp)
    | some n =>
      if b.closed then .ok n
      else if n = int64Max then .error (.openStartAtMax b.stamp)
      else .ok (n + 1)

def stopKey (r : TimeRange) : Except KeyError Int :=
  match r.upper with
  | none => .error .unbounded
  | some b =>
    match b.stamp.toNanos? with
    | none => .error (.overflow b.stamp)
    | some n =>
      if b.closed then .ok n
      else if n = int64Min then .error (.openStopAtMin b.stamp)
      else .ok (n - 1)

end TimeRange

end MediaTimeline
