import MediaTimeline.Fault
import MediaTimeline.Text.Quoted

/-! A bounded cache of values by text key. -/

namespace MediaTimeline

/-- A cached value and the time it was written. -/
structure CacheEntry (α : Type) where
  value : α
  written : Int
deriving Inhabited

/-- A cache: its entries, its size bound and its time to live. -/
structure Cache (α : Type) where
  entries : List (String × CacheEntry α) := []
  maxSize : Int := 0
  ttl : Int := 0
deriving Inhabited

namespace Cache

variable {α : Type}

def expired (c : Cache α) (now : Int) (e : CacheEntry α) : Bool :=
  0 < c.ttl && c.ttl ≤ now - e.written

def get? (c : Cache α) (now : Int) (k : String) : Option α :=
  match c.entries.lookup k with
  | some e => if c.expired now e then none else some e.value
  | none => none

def older (o : Option (String × Int)) (p : String × CacheEntry α) : Option (String × Int) :=
  match o with
  | some (_, w) => if p.2.written < w then some (p.1, p.2.written) else o
  | none => some (p.1, p.2.written)

def oldest? (es : List (String × CacheEntry α)) : Option (String × Int) := es.foldl older none

def dropOldest (es : List (String × CacheEntry α)) : List (String × CacheEntry α) :=
  match oldest? es with
  | some (k, _) => es.filter (·.1 != k)
  | none => es

def set (c : Cache α) (now : Int) (k : String) (v : α) : Cache α :=
  let held := c.entries.any (·.1 == k)
  let es := if !held && 0 < c.maxSize && c.maxSize ≤ c.entries.length then dropOldest c.entries
    else c.entries
  { c with entries := (if held then es.filter (·.1 != k) else es) ++ [(k, ⟨v, now⟩)] }

def erase (c : Cache α) (k : String) : Cache α :=
  { c with entries := c.entries.filter (·.1 != k) }

def size (c : Cache α) : Nat := c.entries.length

def clear (c : Cache α) : Cache α := { c with entries := [] }

/-- Drops every entry that has outlived the time to live at `now`, as the cache does by itself
once every time to live. -/
def sweep (c : Cache α) (now : Int) : Cache α :=
  { c with entries := c.entries.filter fun p => !c.expired now p.2 }

/-- The live value under a key, else the loaded one, which is then cached; a
cache without a loader cannot load. -/
def getOrLoad (c : Cache α) (now : Int) (k : String) (load : Option (String → Except Fault α)) :
    Except Fault (α × Cache α) :=
  match c.get? now k with
  | some v => .ok (v, c)
  | none => match load with
    | none => .error .noLoader
    | some f => (f k).map fun v => (v, c.set now k v)

def tableLoader (table : List (String × String)) (k : String) : Except Fault String :=
  match table.lookup k with
  | some v => .ok v
  | none => .error (.outage ("no value for " ++ Text.quote k))

end Cache

end MediaTimeline
