import MediaTimeline.Fault
import MediaTimeline.Json.Value

/-! Calls on the library written as JSON. -/

namespace MediaTimeline

namespace JsonValue

instance : Coe String JsonValue := ⟨.str⟩
instance : Coe Bool JsonValue := ⟨.bool⟩
instance : Coe Int JsonValue := ⟨JsonValue.int⟩
instance : Coe Nat JsonValue := ⟨fun n => JsonValue.int n⟩
instance {n : Nat} : OfNat JsonValue n := ⟨JsonValue.int n⟩

/-- The field `k` of an object; null when it has none or is no object. -/
def get (v : JsonValue) (k : String) : JsonValue :=
  match v with
  | .obj fs => (field? fs k).getD .null
  | _ => .null

def texts (xs : List String) : JsonValue := .arr (xs.map .str)

def ints (xs : List Int) : JsonValue := .arr (xs.map JsonValue.int)

def without (v : JsonValue) (ks : List String) : JsonValue :=
  match v with
  | .obj fs => .obj (fs.filter fun f => !ks.contains f.1)
  | v => v

/-- An object with field `k` set to `x`, in place when it is there and last otherwise. -/
def set (v : JsonValue) (k : String) (x : JsonValue) : JsonValue :=
  match v with
  | .obj fs => if fs.any (·.1 == k) then .obj (fs.map fun f => if f.1 == k then (k, x) else f)
    else .obj (fs ++ [(k, x)])
  | v => v

def opt {α : Type} (f : α → JsonValue) : Option α → JsonValue
  | some a => f a
  | none => .null

end JsonValue

namespace Rpc

abbrev Reading := Except String

def wrong {α : Type} (k what : String) : Reading α := throw (k ++ ": expected " ++ what)

def str (j : JsonValue) (k : String) : Reading String :=
  match j.get k with
  | .null => pure ""
  | .str s => pure s
  | _ => wrong k "string"

def optStr (j : JsonValue) (k : String) : Reading (Option String) :=
  match j.get k with
  | .null => pure none
  | .str s => pure (some s)
  | _ => wrong k "string"

/-- A text argument that may be absent; one given as null is the empty text. -/
def givenStr (j : JsonValue) (k : String) : Reading (Option String) :=
  match j with
  | .obj fs => match JsonValue.field? fs k with
    | none => pure none
    | some .null => pure (some "")
    | some (.str s) => pure (some s)
    | some _ => wrong k "string"
  | _ => pure none

def flag (j : JsonValue) (k : String) : Reading Bool :=
  match j.get k with
  | .null => pure false
  | .bool b => pure b
  | _ => wrong k "bool"

/-- The integer that a decimal text stands for: digits after an optional sign. -/
def decimal? (s : String) : Option Int :=
  let (neg, ds) := match s.toList with
    | '-' :: r => (true, r)
    | '+' :: r => (false, r)
    | r => (false, r)
  if ds.isEmpty || !ds.all Char.isDigit then none
  else
    let n : Int := ds.foldl (fun a c => a * 10 + ((c.toNat - 48 : Nat) : Int)) 0
    some (if neg then -n else n)

def intOf (k : String) : JsonValue → Reading Int
  | .null => pure 0
  | .num lit | .str lit => match decimal? lit with
    | some v => if IsInt64 v then pure v else wrong k "int64"
    | none => wrong k "int64"
  | _ => wrong k "int64"

def int (j : JsonValue) (k : String) : Reading Int := intOf k (j.get k)

def optInt (j : JsonValue) (k : String) : Reading (Option Int) :=
  match j.get k with
  | .null => pure none
  | v => some <$> intOf k v

def arrOf (j : JsonValue) (k : String) : Reading (List JsonValue) :=
  match j.get k with
  | .null => pure []
  | .arr xs => pure xs
  | _ => wrong k "list"

/-- A list of 64-bit integers; unlike a single integer, an item may not be null. -/
def intsOf (j : JsonValue) (k : String) : Reading (List Int) := do
  (← arrOf j k).mapM fun
    | .null => wrong k "int64"
    | v => intOf k v

def objOf (j : JsonValue) (k : String) : Reading JsonValue :=
  match j.get k with
  | .null => pure .null
  | .obj fs => pure (.obj fs)
  | _ => wrong k "object"

def objsOf (j : JsonValue) (k : String) : Reading (List JsonValue) := do
  (← arrOf j k).mapM fun
    | .null => pure .null
    | .obj fs => pure (.obj fs)
    | _ => wrong k "list of objects"

def strs (j : JsonValue) (k : String) : Reading (List String) := do
  (← arrOf j k).mapM fun
    | .str s => pure s
    | .null => pure ""
    | _ => wrong k "list of strings"

def FaultClass.name : FaultClass → String
  | .overlap => "OverlapError" | .validation => "ValidationError"
  | .invalidRange => "ErrInvalidTimeRange" | .invalidStamp => "ErrInvalidTimestamp"
  | .overflow => "ErrOverflow" | .unbounded => "ErrUnbounded"
  | .emptyRange => "ErrEmptyTimerange" | .unboundedRange => "ErrUnboundedTimerange"
  | .segmentMissing => "ErrSegmentNotFound" | .flowMissing => "ErrFlowNotFound"
  | .requestMissing => "ErrDeleteRequestNotFound" | .flowReadOnly => "ErrFlowReadOnly"
  | .taskMissing => "ErrTaskNotFound" | .queueClosed => "ErrQueueClosed"
  | .invalidPayload => "ErrInvalidPayload" | .noLoader => "ErrNoLoader"
  | .injected => "injected" | .other => "error"

def fault (f : Fault) : JsonValue :=
  .obj [("error", FaultClass.name f.primary), ("message", f.message)]

def failure (message : String) : JsonValue := .obj [("error", "error"), ("message", message)]

def ok : JsonValue := .obj [("ok", true)]

def panicked (message : String) : JsonValue := .obj [("error", "panic"), ("message", message)]

/-- The failures of the library's parts, seen as faults. -/
class Failing (ε : Type) where
  toFault : ε → Fault

instance : Failing Fault := ⟨id⟩
instance : Failing KeyError := ⟨Fault.key⟩
instance : Failing SegmentError := ⟨Fault.segment⟩
instance : Failing Violation := ⟨Fault.invalid⟩

def orFault {α ε : Type} [Failing ε] (f : α → JsonValue) : Except ε α → JsonValue
  | .ok a => f a
  | .error e => fault (Failing.toFault e)

end Rpc

end MediaTimeline
