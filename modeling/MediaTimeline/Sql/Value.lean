import MediaTimeline.Time.Instant
import MediaTimeline.Text.Quoted
import MediaTimeline.Settings.Number

/-! Values that go into and come out of SQL statements, and how a column's value is stored into a
typed destination. -/

namespace MediaTimeline.Sql

/-- A value of a column or an argument. -/
inductive SqlValue where
  | null
  | int (n : Int)
  | text (s : String)
  | truth (b : Bool)
  | bytes (s : String)
  | time (t : Instant)
deriving DecidableEq, Inhabited

def SqlValue.typeName : SqlValue → String
  | .null => "<nil>"
  | .int _ => "int64"
  | .text _ => "string"
  | .truth _ => "bool"
  | .bytes _ => "[]uint8"
  | .time _ => "time.Time"

def SqlValue.asText : SqlValue → String
  | .null => ""
  | .int n => toString n
  | .text s | .bytes s => s
  | .truth b => if b then "true" else "false"
  | .time t => t.longText

/-- A destination a column is stored into. -/
inductive Target where
  | text
  | named (typeName : String)
  | int (name : String)
  | time
  | maybeTime
  | maybeText
  | raw
deriving DecidableEq, Inhabited

/-- Reads a decimal integer with an optional sign, within 64 bits; digits are
read from the left, so a value that outgrows 64 bits fails as out of range even
when a character that is no digit follows. -/
def readDecimal (s : String) : Except String Int :=
  (Settings.readDecimalInteger s).mapError fun
    | .malformed => "invalid syntax"
    | .outOfRange => "value out of range"

def SqlValue.store (v : SqlValue) : Target → Except String SqlValue
  | .text => match v with
    | .null => .error "converting NULL to string is unsupported"
    | .time t => .ok (.text t.rfc3339)
    | v => .ok (.text v.asText)
  | .named n => match v with
    | .text s | .bytes s => .ok (.text s)
    | .null => .error "converting NULL to string is unsupported"
    | v => .error ("unsupported Scan, storing driver.Value type " ++ v.typeName ++ " into type " ++ n)
  | .int name => match v with
    | .null => .error ("converting NULL to " ++ name ++ " is unsupported")
    | .int n => .ok (.int n)
    | v => match readDecimal v.asText with
      | .ok n => .ok (.int n)
      | .error e => .error ("converting driver.Value type " ++ v.typeName ++ " (" ++ Text.quote v.asText ++
          ") to a " ++ name ++ ": " ++ e)
  | .time => match v with
    | .time t => .ok (.time t)
    | v => .error ("unsupported Scan, storing driver.Value type " ++ v.typeName ++ " into type *time.Time")
  | .maybeTime => match v with
    | .null => .ok .null
    | .time t => .ok (.time t)
    | v => .error ("unsupported Scan, storing driver.Value type " ++ v.typeName ++ " into type *time.Time")
  | .maybeText => match v with
    | .null => .ok .null
    | .time t => .ok (.text t.rfc3339)
    | v => .ok (.text v.asText)
  | .raw => match v with
    | .bytes s => .ok (.text s)
    | v => .error ("unsupported Scan, storing driver.Value type " ++ v.typeName ++ " into type *json.RawMessage")

def storeRow (row : List SqlValue) (targets : List Target) : Except String (List SqlValue) :=
  if row.length ≠ targets.length then
    .error ("sql: expected " ++ toString row.length ++ " destination arguments in Scan, not " ++
      toString targets.length)
  else
    ((row.zip targets).zipIdx).mapM fun ((v, t), i) =>
      (v.store t).mapError fun e =>
        "sql: Scan error on column index " ++ toString i ++ ", name " ++ Text.quote ("c" ++ toString i) ++ ": " ++ e

end MediaTimeline.Sql
