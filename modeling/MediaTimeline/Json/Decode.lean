import MediaTimeline.Json.Read

/-! Decoding JSON into records. -/

namespace MediaTimeline.Json

/-- One step from a value into a part of it: the member of an object with the
name as written in the text, or an element of an array. -/
inductive PathStep where
  | member (name : String)
  | index (i : Nat)
deriving DecidableEq

def PathStep.text : PathStep → String
  | .member name => name
  | .index i => toString i

def pathText (path : List PathStep) : String := ".".intercalate (path.map PathStep.text)

/-- Why JSON text does not decode into a record. -/
inductive DecodeError where
  | notJson (e : SyntaxError)
  | mismatch (found : String) (record : Option String) (path : List PathStep) (typeName : String)
      (why : Option String)
deriving DecidableEq

/-- The place a mismatch names: a field of a record when its path ends at a
member, else the element reached. -/
def placeText (record : String) (path : List PathStep) : String :=
  let whole := if path.isEmpty then record else record ++ "." ++ pathText path
  match path.getLast? with
  | some (.index _) => whole
  | _ => "Go struct field " ++ whole

def DecodeError.message : DecodeError → String
  | .notJson e => e.message
  | .mismatch found record path t why =>
    let place := match record with
      | none => "Go value"
      | some r => placeText r path
    "json: cannot unmarshal " ++ found ++ " into " ++ place ++ " of type " ++ t ++
      (match why with | some w => ": " ++ w | none => "")

def kindName : JsonValue → String
  | .null => "null"
  | .bool _ => "bool"
  | .num _ => "number"
  | .str _ => "string"
  | .arr _ => "array"
  | .obj _ => "object"

/-- Where a value lies: its record's name and the path to it inside the record. -/
structure FieldPlace where
  record : String
  path : List PathStep

def decodeText (place : FieldPlace) : JsonValue → Except DecodeError (Option String)
  | .str s => .ok (some s)
  | .null => .ok none
  | v => .error (.mismatch (kindName v) (some place.record) place.path "string" none)

def literalInt (lit : String) (lo hi : Int) : Option Int :=
  let digits (cs : List Char) : Option Nat :=
    if !cs.isEmpty && cs.all Char.isDigit then
      some (cs.foldl (fun acc d => acc * 10 + (d.toNat - '0'.toNat)) 0)
    else none
  let v : Option Int := match lit.toList with
    | '-' :: cs => (digits cs).map (fun n => -(n : Int))
    | cs => (digits cs).map (fun n => (n : Int))
  v.bind fun n => if lo ≤ n ∧ n ≤ hi then some n else none

def decodeInt (typeName : String) (place : FieldPlace) : JsonValue → Except DecodeError (Option Int)
  | .num lit =>
    match literalInt lit (-9223372036854775808) 9223372036854775807 with
    | some n => .ok (some n)
    | none => .error (.mismatch ("number " ++ lit) (some place.record) place.path typeName none)
  | .null => .ok none
  | v => .error (.mismatch (kindName v) (some place.record) place.path typeName none)

def decodeTexts (place : FieldPlace) : JsonValue → Except DecodeError (Option (List String))
  | .arr items =>
    (items.zipIdx.foldlM (fun acc (v, i) => do
      match ← decodeText { place with path := place.path ++ [PathStep.index i] } v with
      | some s => pure (acc ++ [s])
      | none => pure (acc ++ [""])) []).map some
  | .null => .ok none
  | v => .error (.mismatch (kindName v) (some place.record) place.path "[]string" none)

def foldChar (c : Char) : Char :=
  if c.toNat = 0x17F then 'S'
  else if c.toNat = 0x212A then 'K'
  else c.toUpper

def sameUpToCase (a b : String) : Bool := a.toList.map foldChar == b.toList.map foldChar

/-- How a record takes one field's value. -/
structure FieldRule (α : Type) where
  name : String
  take : FieldPlace → JsonValue → α → Except DecodeError α

/-- The rule for a member name: the field it names exactly, else the first it names up to case. -/
def ruleFor {α : Type} (rules : List (FieldRule α)) (key : String) : Option (FieldRule α) :=
  match rules.find? (·.name = key) with
  | some r => some r
  | none => rules.find? (fun r => sameUpToCase r.name key)

/-- Decodes a record named `record` (of type `typeName`) from a value, starting
from `init` and applying the members in order. -/
def decodeRecord {α : Type} (record typeName : String) (rules : List (FieldRule α)) (init : α) :
    JsonValue → Except DecodeError α
  | .obj members =>
    members.foldlM (fun acc (k, v) =>
      match ruleFor rules k with
      | some r => r.take ⟨record, [.member k]⟩ v acc
      | none => pure acc) init
  | .null => .ok init
  | v => .error (.mismatch (kindName v) none [] typeName none)

def decodeRecordText {α : Type} (record typeName : String) (rules : List (FieldRule α)) (init : α)
    (bs : List UInt8) : Except DecodeError α :=
  match readJson bs with
  | .error e => .error (.notJson e)
  | .ok v => decodeRecord record typeName rules init v

end MediaTimeline.Json
