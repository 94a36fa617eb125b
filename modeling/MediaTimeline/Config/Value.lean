import MediaTimeline.Text.Quoted
import MediaTimeline.Text.Case

/-! Values of a configuration file. -/

namespace MediaTimeline.Config

/-- A value of a configuration file. -/
inductive ConfigValue where
  | null
  | truth (b : Bool)
  | integer (n : Int)
  | fraction (text : String)
  | text (s : String)
  | list (items : List ConfigValue)
  | table (entries : List (String × ConfigValue))
deriving Inhabited

namespace ConfigValue

def kindName : ConfigValue → String
  | .null => "invalid"
  | .truth _ => "bool"
  | .integer _ => "int"
  | .fraction _ => "float64"
  | .text _ => "string"
  | .list _ => "slice"
  | .table _ => "map"

def insertSorted (e : String × String) : List (String × String) → List (String × String)
  | [] => [e]
  | x :: rest => if e.1 < x.1 then e :: x :: rest else x :: insertSorted e rest

mutual
def printed : ConfigValue → String
  | .null => "<nil>"
  | .truth b => if b then "true" else "false"
  | .integer n => toString n
  | .fraction t => t
  | .text s => s
  | .list items => "[" ++ " ".intercalate (showItems items) ++ "]"
  | .table entries =>
    "map[" ++ " ".intercalate (((showEntries entries).foldr insertSorted []).map fun (k, v) => k ++ ":" ++ v) ++ "]"

def showItems : List ConfigValue → List String
  | [] => []
  | v :: vs => printed v :: showItems vs

def showEntries : List (String × ConfigValue) → List (String × String)
  | [] => []
  | (k, v) :: es => (k, printed v) :: showEntries es
end

mutual
def lowerNames : ConfigValue → ConfigValue
  | .list items => .list (lowerItems items)
  | .table entries => .table (lowerEntries entries)
  | v => v

def lowerItems : List ConfigValue → List ConfigValue
  | [] => []
  | v :: vs => lowerNames v :: lowerItems vs

def lowerEntries : List (String × ConfigValue) → List (String × ConfigValue)
  | [] => []
  | (k, v) :: es => (Text.lowerText k, lowerNames v) :: lowerEntries es
end

def entry? (v : ConfigValue) (name : String) : Option ConfigValue :=
  match v with
  | .table entries => entries.lookup name
  | _ => none

/-- The position a text names in a list: decimal digits after an optional
sign; none for a negative number. -/
def position? (s : String) : Option Nat :=
  match s.toList with
  | '+' :: ds => if !ds.isEmpty && ds.all Char.isDigit then (String.ofList ds).toNat? else none
  | ds => if !ds.isEmpty && ds.all Char.isDigit then s.toNat? else none

/-- What a run of names, joined by dots, names directly in a value: an entry of
a table, or a position of a list. -/
def step? (v : ConfigValue) (key : String) : Option ConfigValue :=
  match v with
  | .table entries => entries.lookup key
  | .list items => (position? key).bind (items[·]?)
  | _ => none

/-- The value at a path of names, as a lookup in the configuration finds it.
The longest run of leading names, joined by dots, that names something is tried
first, and the rest of the path is looked up in what it names; when that finds
nothing, a shorter run is tried. A `null` value counts as nothing. The fuel
bounds the depth and needs to exceed the length of the path. -/
def lookupPath : Nat → ConfigValue → List String → Option ConfigValue
  | _, v, [] => some v
  | 0, _, _ => none
  | fuel + 1, v, path =>
    (List.range path.length).reverse.findSome? fun j =>
      match v.step? (".".intercalate (path.take (j + 1))) with
      | none => none
      | some next =>
        if j + 1 = path.length then
          match next with
          | .null => none
          | _ => some next
        else
          match next with
          | .table _ | .list _ => lookupPath fuel next (path.drop (j + 1))
          | _ => none

def atPath (v : ConfigValue) (path : List String) : Option ConfigValue :=
  v.lookupPath (path.length + 1) path

end ConfigValue

end MediaTimeline.Config
