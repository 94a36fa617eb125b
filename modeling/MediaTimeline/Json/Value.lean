import MediaTimeline.Text.Quoted

/-! JSON values and their compact text. -/

namespace MediaTimeline

/-- A JSON value; an object keeps its fields in order. -/
inductive JsonValue where
  | null
  | bool (b : Bool)
  | num (literal : String)
  | str (s : String)
  | arr (items : List JsonValue)
  | obj (fields : List (String × JsonValue))
deriving Inhabited

namespace JsonValue

def int (n : Int) : JsonValue := .num (toString n)

def escapeChar (c : Char) : List Char :=
  if c = '"' then ['\\', '"']
  else if c = '\\' then ['\\', '\\']
  else if c = '\x08' then ['\\', 'b']
  else if c = '\x0c' then ['\\', 'f']
  else if c = '\n' then ['\\', 'n']
  else if c = '\r' then ['\\', 'r']
  else if c = '\t' then ['\\', 't']
  else if c.toNat < 0x20 || c = '<' || c = '>' || c = '&' || c.toNat = 0x2028 ||
      c.toNat = 0x2029 then
    '\\' :: 'u' :: Text.hexPadded 4 c.toNat
  else [c]

def quote (s : String) : String :=
  String.ofList ('"' :: (s.toList.flatMap escapeChar ++ ['"']))

mutual
def render : JsonValue → String
  | .null => "null"
  | .bool true => "true"
  | .bool false => "false"
  | .num lit => lit
  | .str s => quote s
  | .arr items => "[" ++ renderItems items ++ "]"
  | .obj fields => "\x7b" ++ renderFields fields ++ "\x7d"

def renderItems : List JsonValue → String
  | [] => ""
  | [v] => render v
  | v :: vs => render v ++ "," ++ renderItems vs

def renderFields : List (String × JsonValue) → String
  | [] => ""
  | [(k, v)] => quote k ++ ":" ++ render v
  | (k, v) :: fs => quote k ++ ":" ++ render v ++ "," ++ renderFields fs
end

def indent (level : Nat) : String := String.ofList (List.replicate (2 * level) ' ')

mutual
/-- The text of a value laid out over lines: each item and field on a line of
its own, indented by two blanks for each level of nesting. Empty arrays and
objects stay on one line. -/
def renderIndented (level : Nat) : JsonValue → String
  | .arr [] => "[]"
  | .obj [] => "\x7b\x7d"
  | .arr items => "[\n" ++ indentedItems (level + 1) items ++ "\n" ++ indent level ++ "]"
  | .obj fields => "\x7b\n" ++ indentedFields (level + 1) fields ++ "\n" ++ indent level ++ "\x7d"
  | v => render v

def indentedItems (level : Nat) : List JsonValue → String
  | [] => ""
  | [v] => indent level ++ renderIndented level v
  | v :: vs => indent level ++ renderIndented level v ++ ",\n" ++ indentedItems level vs

def indentedFields (level : Nat) : List (String × JsonValue) → String
  | [] => ""
  | [(k, v)] => indent level ++ quote k ++ ": " ++ renderIndented level v
  | (k, v) :: fs => indent level ++ quote k ++ ": " ++ renderIndented level v ++ ",\n" ++ indentedFields level fs
end

/-- The value of a field of an object, if it has one; the last of equal names wins. -/
def field? (fields : List (String × JsonValue)) (name : String) : Option JsonValue :=
  (fields.reverse.find? (·.1 = name)).map (·.2)

end JsonValue

end MediaTimeline
