import MediaTimeline.Rpc.Basic
import MediaTimeline.Service.Basic

/-! Stable names for generated ids. -/

namespace MediaTimeline.Rpc

def isLowerHex (c : Char) : Bool := c.isDigit || ('a' ≤ c && c ≤ 'f')

def idShape : List Char := "xxxxxxxx-xxxx-xxxx-xxxx-xxxxxxxxxxxx".toList

def startsWithId (cs : List Char) : Bool :=
  cs.length ≥ idShape.length &&
    (idShape.zip cs).all fun (p, c) => if p = '-' then c = '-' else isLowerHex c

def idsIn : List Char → List String
  | [] => []
  | c :: r =>
    if startsWithId (c :: r) then String.ofList ((c :: r).take 36) :: idsIn ((c :: r).drop 36)
    else idsIn r
termination_by cs => cs.length
decreasing_by all_goals simp only [List.length_drop, List.length_cons]; omega

def replaceIds (name : String → String) : List Char → List Char
  | [] => []
  | c :: r =>
    if startsWithId (c :: r) then (name (String.ofList ((c :: r).take 36))).toList ++ replaceIds name ((c :: r).drop 36)
    else c :: replaceIds name r
termination_by cs => cs.length
decreasing_by all_goals simp only [List.length_drop, List.length_cons]; omega

abbrev IdPlaces := List String → Option IdUse

mutual
/-- The texts of a value under the fields `path`, each with the kind of id its
place holds, field names included, object fields taken in order of their names. -/
def textsOf (places : IdPlaces) (path : List String) : JsonValue → List (Option IdUse × String)
  | .str s => [(places path, s)]
  | .arr items => textsOfItems places path items
  | .obj fields => ((textsOfFields places path fields).mergeSort fun a b => a.1 ≤ b.1).flatMap (·.2)
  | _ => []

def textsOfItems (places : IdPlaces) (path : List String) : List JsonValue → List (Option IdUse × String)
  | [] => []
  | v :: vs => textsOf places path v ++ textsOfItems places path vs

/-- The texts of fields, each with its field's name: the name, which holds no
kind of id, then the texts of the value. -/
def textsOfFields (places : IdPlaces) (path : List String) :
    List (String × JsonValue) → List (String × List (Option IdUse × String))
  | [] => []
  | (k, v) :: fs => (k, (none, k) :: textsOf places (k :: path) v) :: textsOfFields places path fs
end

mutual
def mapTexts (places : IdPlaces) (f : Option IdUse → String → String) (path : List String) :
    JsonValue → JsonValue
  | .str s => .str (f (places path) s)
  | .arr items => .arr (mapItems places f path items)
  | .obj fields => .obj (mapFields places f path fields)
  | v => v

def mapItems (places : IdPlaces) (f : Option IdUse → String → String) (path : List String) :
    List JsonValue → List JsonValue
  | [] => []
  | v :: vs => mapTexts places f path v :: mapItems places f path vs

def mapFields (places : IdPlaces) (f : Option IdUse → String → String) (path : List String) :
    List (String × JsonValue) → List (String × JsonValue)
  | [] => []
  | (k, v) :: fs => (f none k, mapTexts places f (k :: path) v) :: mapFields places f path fs
end

/-- The aliases given so far: of the ids that stand where a task's id does, of
those that stand where a delete request's id does, and of every other id. -/
structure Aliases where
  tasks : List (String × String) := []
  requests : List (String × String) := []
  others : List (String × String) := []
deriving Inhabited

def isId (t : String) : Bool := t.length = idShape.length && startsWithId t.toList

def Aliases.ofKind (a : Aliases) : IdUse → List (String × String)
  | .task => a.tasks
  | .request => a.requests

def Aliases.noteOther (a : Aliases) (id : String) : Aliases :=
  if (a.others.lookup id).isSome then a
  else { a with others := a.others ++ [(id, "id-" ++ toString (a.others.length + 1))] }

/-- Gives the ids of a text aliases: the text itself, when it is an id and
stands where an id of a kind does, else every id in it. -/
def Aliases.note (a : Aliases) : Option IdUse × String → Aliases
  | (some .task, t) =>
    if !isId t then (idsIn t.toList).foldl Aliases.noteOther a
    else if (a.tasks.lookup t).isSome then a
    else { a with tasks := a.tasks ++ [(t, "task-" ++ toString (a.tasks.length + 1))] }
  | (some .request, t) =>
    if !isId t then (idsIn t.toList).foldl Aliases.noteOther a
    else if (a.requests.lookup t).isSome then a
    else { a with requests := a.requests ++ [(t, "req-" ++ toString (a.requests.length + 1))] }
  | (none, t) => (idsIn t.toList).foldl Aliases.noteOther a

def Aliases.aliased (a : Aliases) (k : Option IdUse) (t : String) : String :=
  match k.bind fun k => (a.ofKind k).lookup t with
  | some name => name
  | none => String.ofList (replaceIds (fun id => (a.others.lookup id).getD id) t.toList)

def Aliases.resolve (a : Aliases) (name : String) : String :=
  (((a.tasks ++ a.requests ++ a.others).find? (·.2 == name)).map (·.1)).getD name

/-- A reply with its ids under aliases, where `places` tells which kind of id
stands where, and the aliases after it. -/
def Aliases.apply (places : IdPlaces) (a : Aliases) (v : JsonValue) : JsonValue × Aliases :=
  let a := (textsOf places [] v).foldl Aliases.note a
  (mapTexts places a.aliased [] v, a)

end MediaTimeline.Rpc
