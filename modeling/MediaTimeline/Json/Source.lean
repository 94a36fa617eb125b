import MediaTimeline.Json.Decode

/-! The source text of a value inside a JSON text. -/

namespace MediaTimeline.Json

def readSource (bs : List UInt8) : Except SyntaxError (List UInt8 × List UInt8) := do
  let bs := skipBlanks bs
  let (_, rest) ← readValue (4 * bs.length + 4) 0 bs
  pure (bs.take (bs.length - rest.length), rest)

/-- Reads object members after the opening brace and after each separator;
`acc` holds the members read so far, in reverse, and `fuel` bounds the steps. -/
def memberSourcesFrom : Nat → List (String × List UInt8) → List UInt8 →
    Option (List (String × List UInt8))
  | 0, _, _ => none
  | fuel + 1, acc, bs =>
    match skipBlanks bs with
    | 0x22 :: r => do
      let (k, r) ← (readString [] r).toOption
      match skipBlanks r with
      | 0x3A :: r => do
        let (v, r) ← (readSource r).toOption
        match skipBlanks r with
        | 0x2C :: r => memberSourcesFrom fuel ((k, v) :: acc) r
        | 0x7D :: _ => some ((k, v) :: acc).reverse
        | _ => none
      | _ => none
    | _ => none

def memberSources (bs : List UInt8) : Option (List (String × List UInt8)) :=
  match skipBlanks bs with
  | 0x7B :: r =>
    match skipBlanks r with
    | 0x7D :: _ => some []
    | _ => memberSourcesFrom (r.length + 1) [] r
  | _ => none

def itemSourcesFrom : Nat → List (List UInt8) → List UInt8 → Option (List (List UInt8))
  | 0, _, _ => none
  | fuel + 1, acc, bs => do
    let (v, r) ← (readSource bs).toOption
    match skipBlanks r with
    | 0x2C :: r => itemSourcesFrom fuel (v :: acc) r
    | 0x5D :: _ => some (v :: acc).reverse
    | _ => none

def itemSources (bs : List UInt8) : Option (List (List UInt8)) :=
  match skipBlanks bs with
  | 0x5B :: r =>
    match skipBlanks r with
    | 0x5D :: _ => some []
    | _ => itemSourcesFrom (r.length + 1) [] r
  | _ => none

def sourceAt : List PathStep → List UInt8 → Option (List UInt8)
  | [], bs => (readSource bs).toOption.map Prod.fst
  | .member name :: path, bs => do
    let ms ← memberSources bs
    let (_, v) ← ms.reverse.find? (·.1 = name)
    sourceAt path v
  | .index i :: path, bs => do
    let items ← itemSources bs
    sourceAt path (← items[i]?)

end MediaTimeline.Json
