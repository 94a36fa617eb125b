import MediaTimeline.Json.Value
import MediaTimeline.Text.Blank
import MediaTimeline.Text.Quoted
import MediaTimeline.Text.Utf8

/-! Reading JSON text from bytes. -/

namespace MediaTimeline.Json

def maxDepth : Nat := 10000

/-- Why bytes are no JSON text. -/
inductive SyntaxError where
  | unexpectedEnd
  | invalidChar (lead : List UInt8) (context : String)
  | invalidEscape (sequence : List UInt8)
  | tooDeep
deriving DecidableEq

def SyntaxError.at (rest : List UInt8) (context : String) : SyntaxError :=
  .invalidChar (Text.firstCharBytes rest) context

/-- How an escape that escapes nothing is cited: between backticks, or quoted
when it holds a backtick, a blank, a character that is not printable or a byte
that is no character. -/
def escapeCitation (sequence : List UInt8) : String :=
  let tick := String.singleton '\x60'
  let plain := (Text.utf8Pieces sequence).all fun
    | .ok c => c != '\x60' && c != Text.replacementChar && !Text.isBlank c && Text.isPrintable c
    | .error _ => false
  if plain then tick ++ Text.stringOfUtf8 sequence ++ tick else Text.quoteBytes sequence

def SyntaxError.message : SyntaxError → String
  | .unexpectedEnd => "unexpected end of JSON input"
  | .invalidChar lead ctx => "invalid character " ++ Text.quoteLead lead ++ " " ++ ctx
  | .invalidEscape sq => "invalid escape sequence " ++ escapeCitation sq ++ " in string"
  | .tooDeep => "exceeded max depth"

def isBlankByte (b : UInt8) : Bool := b = 0x20 || b = 0x09 || b = 0x0A || b = 0x0D

def skipBlanks : List UInt8 → List UInt8
  | b :: r => if isBlankByte b then skipBlanks r else b :: r
  | [] => []

def isDigitByte (b : UInt8) : Bool := 0x30 ≤ b && b ≤ 0x39

def hexValue (b : UInt8) : Option Nat :=
  if isDigitByte b then some (b.toNat - 0x30)
  else if 0x61 ≤ b && b ≤ 0x66 then some (b.toNat - 0x61 + 10)
  else if 0x41 ≤ b && b ≤ 0x46 then some (b.toNat - 0x41 + 10)
  else none

def hex4 : List UInt8 → Option Nat
  | [a, b, c, d] => do
    let w ← hexValue a
    let x ← hexValue b
    let y ← hexValue c
    let z ← hexValue d
    pure (((w * 16 + x) * 16 + y) * 16 + z)
  | _ => none

def utf8OfCode (n : Nat) : List UInt8 := (String.singleton (Char.ofNat n)).toUTF8.toList

/-- The code point that a `\u` escape with value `hi` stands for, given the
bytes after it: a high surrogate followed by an escaped low one is a pair, any
other surrogate is U+FFFD. Returns the code point and the bytes it leaves. -/
def surrogatePair (hi : Nat) (r : List UInt8) : Nat × List UInt8 :=
  if 0xD800 ≤ hi && hi < 0xDC00 then
    match r with
    | 0x5C :: 0x75 :: rest =>
      match hex4 (rest.take 4) with
      | some lo =>
        if 0xDC00 ≤ lo && lo < 0xE000 then (0x10000 + (hi - 0xD800) * 1024 + (lo - 0xDC00), rest.drop 4)
        else (0xFFFD, r)
      | none => (0xFFFD, r)
    | _ => (0xFFFD, r)
  else if 0xDC00 ≤ hi && hi < 0xE000 then (0xFFFD, r)
  else (hi, r)

def shortEscape (e : UInt8) : Option UInt8 :=
  if e = 0x22 || e = 0x5C || e = 0x2F then some e
  else if e = 0x62 then some 0x08
  else if e = 0x66 then some 0x0C
  else if e = 0x6E then some 0x0A
  else if e = 0x72 then some 0x0D
  else if e = 0x74 then some 0x09
  else none

/-- Reads the rest of a string after its opening quote; `acc` holds the bytes
read so far, in reverse. A `\u` escape cut short by the end of the input is an
early end when what is left could still begin one. -/
def readString (acc : List UInt8) : List UInt8 → Except SyntaxError (String × List UInt8)
  | [] => .error .unexpectedEnd
  | 0x22 :: r => .ok (Text.stringOfUtf8 acc.reverse, r)
  | 0x5C :: r =>
    match r with
    | [] => .error .unexpectedEnd
    | e :: r' =>
      if e = 0x75 then
        if r'.length < 4 then
          if r'.all (fun b => (hexValue b).isSome) then .error .unexpectedEnd
          else .error (.invalidEscape (0x5C :: 0x75 :: r'))
        else
          match hex4 (r'.take 4) with
          | none => .error (.invalidEscape (0x5C :: 0x75 :: r'.take 4))
          | some hi =>
            let (code, rest) := surrogatePair hi (r'.drop 4)
            if _h : rest.length < r'.length then readString ((utf8OfCode code).reverse ++ acc) rest
            else .error .unexpectedEnd
      else
        match shortEscape e with
        | some b => readString (b :: acc) r'
        | none => .error (.invalidEscape [0x5C, e])
  | b :: r =>
    if b < 0x20 then .error (.at (b :: r) "in string")
    else readString (b :: acc) r
termination_by bs => bs.length

def readDigits : List UInt8 → Except SyntaxError (List UInt8 × List UInt8)
  | [] => .error .unexpectedEnd
  | b :: r =>
    if isDigitByte b then .ok (b :: r.takeWhile isDigitByte, r.dropWhile isDigitByte)
    else .error (.at (b :: r) "in numeric literal")

def readNumberBody (bs : List UInt8) : Except SyntaxError (List UInt8 × List UInt8) := do
  let (intPart, r) ← match bs with
    | 0x30 :: r => pure ([0x30], r)
    | _ => readDigits bs
  let (fracPart, r) ← match r with
    | 0x2E :: r' => do
      let (ds, r'') ← readDigits r'
      pure (0x2E :: ds, r'')
    | _ => pure ([], r)
  match r with
  | e :: r' =>
    if e = 0x65 || e = 0x45 then
      let (sign, r'') := match r' with
        | s :: t => if s = 0x2B || s = 0x2D then ([s], t) else ([], r')
        | [] => ([], r')
      let (ds, rest) ← readDigits r''
      pure (intPart ++ fracPart ++ e :: sign ++ ds, rest)
    else pure (intPart ++ fracPart, r)
  | [] => pure (intPart ++ fracPart, r)

def readWord (word : String) (expected : List UInt8) : List UInt8 → Except SyntaxError (List UInt8)
  | bs =>
    match expected, bs with
    | [], rest => .ok rest
    | _ :: _, [] => .error .unexpectedEnd
    | e :: es, b :: r =>
      if b = e then readWord word es r
      else .error (.at (b :: r) ("in literal " ++ word ++ " (expecting " ++
        Text.quoteRune (Char.ofNat e.toNat) ++ ")"))

mutual
def readValue : Nat → Nat → List UInt8 → Except SyntaxError (JsonValue × List UInt8)
  | 0, _, _ => .error .unexpectedEnd
  | fuel + 1, depth, bs =>
    match skipBlanks bs with
    | [] => .error .unexpectedEnd
    | b :: r =>
      if b = 0x7B then
        if depth ≥ maxDepth then .error .tooDeep else readObject fuel (depth + 1) r
      else if b = 0x5B then
        if depth ≥ maxDepth then .error .tooDeep else readArray fuel (depth + 1) r
      else if b = 0x22 then (readString [] r).map (fun (s, rest) => (.str s, rest))
      else if b = 0x2D then
        (readNumberBody r).map (fun (lit, rest) => (.num (String.ofList ('-' :: lit.map (Char.ofNat ·.toNat))), rest))
      else if isDigitByte b then
        (readNumberBody (b :: r)).map (fun (lit, rest) => (.num (String.ofList (lit.map (Char.ofNat ·.toNat))), rest))
      else if b = 0x74 then (readWord "true" [0x72, 0x75, 0x65] r).map (.bool true, ·)
      else if b = 0x66 then (readWord "false" [0x61, 0x6C, 0x73, 0x65] r).map (.bool false, ·)
      else if b = 0x6E then (readWord "null" [0x75, 0x6C, 0x6C] r).map (.null, ·)
      else .error (.at (b :: r) "looking for beginning of value")

def readArray : Nat → Nat → List UInt8 → Except SyntaxError (JsonValue × List UInt8)
  | 0, _, _ => .error .unexpectedEnd
  | fuel + 1, depth, bs =>
    match skipBlanks bs with
    | 0x5D :: r => .ok (.arr [], r)
    | _ => readItems fuel depth [] bs

/-- Reads array elements and the separators after them; `acc` holds the
elements read so far, in reverse. -/
def readItems : Nat → Nat → List JsonValue → List UInt8 → Except SyntaxError (JsonValue × List UInt8)
  | 0, _, _, _ => .error .unexpectedEnd
  | fuel + 1, depth, acc, bs => do
    let (v, r) ← readValue fuel depth bs
    match skipBlanks r with
    | [] => .error .unexpectedEnd
    | b :: r' =>
      if b = 0x2C then readItems fuel depth (v :: acc) r'
      else if b = 0x5D then .ok (.arr (v :: acc).reverse, r')
      else .error (.at (b :: r') "after array element")

def readObject : Nat → Nat → List UInt8 → Except SyntaxError (JsonValue × List UInt8)
  | 0, _, _ => .error .unexpectedEnd
  | fuel + 1, depth, bs =>
    match skipBlanks bs with
    | 0x7D :: r => .ok (.obj [], r)
    | _ => readFields fuel depth [] bs

def readFields : Nat → Nat → List (String × JsonValue) → List UInt8 →
    Except SyntaxError (JsonValue × List UInt8)
  | 0, _, _, _ => .error .unexpectedEnd
  | fuel + 1, depth, acc, bs =>
    match skipBlanks bs with
    | [] => .error .unexpectedEnd
    | b :: r =>
      if b != 0x22 then .error (.at (b :: r) "looking for beginning of object key string")
      else do
        let (k, r) ← readString [] r
        match skipBlanks r with
        | [] => .error .unexpectedEnd
        | c :: r =>
          if c != 0x3A then .error (.at (c :: r) "after object key")
          else do
            let (v, r) ← readValue fuel depth r
            match skipBlanks r with
            | [] => .error .unexpectedEnd
            | d :: r =>
              if d = 0x2C then readFields fuel depth ((k, v) :: acc) r
              else if d = 0x7D then .ok (.obj ((k, v) :: acc).reverse, r)
              else .error (.at (d :: r) "after object key:value pair")
end

def readJson (bs : List UInt8) : Except SyntaxError JsonValue := do
  let (v, r) ← readValue (4 * bs.length + 4) 0 bs
  match skipBlanks r with
  | [] => pure v
  | b :: r => throw (.at (b :: r) "after top-level value")

end MediaTimeline.Json
