import MediaTimeline.Text.Blank

/-! Certificates in PEM files, as a pool of trusted authorities takes them. -/

namespace MediaTimeline.Connect

def base64Value (c : Char) : Option Nat :=
  if 'A' ≤ c && c ≤ 'Z' then some (c.toNat - 'A'.toNat)
  else if 'a' ≤ c && c ≤ 'z' then some (c.toNat - 'a'.toNat + 26)
  else if '0' ≤ c && c ≤ '9' then some (c.toNat - '0'.toNat + 52)
  else if c = '+' then some 62
  else if c = '/' then some 63
  else none

def quartetBytes : List Nat → List UInt8
  | a :: b :: c :: d :: rest =>
    let n := ((a * 64 + b) * 64 + c) * 64 + d
    [n / 65536, n / 256, n].map (fun k => (k % 256).toUInt8) ++ quartetBytes rest
  | _ => []

/-- The bytes of padded standard base64; groups of four characters, the last
perhaps ending in one or two `=`. -/
def decodeBase64 (cs : List Char) : Option (List UInt8) :=
  let pad := (cs.reverse.takeWhile (· = '=')).length
  let body := cs.take (cs.length - pad)
  if cs.length % 4 ≠ 0 || pad > 2 then none
  else
    match body.mapM base64Value with
    | none => none
    | some vs =>
      let bytes := quartetBytes (vs ++ List.replicate pad 0)
      some (bytes.take (bytes.length - pad))

/-- A DER element at the start of the bytes: its tag, its content and the bytes after it. -/
def derElement : List UInt8 → Option (UInt8 × List UInt8 × List UInt8)
  | tag :: first :: rest =>
    let (len, body) :=
      if first < 0x80 then (some first.toNat, rest)
      else
        let n := (first &&& 0x7F).toNat
        if n = 0 || n > 3 || rest.length < n then (none, rest)
        else (some ((rest.take n).foldl (fun acc b => acc * 256 + b.toNat) 0), rest.drop n)
    match len with
    | some l => if body.length < l then none else some (tag, body.take l, body.drop l)
    | none => none
  | _ => none

def isCertificateShape (der : List UInt8) : Bool :=
  match derElement der with
  | some (0x30, content, []) =>
    match derElement content with
    | some (0x30, _, afterSigned) =>
      match derElement afterSigned with
      | some (0x30, _, afterAlgorithm) =>
        match derElement afterAlgorithm with
        | some (0x03, _, []) => true
        | _ => false
      | _ => false
    | _ => false
  | _ => false

/-- A block of a PEM file: its type, whether it has header lines, and its body lines. -/
structure PemBlock where
  kind : String
  headers : Bool
  body : List String

def beginKind? (line : String) : Option String :=
  if line.startsWith "-----BEGIN " && line.endsWith "-----" && line.length ≥ 16 then
    some (String.ofList ((line.toList.drop 11).take (line.length - 16)))
  else none

def pemBlocksFrom (current : Option PemBlock) : List String → List PemBlock
  | [] => []
  | line :: rest =>
    let line := Text.trimBlank line
    match current with
    | none =>
      match beginKind? line with
      | some k => pemBlocksFrom (some ⟨k, false, []⟩) rest
      | none => pemBlocksFrom none rest
    | some b =>
      if line = "-----END " ++ b.kind ++ "-----" then b :: pemBlocksFrom none rest
      else if b.body.isEmpty && line.contains ':' then pemBlocksFrom (some { b with headers := true }) rest
      else pemBlocksFrom (some { b with body := b.body ++ [line] }) rest

def pemBlocks (text : String) : List PemBlock := pemBlocksFrom none (text.splitOn "\n")

def PemBlock.addsCertificate (b : PemBlock) : Bool :=
  b.kind = "CERTIFICATE" && !b.headers &&
    match decodeBase64 ((String.join b.body).toList.filter fun c => c ≠ ' ' && c ≠ '\t' && c ≠ '\r') with
    | some der => isCertificateShape der
    | none => false

def addsCertificates (text : String) : Bool := (pemBlocks text).any PemBlock.addsCertificate

end MediaTimeline.Connect
