import MediaTimeline.Text.Quoted

/-! Reading IP addresses written out as text. -/

namespace MediaTimeline.Text

/-- The two families of IP address. -/
inductive AddrFamily where
  | v4
  | v6
deriving DecidableEq

/-- Why a text is no IP address: the whole text, the reason, and the text
from the fault on when the fault lies at a place. -/
structure AddrError where
  input : String
  reason : String
  rest : List Char := []
deriving DecidableEq

def AddrError.message (e : AddrError) : String :=
  "ParseAddr(" ++ quote e.input ++ "): " ++ e.reason ++
    (if e.rest.isEmpty then "" else " (at " ++ quote (String.ofList e.rest) ++ ")")

def ipv4Fields (input : String) (val digits fields : Nat) (prevDot atStart : Bool) :
    List Char → Except AddrError Unit
  | [] =>
    if prevDot && !atStart then .error ⟨input, "IPv4 field must have at least one digit", ['.']⟩
    else if fields < 3 then .error ⟨input, "IPv4 address too short", []⟩
    else .ok ()
  | c :: r =>
    if c.isDigit then
      if digits = 1 && val = 0 then .error ⟨input, "IPv4 field has octet with leading zero", []⟩
      else
        let v := val * 10 + (c.toNat - '0'.toNat)
        if 255 < v then .error ⟨input, "IPv4 field has value >255", []⟩
        else ipv4Fields input v (digits + 1) fields false false r
    else if c = '.' then
      if atStart || prevDot || r.isEmpty then .error ⟨input, "IPv4 field must have at least one digit", c :: r⟩
      else if fields = 3 then .error ⟨input, "IPv4 address too long", []⟩
      else ipv4Fields input 0 0 (fields + 1) true false r
    else .error ⟨input, "unexpected character", c :: r⟩

def isHexChar (c : Char) : Bool := c.isDigit || ('a' ≤ c.toLower && c.toLower ≤ 'f')

/-- Reads the groups of an IPv6 address from `s` on, with `filled` bytes of the
address read and the byte where `::` stands, if it was seen; answers the bytes
filled, where `::` stands, and what is left. Each round reads a group, so eight
rounds are enough. -/
def ipv6Groups (input : String) : Nat → Nat → Option Nat → List Char →
    Except AddrError (Nat × Option Nat × List Char)
  | 0, filled, gap, s => .ok (filled, gap, s)
  | fuel + 1, filled, gap, s =>
    if 16 ≤ filled then .ok (filled, gap, s)
    else
      let n := (s.takeWhile isHexChar).length
      if 5 ≤ n then .error ⟨input, "each group must have 4 or less digits", s⟩
      else if n = 0 then .error ⟨input, "each colon-separated field must have at least one digit", s⟩
      else
        match s.drop n with
        | '.' :: _ =>
          if gap.isNone && filled ≠ 12 then
            .error ⟨input, "embedded IPv4 address must replace the final 2 fields of the address", s⟩
          else if 16 < filled + 4 then
            .error ⟨input, "too many hex fields to fit an embedded IPv4 at the end of the address", s⟩
          else (ipv4Fields input 0 0 0 false true s).map fun _ => (filled + 4, gap, [])
        | [] => .ok (filled + 2, gap, [])
        | c :: r =>
          if c ≠ ':' then .error ⟨input, "unexpected character, want colon", c :: r⟩
          else match r with
            | [] => .error ⟨input, "colon must be followed by more characters", [c]⟩
            | ':' :: r' =>
              if gap.isSome then .error ⟨input, "multiple :: in address", ':' :: r'⟩
              else if r'.isEmpty then .ok (filled + 2, some (filled + 2), [])
              else ipv6Groups input fuel (filled + 2) (some (filled + 2)) r'
            | r => ipv6Groups input fuel (filled + 2) gap r

def readIPv6 (input : String) : Except AddrError Unit :=
  let cs := input.toList
  let addr := cs.takeWhile (· ≠ '%')
  let zone := (cs.dropWhile (· ≠ '%')).drop 1
  if cs.contains '%' && zone.isEmpty then .error ⟨input, "zone must be a non-empty string", []⟩
  else
    let (gap, s) := match addr with
      | ':' :: ':' :: r => (some 0, r)
      | r => (none, r)
    if gap.isSome && s.isEmpty then .ok ()
    else do
      let (filled, gap, rest) ← ipv6Groups input 9 0 gap s
      if !rest.isEmpty then throw ⟨input, "trailing garbage after address", rest⟩
      if filled < 16 then
        if gap.isNone then throw ⟨input, "address string too short", []⟩
      else if gap.isSome then throw ⟨input, "the :: must expand to at least one field of zeros", []⟩

def readIpAddress (s : String) : Except AddrError AddrFamily :=
  match s.toList.find? (fun c => c = '.' || c = ':' || c = '%') with
  | some '.' => (ipv4Fields s 0 0 0 false true s.toList).map fun _ => .v4
  | some ':' => (readIPv6 s).map fun _ => .v6
  | some _ => .error ⟨s, "missing IPv6 address", []⟩
  | none => .error ⟨s, "unable to parse IP", []⟩

end MediaTimeline.Text
