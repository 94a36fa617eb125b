/-! Unpadded base64 with the URL alphabet (`-` and `_` for 62 and 63). -/

namespace MediaTimeline.Text

def urlAlphabet : List Char :=
  "ABCDEFGHIJKLMNOPQRSTUVWXYZabcdefghijklmnopqrstuvwxyz0123456789-_".toList

def sextetChar (n : Nat) : Char := urlAlphabet.getD (n % 64) 'A'

def sextetValue (b : UInt8) : Option Nat :=
  if 0x41 ≤ b && b ≤ 0x5A then some (b.toNat - 0x41)
  else if 0x61 ≤ b && b ≤ 0x7A then some (b.toNat - 0x61 + 26)
  else if 0x30 ≤ b && b ≤ 0x39 then some (b.toNat - 0x30 + 52)
  else if b = 0x2D then some 62
  else if b = 0x5F then some 63
  else none

def encodeBase64Url : List UInt8 → List Char
  | a :: b :: c :: rest =>
    let n := a.toNat * 65536 + b.toNat * 256 + c.toNat
    sextetChar (n / 262144) :: sextetChar (n / 4096) :: sextetChar (n / 64) :: sextetChar n ::
      encodeBase64Url rest
  | [a, b] =>
    let n := a.toNat * 65536 + b.toNat * 256
    [sextetChar (n / 262144), sextetChar (n / 4096), sextetChar (n / 64)]
  | [a] =>
    let n := a.toNat * 65536
    [sextetChar (n / 262144), sextetChar (n / 4096)]
  | [] => []

def groupBytes (vs : List Nat) : List UInt8 :=
  let n := (vs ++ List.replicate (4 - vs.length) 0).foldl (fun acc v => acc * 64 + v) 0
  (([n / 65536, n / 256, n]).map (fun k => (k % 256).toUInt8)).take (vs.length - 1)

/-- Reads unpadded URL base64 from byte `pos` on, with `group` the values of the
current unfinished group; an error is the offset of the offending byte. -/
def decodeBase64UrlFrom (pos : Nat) (group : List Nat) : List UInt8 → Except Nat (List UInt8)
  | [] =>
    if group.length = 1 then .error (pos - 1)
    else .ok (if group.isEmpty then [] else groupBytes group)
  | b :: rest =>
    match sextetValue b with
    | some v =>
      if group.length = 3 then
        (decodeBase64UrlFrom (pos + 1) [] rest).map (groupBytes (group ++ [v]) ++ ·)
      else decodeBase64UrlFrom (pos + 1) (group ++ [v]) rest
    | none =>
      if b = 0x0A || b = 0x0D then decodeBase64UrlFrom (pos + 1) group rest
      else .error pos

def decodeBase64Url (bs : List UInt8) : Except Nat (List UInt8) :=
  decodeBase64UrlFrom 0 [] bs

end MediaTimeline.Text
