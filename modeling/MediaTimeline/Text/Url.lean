import MediaTimeline.Text.Quoted
import MediaTimeline.Text.Utf8

/-! Percent-escapes, as URLs and the texts that borrow their rules write bytes. -/

namespace MediaTimeline.Text

def hexDigitValue (b : UInt8) : Option Nat :=
  if 0x30 ≤ b && b ≤ 0x39 then some (b.toNat - 0x30)
  else if 0x41 ≤ b && b ≤ 0x46 then some (b.toNat - 0x41 + 10)
  else if 0x61 ≤ b && b ≤ 0x66 then some (b.toNat - 0x61 + 10)
  else none

def unescapeBytes (plusIsBlank : Bool) : List UInt8 → Except (List UInt8) (List UInt8)
  | [] => .ok []
  | b :: rest =>
    if b = 0x25 then
      match rest with
      | h :: l :: rest' =>
        match hexDigitValue h, hexDigitValue l with
        | some x, some y => (unescapeBytes plusIsBlank rest').map ((x * 16 + y).toUInt8 :: ·)
        | _, _ => .error [b, h, l]
      | short => .error (b :: short)
    else if b = 0x2B && plusIsBlank then (unescapeBytes plusIsBlank rest).map (0x20 :: ·)
    else (unescapeBytes plusIsBlank rest).map (b :: ·)

/-- The bytes that a query component (`+` a blank) or a path segment stands
for; the failure cites the bad escape byte for byte. -/
def unescapeToBytes (plusIsBlank : Bool) (s : String) : Except String (List UInt8) :=
  (unescapeBytes plusIsBlank (utf8Bytes s)).mapError fun bad => "invalid URL escape " ++ quoteBytes bad

def unescape (plusIsBlank : Bool) (s : String) : Except String String :=
  (unescapeToBytes plusIsBlank s).map stringOfUtf8

end MediaTimeline.Text
