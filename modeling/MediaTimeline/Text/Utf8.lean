/-! UTF-8 bytes read leniently. -/

namespace MediaTimeline.Text

def replacementChar : Char := '�'

def isContinuation (b : UInt8) : Bool := 0x80 ≤ b && b ≤ 0xBF

def payload (b : UInt8) : Nat := (b &&& 0x3F).toNat

/-- The character that the non-ASCII byte `b0`, followed by `r`, starts, and the
number of bytes it takes. -/
def leadChar (b0 : UInt8) (r : List UInt8) : Char × Nat :=
  match r with
  | [] => (replacementChar, 1)
  | b1 :: r1 =>
    if 0xC2 ≤ b0 && b0 ≤ 0xDF then
      if isContinuation b1 then (Char.ofNat ((b0 &&& 0x1F).toNat * 64 + payload b1), 2)
      else (replacementChar, 1)
    else if 0xE0 ≤ b0 && b0 ≤ 0xEF then
      let lo : UInt8 := if b0 = 0xE0 then 0xA0 else 0x80
      let hi : UInt8 := if b0 = 0xED then 0x9F else 0xBF
      match r1 with
      | b2 :: _ =>
        if lo ≤ b1 && b1 ≤ hi && isContinuation b2 then
          (Char.ofNat ((b0 &&& 0x0F).toNat * 4096 + payload b1 * 64 + payload b2), 3)
        else (replacementChar, 1)
      | [] => (replacementChar, 1)
    else if 0xF0 ≤ b0 && b0 ≤ 0xF4 then
      let lo : UInt8 := if b0 = 0xF0 then 0x90 else 0x80
      let hi : UInt8 := if b0 = 0xF4 then 0x8F else 0xBF
      match r1 with
      | b2 :: b3 :: _ =>
        if lo ≤ b1 && b1 ≤ hi && isContinuation b2 && isContinuation b3 then
          (Char.ofNat ((b0 &&& 0x07).toNat * 262144 + payload b1 * 4096 + payload b2 * 64 +
            payload b3), 4)
        else (replacementChar, 1)
      | _ => (replacementChar, 1)
    else (replacementChar, 1)

def decodeUtf8 (bs : List UInt8) : List Char :=
  match bs with
  | [] => []
  | b0 :: r =>
    if b0 < 0x80 then Char.ofNat b0.toNat :: decodeUtf8 r
    else (leadChar b0 r).1 :: decodeUtf8 (r.drop ((leadChar b0 r).2 - 1))
termination_by bs.length
decreasing_by
  all_goals simp only [List.length_cons, List.length_drop]
  all_goals omega

def utf8Pieces (bs : List UInt8) : List (Except UInt8 Char) :=
  match bs with
  | [] => []
  | b0 :: r =>
    if b0 < 0x80 then .ok (Char.ofNat b0.toNat) :: utf8Pieces r
    else if (leadChar b0 r).2 = 1 then .error b0 :: utf8Pieces r
    else .ok (leadChar b0 r).1 :: utf8Pieces (r.drop ((leadChar b0 r).2 - 1))
termination_by bs.length
decreasing_by
  all_goals simp only [List.length_cons, List.length_drop]
  all_goals omega

/-- The bytes of the first character of a byte sequence, or its first byte
when that starts no character. -/
def firstCharBytes : List UInt8 → List UInt8
  | [] => []
  | b0 :: r => if b0 < 0x80 then [b0] else b0 :: r.take ((leadChar b0 r).2 - 1)

def stringOfUtf8 (bs : List UInt8) : String := String.ofList (decodeUtf8 bs)

def utf8Bytes (s : String) : List UInt8 := s.toUTF8.toList

end MediaTimeline.Text
