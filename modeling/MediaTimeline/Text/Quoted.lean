import MediaTimeline.Text.Printable
import MediaTimeline.Text.Utf8

/-! Quoted text, the double-quoted form in which messages cite what they were given. -/

namespace MediaTimeline.Text

def hexPadded (width n : Nat) : List Char :=
  let ds := Nat.toDigits 16 n
  List.replicate (width - ds.length) '0' ++ ds

def escapeChar (c : Char) : List Char :=
  if c = '"' then ['\\', '"']
  else if c = '\\' then ['\\', '\\']
  else if isPrintable c then [c]
  else if c = '\x07' then ['\\', 'a']
  else if c = '\x08' then ['\\', 'b']
  else if c = '\x0c' then ['\\', 'f']
  else if c = '\n' then ['\\', 'n']
  else if c = '\r' then ['\\', 'r']
  else if c = '\t' then ['\\', 't']
  else if c = '\x0b' then ['\\', 'v']
  else if c.toNat < 0x20 || c.toNat = 0x7f then '\\' :: 'x' :: hexPadded 2 c.toNat
  else if c.toNat < 0x10000 then '\\' :: 'u' :: hexPadded 4 c.toNat
  else '\\' :: 'U' :: hexPadded 8 c.toNat

def quote (s : String) : String :=
  String.ofList ('"' :: (s.toList.flatMap escapeChar ++ ['"']))

/-- The quoted form of bytes: each well-formed character escaped as in quoted
text, and each byte that starts none written as two hex digits after a backslash
and an x. -/
def quoteBytes (bs : List UInt8) : String :=
  let piece : Except UInt8 Char → List Char
    | .ok c => escapeChar c
    | .error b => '\\' :: 'x' :: hexPadded 2 b.toNat
  String.ofList ('"' :: ((utf8Pieces bs).flatMap piece ++ ['"']))

def quoteRune (c : Char) : String :=
  let body := if c = '\'' then ['\\', '\''] else if c = '"' then ['"'] else escapeChar c
  String.ofList ('\'' :: body ++ ['\''])

def quoteLead : List UInt8 → String
  | [] => "''"
  | b0 :: r =>
    if b0 < 0x80 then quoteRune (Char.ofNat b0.toNat)
    else if (leadChar b0 r).2 = 1 then String.ofList ('\'' :: '\\' :: 'x' :: hexPadded 2 b0.toNat ++ ['\''])
    else quoteRune (leadChar b0 r).1

end MediaTimeline.Text
