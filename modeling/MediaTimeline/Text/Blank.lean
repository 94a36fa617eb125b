/-! Blank characters, the Unicode white space, and trimming them from both ends
of a text. -/

namespace MediaTimeline.Text

/-- The white space characters of Unicode: the ASCII tab, line feed, vertical
tab, form feed, carriage return and space, next line, the no-break spaces, the
spaces of typography and the line and paragraph separators. -/
def isBlank (c : Char) : Bool :=
  let n := c.toNat
  (0x09 ≤ n && n ≤ 0x0D) || n = 0x20 || n = 0x85 || n = 0xA0 || n = 0x1680 ||
    (0x2000 ≤ n && n ≤ 0x200A) || n = 0x2028 || n = 0x2029 || n = 0x202F ||
    n = 0x205F || n = 0x3000

def trimBlankList (cs : List Char) : List Char :=
  ((cs.dropWhile isBlank).reverse.dropWhile isBlank).reverse

def trimBlank (s : String) : String :=
  String.ofList (trimBlankList s.toList)

end MediaTimeline.Text
