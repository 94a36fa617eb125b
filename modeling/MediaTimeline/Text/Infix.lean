/-! Finding one text inside another. -/

namespace MediaTimeline.Text

def containsChars (needle : List Char) : List Char → Bool
  | [] => needle.isEmpty
  | c :: rest => needle.isPrefixOf (c :: rest) || containsChars needle rest

def containsText (hay needle : String) : Bool :=
  containsChars needle.toList hay.toList

end MediaTimeline.Text
