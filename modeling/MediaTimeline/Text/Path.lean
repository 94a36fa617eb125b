/-! Slash-separated paths, cleaned lexically: empty and `.` elements are dropped, and `..` removes
the element before it, or stays in a relative path and disappears at the root of an absolute one. -/

namespace MediaTimeline.Text

def cleanElements (rooted : Bool) : List String → List String → List String
  | kept, [] => kept
  | kept, e :: rest =>
    if e.isEmpty || e = "." then cleanElements rooted kept rest
    else if e = ".." then
      match kept with
      | k :: ks => if k = ".." then cleanElements rooted (e :: kept) rest else cleanElements rooted ks rest
      | [] => if rooted then cleanElements rooted [] rest else cleanElements rooted [e] rest
    else cleanElements rooted (e :: kept) rest

def cleanPath (p : String) : String :=
  if p.isEmpty then "."
  else
    let rooted := p.startsWith "/"
    let body := String.intercalate "/" (cleanElements rooted [] (p.splitOn "/")).reverse
    let full := if rooted then "/" ++ body else body
    if full.isEmpty then "." else full

def joinPath (parts : List String) : String :=
  match parts.filter (!·.isEmpty) with
  | [] => ""
  | ps => cleanPath (String.intercalate "/" ps)

/-- A path a file system of relative names accepts: `.`, or non-empty elements
that are neither `.` nor `..`, without a leading or trailing slash. -/
def isValidPath (p : String) : Bool :=
  p = "." || (p.splitOn "/").all fun e => !e.isEmpty && e != "." && e != ".."

end MediaTimeline.Text
