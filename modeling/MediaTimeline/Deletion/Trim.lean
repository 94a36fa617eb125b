import MediaTimeline.Time.Range

/-! Trimming a batch at its ends. -/

namespace MediaTimeline

def trimEnds {α : Type} (r : TimeRange) (rangeOf : α → TimeRange) (items : List α) : List α :=
  let items :=
    match items.getLast? with
    | some last => if items.length > 1 && !r.contains (rangeOf last) then items.dropLast else items
    | none => items
  match items with
  | first :: rest => if r.contains (rangeOf first) then items else rest
  | [] => []

end MediaTimeline
