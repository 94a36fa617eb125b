import MediaTimeline.Store.Basic

/-! Range queries over a flow's segments. -/

namespace MediaTimeline

/-- A query for a page of a flow's segments. -/
structure SegmentQuery where
  flow : String
  object : String := ""
  endMin : Option Int := none
  endMax : Option Int := none
  startMax : Option Int := none
  reverse : Bool := false
  limit : Int := 0
  after : Option SegmentKey := none
deriving DecidableEq, Inhabited

/-- A page of segments and, when more are left, the key to continue from. -/
structure SegmentPage where
  segments : List Segment := []
  lastKey : Option SegmentKey := none
deriving Inhabited

namespace SegmentQuery

def selects (q : SegmentQuery) (s : Segment) : Bool :=
  s.flow == q.flow && (q.object.isEmpty || s.object == q.object) &&
    (q.endMin.all (· ≤ s.stop)) && (q.endMax.all (s.stop ≤ ·)) &&
    (q.startMax.all (s.start ≤ ·))

def leaves (q : SegmentQuery) (s : Segment) : Bool :=
  s.flow != q.flow || (!q.object.isEmpty && s.object != q.object) ||
    if q.reverse then q.endMin.any (s.stop < ·) else q.endMax.any (· < s.stop)

def pageLimit (q : SegmentQuery) : Int := if q.limit ≤ 0 then int64Max else q.limit

/-- The end the scan starts from: the end bound in scan direction, moved one past the exclusive
start key; none when that key is the last 64-bit end in scan direction. -/
def startEnd (q : SegmentQuery) : Option Int :=
  if q.reverse then
    let hi := q.endMax.getD int64Max
    match q.after with
    | none => some hi
    | some k => if k.stop = int64Min then none else some (min hi (k.stop - 1))
  else
    let lo := q.endMin.getD int64Min
    match q.after with
    | none => some lo
    | some k => if k.stop = int64Max then none else some (max lo (k.stop + 1))

end SegmentQuery

namespace Store

def scanFrom (st : Store) (q : SegmentQuery) (e : Int) : List Segment :=
  if q.object.isEmpty then
    if q.reverse then descend Segment.key SegmentKey.before ⟨q.flow, e⟩ st.segments
    else ascend Segment.key SegmentKey.before ⟨q.flow, e⟩ st.segments
  else
    if q.reverse then descend Segment.objectKey ObjectKey.before ⟨q.object, ⟨q.flow, e⟩⟩ st.byObject
    else ascend Segment.objectKey ObjectKey.before ⟨q.object, ⟨q.flow, e⟩⟩ st.byObject

def visit (q : SegmentQuery) : List Segment → List Segment → List Segment
  | matched, [] => matched
  | matched, s :: rest =>
    if q.leaves s then matched
    else
      let matched := if q.selects s then matched ++ [s] else matched
      if (matched.length : Int) ≤ q.pageLimit then visit q matched rest else matched

def query (st : Store) (q : SegmentQuery) : SegmentPage :=
  match q.startEnd with
  | none => {}
  | some e =>
    let matched := visit q [] (st.scanFrom q e)
    if q.pageLimit < matched.length then
      let page := matched.take q.pageLimit.toNat
      { segments := page, lastKey := page.getLast?.map Segment.key }
    else { segments := matched }

end Store

end MediaTimeline
