import MediaTimeline.Fault
import MediaTimeline.Text.Base64

/-! Pages of segments and the tokens that continue them. -/

namespace MediaTimeline

namespace SegmentKey

def toDoc (k : SegmentKey) : JsonValue :=
  .obj [("flow_id", .str k.flow), ("timerange_end", .int k.stop)]

def toToken (k : SegmentKey) : String :=
  String.ofList (Text.encodeBase64Url (Text.utf8Bytes k.toDoc.render))

def docRules : List (Json.FieldRule SegmentKey) :=
  [⟨"flow_id", fun p v k => (Json.decodeText p v).map fun s => { k with flow := s.getD k.flow }⟩,
   ⟨"timerange_end", fun p v k =>
     (Json.decodeInt "int64" p v).map fun n => { k with stop := n.getD k.stop }⟩]

def ofToken (token : String) : Except Violation SegmentKey :=
  match Text.decodeBase64Url (Text.utf8Bytes token) with
  | .error n => .error (.pageUnreadable (.base64 n))
  | .ok bytes =>
    match Json.decodeRecordText "SegmentKey" "types.SegmentKey" docRules ⟨"", 0⟩ bytes with
    | .error e => .error (.pageUnreadable (.json e))
    | .ok k => if k.flow.isEmpty then .error .pageWithoutFlow else .ok k

end SegmentKey

def defaultPageLimit : Int := 30

def maxPageLimit : Int := 300

/-- A page size brought into `[1, 300]`: the default for none or less, the cap for more. -/
def clampLimit (limit : Int) : Int :=
  if limit ≤ 0 then defaultPageLimit else if maxPageLimit < limit then maxPageLimit else limit

/-- What a listing of a flow's segments asks for. -/
structure ListParams where
  range : Option TimeRange := none
  object : String := ""
  reverse : Bool := false
  page : String := ""
  limit : Int := 0
deriving Inhabited

/-- A request is valid when its limit is not negative and its token, if any, reads back. -/
def ListParams.validate (p : ListParams) : Except Violation Unit :=
  if p.limit < 0 then .error .limitNegative
  else if p.page.isEmpty then .ok ()
  else (SegmentKey.ofToken p.page).map fun _ => ()

end MediaTimeline
