import MediaTimeline.Time.Range
import MediaTimeline.Time.Instant

/-! Delete requests: a removal of a flow's segments that is carried out in steps. -/

namespace MediaTimeline

/-- How far a delete request has come. -/
inductive RequestStatus where
  | created
  | started
  | done
  | failed
  | other (text : String)
deriving DecidableEq, Inhabited

namespace RequestStatus

def text : RequestStatus → String
  | .created => "created"
  | .started => "started"
  | .done => "done"
  | .failed => "error"
  | .other t => t

/-- The status a text names; a text that names none of the four is kept as it is. -/
def ofText : String → RequestStatus
  | "created" => .created
  | "started" => .started
  | "done" => .done
  | "error" => .failed
  | t => .other t

end RequestStatus

/-- The failure a request ended with: the kind of its innermost cause and its message. -/
structure DeleteFailure where
  kind : String
  summary : String
deriving DecidableEq, Inhabited

/-- A request to delete part of a flow. -/
structure DeleteRequest where
  id : String
  flow : String
  deleteFlow : Bool := false
  toDelete : TimeRange
  remaining : TimeRange
  status : RequestStatus := .created
  failure : Option DeleteFailure := none
  createdBy : String := ""
  created : Instant := .zero
  updated : Instant := .zero
deriving DecidableEq, Inhabited

def DeleteRequest.terminal (r : DeleteRequest) : Bool :=
  r.status == .done || r.status == .failed

end MediaTimeline
