import MediaTimeline.Segment
import MediaTimeline.Json.Decode

/-! Failures and their classes. -/

namespace MediaTimeline

/-- The classes of failure, in the order in which callers test for them. -/
inductive FaultClass where
  | overlap
  | validation
  | invalidRange
  | invalidStamp
  | overflow
  | unbounded
  | emptyRange
  | unboundedRange
  | segmentMissing
  | flowMissing
  | requestMissing
  | flowReadOnly
  | taskMissing
  | queueClosed
  | invalidPayload
  | noLoader
  | injected
  | other
deriving DecidableEq, Inhabited

def FaultClass.order : List FaultClass :=
  [.overlap, .validation, .invalidRange, .invalidStamp, .overflow, .unbounded, .emptyRange,
    .unboundedRange, .segmentMissing, .flowMissing, .requestMissing, .flowReadOnly, .taskMissing,
    .queueClosed, .invalidPayload, .noLoader, .injected, .other]

/-- Why a page token cannot be read. -/
inductive TokenProblem where
  | base64 (offset : Nat)
  | json (e : Json.DecodeError)
deriving DecidableEq

def TokenProblem.message : TokenProblem → String
  | .base64 n => "illegal base64 data at input byte " ++ toString n
  | .json e => e.message

/-- Requests that fail validation: each names a field and a reason. -/
inductive Violation where
  | flowIdRequired
  | objectIdRequired
  | idRequired
  | segmentRange (e : SegmentError)
  | limitNegative
  | pageUnreadable (e : TokenProblem)
  | pageWithoutFlow
  | pageOfOtherFlow
  | startOutOfRange (e : KeyError)
  | stopOutOfRange (e : KeyError)
  | noContainer
  | rangeNotBounded (e : Option KeyError)
  | rangeMalformed (e : TimeRange.ParseError)
deriving DecidableEq

namespace Violation

def field : Violation → String
  | .flowIdRequired => "flow_id"
  | .objectIdRequired => "object_id"
  | .idRequired => "id"
  | .segmentRange _ | .startOutOfRange _ | .stopOutOfRange _ | .rangeNotBounded _ | .rangeMalformed _ => "timerange"
  | .limitNegative => "limit"
  | .pageUnreadable _ | .pageWithoutFlow | .pageOfOtherFlow => "page"
  | .noContainer => "container"

def reason : Violation → String
  | .flowIdRequired | .objectIdRequired | .idRequired => "required"
  | .segmentRange _ => "segment timerange must be bounded and non-empty"
  | .limitNegative => "must not be negative"
  | .pageUnreadable _ => "malformed page token"
  | .pageWithoutFlow => "page token has no flow"
  | .pageOfOtherFlow => "page token belongs to a different flow"
  | .startOutOfRange _ => "start out of range"
  | .stopOutOfRange _ => "end out of range"
  | .noContainer => "flow has no container, segments cannot be added"
  | .rangeNotBounded _ => "must be bounded"
  | .rangeMalformed _ => "malformed"

def causeMessage : Violation → Option String
  | .segmentRange e => some e.message
  | .pageUnreadable e => some e.message
  | .startOutOfRange e | .stopOutOfRange e | .rangeNotBounded (some e) => some e.message
  | .rangeMalformed e => some e.message
  | _ => none

def message (v : Violation) : String :=
  v.field ++ ": " ++ v.reason ++ ((v.causeMessage.map (": " ++ ·)).getD "")

end Violation

def KeyError.classes : KeyError → List FaultClass
  | .unbounded => [.unbounded]
  | _ => [.overflow]

def SegmentError.classes : SegmentError → List FaultClass
  | .emptyRange => [.emptyRange]
  | .unboundedRange _ => [.unboundedRange]
  | .key e => e.classes

def Violation.classes : Violation → List FaultClass
  | .segmentRange e => .validation :: e.classes
  | .startOutOfRange e | .stopOutOfRange e | .rangeNotBounded (some e) => .validation :: e.classes
  | .rangeMalformed (.badStamp _ _) => [.validation, .invalidRange, .invalidStamp]
  | .rangeMalformed _ => [.validation, .invalidRange]
  | _ => [.validation]

/-- A record the store was asked for and does not hold. -/
inductive Missing where
  | segment
  | flow
  | request
  | task
deriving DecidableEq

def Missing.message : Missing → String
  | .segment => "segment not found"
  | .flow => "flow not found"
  | .request => "delete request not found"
  | .task => "task not found"

def Missing.faultClass : Missing → FaultClass
  | .segment => .segmentMissing
  | .flow => .flowMissing
  | .request => .requestMissing
  | .task => .taskMissing

/-- A failure of the library. -/
inductive Fault where
  | stamp (e : Stamp.ParseError)
  | range (e : TimeRange.ParseError)
  | key (e : KeyError)
  | segment (e : SegmentError)
  | invalid (v : Violation)
  | overlap (flow : String) (r existing : TimeRange)
  | missing (m : Missing)
  | readOnly (flow : String)
  | queueClosed
  | badPayload (detail : String) (cause : Option Fault)
  | noLoader
  | outage (what : String)
  | within (step : String) (cause : Fault)
  | rollbackFailed (problem : String) (cause : Fault)
  | joined (faults : List Fault)
  | plain (text : String)
  | crash (message : String)

namespace Fault

def message : Fault → String
  | .stamp e => e.message
  | .range e => e.message
  | .key e => e.message
  | .segment e => e.message
  | .invalid v => v.message
  | .overlap f r e =>
    "flow " ++ f ++ ": segment " ++ r.toText ++ " overlaps existing segment " ++ e.toText
  | .missing m => m.message
  | .readOnly f => "flow is read-only: " ++ f
  | .queueClosed => "task queue is closed"
  | .badPayload d none => "invalid task payload: " ++ d
  | .badPayload d (some c) => "invalid task payload: " ++ d ++ ": " ++ c.message
  | .noLoader => "cache: no loader configured"
  | .outage w => w ++ ": injected failure"
  | .within s c => s ++ ": " ++ c.message
  | .rollbackFailed p c => "rollback failed: " ++ p ++ " (original error: " ++ c.message ++ ")"
  | .joined fs => "\n".intercalate (fs.map message)
  | .plain t => t
  | .crash m => m

def classes : Fault → List FaultClass
  | .stamp _ => [.invalidStamp]
  | .range (.badStamp _ _) => [.invalidRange, .invalidStamp]
  | .range _ => [.invalidRange]
  | .key e => e.classes
  | .segment e => e.classes
  | .invalid v => v.classes
  | .overlap _ _ _ => [.overlap]
  | .missing m => [m.faultClass]
  | .readOnly _ => [.flowReadOnly]
  | .queueClosed => [.queueClosed]
  | .badPayload _ none => [.invalidPayload]
  | .badPayload _ (some c) => .invalidPayload :: c.classes
  | .noLoader => [.noLoader]
  | .outage _ => [.injected]
  | .within _ c | .rollbackFailed _ c => c.classes
  | .joined fs => (fs.map classes).flatten
  | .plain _ | .crash _ => [.other]

/-- The first class, in testing order, that the failure belongs to. -/
def primary (f : Fault) : FaultClass :=
  (FaultClass.order.find? (· ∈ f.classes)).getD .other

/-- The status a web client is answered with: 400 for a bad request, 404 for a
missing flow or delete request, 403 for a read-only flow, else 500. -/
def httpStatus (f : Fault) : Nat :=
  let cs := f.classes
  if cs.contains .overlap || cs.contains .validation then 400
  else if cs.contains .flowMissing || cs.contains .requestMissing then 404
  else if cs.contains .flowReadOnly then 403
  else 500

/-- The name of the innermost failure reached by following single causes: a
joined failure has no single cause, and a violation without a cause is itself
the innermost. -/
def innermostKind : Fault → String
  | .joined _ => "errors.joinError"
  | .within _ c | .rollbackFailed _ c => c.innermostKind
  | .invalid v => if v.causeMessage.isNone then "segments.ValidationError" else "errors.errorString"
  | .badPayload _ (some _) => "fmt.wrapErrors"
  | _ => "errors.errorString"

instance : Coe Stamp.ParseError Fault := ⟨stamp⟩
instance : Coe TimeRange.ParseError Fault := ⟨range⟩
instance : Coe KeyError Fault := ⟨key⟩
instance : Coe SegmentError Fault := ⟨segment⟩
instance : Coe Violation Fault := ⟨invalid⟩

end Fault

end MediaTimeline
