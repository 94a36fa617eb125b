import MediaTimeline.Time.Instant

/-! Flows: the streams of media that segments belong to. -/

namespace MediaTimeline

/-- A flow and its bookkeeping times. -/
structure Flow where
  id : String
  source : String := ""
  label : String := ""
  description : String := ""
  format : String := ""
  codec : String := ""
  container : String := ""
  readOnly : Bool := false
  segmentsUpdated : Option Instant := none
  created : Instant := .zero
  updated : Instant := .zero
deriving DecidableEq, Inhabited

end MediaTimeline
