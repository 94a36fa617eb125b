import MediaTimeline.Host
import MediaTimeline.Text.Path

/-! Backends that hold media objects. -/

namespace MediaTimeline.Storage

/-- The settings of a backend. -/
structure BackendSettings where
  id : String := ""
  kind : String := ""
  endpoint : String := ""
  bucket : String := ""
  region : String := ""
  accessKey : String := ""
  secretKey : String := ""
  keyPrefix : String := ""
deriving Inhabited

/-- A backend and what it holds. -/
inductive Backend where
  | memory (objects : List (String × String))
  | s3 (bucket keyPrefix endpoint : String)
deriving Inhabited

/-- Why a backend call fails. -/
inductive BlobError where
  | notFound (key : String)
  | other (message : String)
deriving DecidableEq, Inhabited

def BlobError.message : BlobError → String
  | .notFound key => "media object not found: " ++ key
  | .other m => m

def Backend.create (c : BackendSettings) : Except String Backend :=
  match c.kind with
  | "memory" => .ok (.memory [])
  | "s3" => if c.bucket.isEmpty then .error "bucket required for S3 backend"
    else .ok (.s3 c.bucket c.keyPrefix c.endpoint)
  | t => .error ("unknown storage type: " ++ t)

def Backend.kind : Backend → String
  | .memory _ => "memory"
  | .s3 .. => "s3"

def objectKey (keyPrefix key : String) : String :=
  if keyPrefix.isEmpty then key else Text.joinPath [keyPrefix, key]

/-- How a call to the S3 server fails on a host without network. -/
def serverFailure (endpoint operation : String) : String :=
  "operation error S3: " ++ operation ++ ", " ++ Host.dialFailure endpoint

/-- Writes an object; the data may fail to be read. -/
def Backend.write (b : Backend) (key : String) (data : Except String String) : Except BlobError Backend :=
  match b, data with
  | .memory _, .error e => .error (.other e)
  | .memory objs, .ok d => .ok (.memory ((objs.filter (·.1 != key)) ++ [(key, d)]))
  | .s3 .., .error e => .error (.other ("read data: " ++ e))
  | .s3 _ _ ep, .ok _ => .error (.other ("put object: " ++ serverFailure ep "PutObject"))

def Backend.read (b : Backend) (key : String) : Except BlobError String :=
  match b with
  | .memory objs => match objs.lookup key with
    | some d => .ok d
    | none => .error (.notFound key)
  | .s3 _ _ ep => .error (.other ("get object: " ++ serverFailure ep "GetObject"))

def Backend.delete (b : Backend) (key : String) : Except BlobError Backend :=
  match b with
  | .memory objs => .ok (.memory (objs.filter (·.1 != key)))
  | .s3 _ _ ep => .error (.other ("delete object: " ++ serverFailure ep "DeleteObject"))

def Backend.holds (b : Backend) (key : String) : Except BlobError Bool :=
  match b with
  | .memory objs => .ok (objs.lookup key).isSome
  | .s3 _ _ ep => .error (.other ("head object: " ++ serverFailure ep "HeadObject"))

end MediaTimeline.Storage
