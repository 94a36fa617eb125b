/-! Connection pool settings of the SQL databases. -/

namespace MediaTimeline.Sql

/-- The pool settings for a database driver and connection string. -/
structure PoolSettings where
  dsn : String := ""
  driver : String
  maxOpen : Int := 25
  maxIdle : Int := 5
  lifetime : Int := 300
  idleTime : Int := 60
deriving Inhabited

def secondsToNanos (s : Int) : Int := s * 1000000000

end MediaTimeline.Sql
