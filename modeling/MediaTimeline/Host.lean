import MediaTimeline.Cli.Version

/-! The machine the library runs on, as far as it looks at it: platform, home and working
directories, environment, network interfaces, readable files, randomness and name servers. -/

namespace MediaTimeline

/-- An address of a network interface. -/
structure NetAddress where
  text : String
  v4 : Bool
  loopback : Bool := false
  linkLocal : Bool := false
deriving Inhabited

/-- A network interface: whether it is up, and its addresses. -/
structure NetInterface where
  up : Bool
  addresses : List NetAddress
deriving Inhabited

/-- The machine. -/
structure Host where
  platform : Cli.Platform
  userHome : String
  workDir : String
  environment : List (String × String) := []
  interfaces : List NetInterface := []
  files : List (String × String) := []
  account : String := "root"
  accountHome : String := "/root"
  draw : Float := 0.5
  nameServers : List String := ["127.0.0.1:53", "[::1]:53"]
deriving Inhabited

def Host.variable (h : Host) (name : String) : String := (h.environment.lookup name).getD ""

def Host.dialFailure (address : String) : String :=
  "dial tcp " ++ address ++ ": connect: network is unreachable"

end MediaTimeline
