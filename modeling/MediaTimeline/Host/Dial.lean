import MediaTimeline.Host.Address
import MediaTimeline.Text.IpAddress

/-! Reaching other machines from the host. -/

namespace MediaTimeline

def isIPAddress (s : String) : Bool :=
  match Text.readIpAddress s with
  | .ok _ => true
  | .error _ => false

def isIPLiteral (s : String) : Bool := isIPAddress s && !s.contains '%'

def addressProblem (address why : String) : String := "address " ++ address ++ ": " ++ why

def splitHostPort (address : String) : Except String (String × String) :=
  let cs := address.toList
  match cs.reverse.findIdx? (· = ':') with
  | none => .error (addressProblem address "missing port in address")
  | some fromEnd =>
    let i := cs.length - 1 - fromEnd
    let port := String.ofList (cs.drop (i + 1))
    let checked (host : String) (j k : Nat) : Except String (String × String) :=
      if (cs.drop j).contains '[' then .error (addressProblem address "unexpected '[' in address")
      else if (cs.drop k).contains ']' then .error (addressProblem address "unexpected ']' in address")
      else .ok (host, port)
    if cs.head? = some '[' then
      match cs.findIdx? (· = ']') with
      | none => .error (addressProblem address "missing ']' in address")
      | some e =>
        if e + 1 = cs.length then .error (addressProblem address "missing port in address")
        else if e + 1 = i then checked (String.ofList ((cs.take e).drop 1)) 1 (e + 1)
        else if cs.getD (e + 1) ' ' = ':' then .error (addressProblem address "too many colons in address")
        else .error (addressProblem address "missing port in address")
    else
      let host := String.ofList (cs.take i)
      if host.contains ':' then .error (addressProblem address "too many colons in address")
      else checked host 0 0

def joinHostPortText (host port : String) : String :=
  if host.contains ':' then "[" ++ host ++ "]:" ++ port else host ++ ":" ++ port

/-- Where a scan of a domain name stands: the byte before, whether a letter,
hyphen or underscore has been seen, the length of the label so far, and whether
the name is still well formed. -/
structure NameScan where
  last : UInt8 := 0x2E
  nonNumeric : Bool := false
  labelLength : Nat := 0
  wellFormed : Bool := true

def isLetterByte (c : UInt8) : Bool := (0x61 ≤ c && c ≤ 0x7A) || (0x41 ≤ c && c ≤ 0x5A)

def NameScan.step (st : NameScan) (c : UInt8) : NameScan :=
  let broken : NameScan := { st with wellFormed := false }
  if !st.wellFormed then st
  else if isLetterByte c || c = 0x5F then { st with last := c, nonNumeric := true, labelLength := st.labelLength + 1 }
  else if 0x30 ≤ c && c ≤ 0x39 then { st with last := c, labelLength := st.labelLength + 1 }
  else if c = 0x2D then
    if st.last = 0x2E then broken
    else { st with last := c, nonNumeric := true, labelLength := st.labelLength + 1 }
  else if c = 0x2E then
    if st.last = 0x2E || st.last = 0x2D || st.labelLength > 63 then broken
    else { st with last := c, labelLength := 0 }
  else broken

/-- Whether a text is a domain name that can be asked about: the root `.`, or
labels of ASCII letters, digits, hyphens and underscores between single dots,
not all digits, with no label over 63 bytes, none starting or ending with a
hyphen, and at most 253 bytes in all (254 with a final dot). -/
def isDomainName (s : String) : Bool :=
  let bs := s.toUTF8.toList
  let n := bs.length
  if s = "." then true
  else if n = 0 || n > 254 || (n = 254 && bs.getLast? != some 0x2E) then false
  else
    let st := bs.foldl NameScan.step {}
    st.wellFormed && st.last != 0x2D && st.labelLength ≤ 63 && st.nonNumeric

def isLocalName (name : String) : Bool :=
  name.toLower = "localhost" || name.toLower = "localhost."

/-- The addresses a host name stands for on the host, or why it stands for none.
An IP address stands for itself and `localhost` for the loopback addresses. A
text that is no domain name is unknown at once; any other name goes to the last
name server, which cannot be reached. -/
def Host.resolve (h : Host) (name : String) : Except String (List String) :=
  let bare := if name.startsWith "[" && name.endsWith "]" then String.ofList ((name.toList.drop 1).dropLast) else name
  if isIPAddress bare then .ok [bare]
  else if isLocalName name then .ok ["127.0.0.1", "::1"]
  else if !isDomainName name then .error ("lookup " ++ name ++ ": no such host")
  else
    let server := h.nameServers.getLastD "127.0.0.1:53"
    .error ("lookup " ++ name ++ " on " ++ server ++ ": dial udp " ++ server ++ ": connect: network is unreachable")

/-- The name servers a resolver configuration names: the address of each
`nameserver` line that gives an IP address, at most three, on port 53, or the
loopback addresses when it names none. Lines starting with `#` or `;` are
comments. -/
def nameServersOf (conf : String) : List String :=
  let named := (conf.splitOn "\n").filterMap fun line =>
    let words := (line.map fun c => if c = '\t' || c = '\r' then ' ' else c).splitOn " "
    match words.filter (!·.isEmpty) with
    | "nameserver" :: address :: _ => if isIPAddress address then some (joinHostPortText address "53") else none
    | _ => none
  match named.take 3 with
  | [] => ["127.0.0.1:53", "[::1]:53"]
  | servers => servers

def isIPNetwork (network : String) : Bool :=
  ["tcp", "tcp4", "tcp6", "udp", "udp4", "udp6"].contains network

def isUnixNetwork (network : String) : Bool :=
  ["unix", "unixgram", "unixpacket"].contains network

def Host.connectFailure (h : Host) (network address : String) : String :=
  if isUnixNetwork network then "dial " ++ network ++ " " ++ address ++ ": connect: no such file or directory"
  else if !isIPNetwork network then "dial " ++ network ++ ": unknown network " ++ network
  else match splitHostPort address with
    | .error e => "dial " ++ network ++ ": " ++ e
    | .ok (host, port) =>
      if host.isEmpty then "dial " ++ network ++ " :" ++ port ++ ": connect: network is unreachable"
      else match h.resolve host with
        | .ok (ip :: _) =>
          "dial " ++ network ++ " " ++ joinHostPortText ip port ++ ": connect: network is unreachable"
        | .ok [] => "dial " ++ network ++ ": lookup " ++ host ++ ": no such host"
        | .error e => "dial " ++ network ++ ": " ++ e

end MediaTimeline
