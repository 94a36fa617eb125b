import MediaTimeline.Host

/-! Network addresses of the host. -/

namespace MediaTimeline

def joinHostPort (host : String) (port : Int) : String :=
  let p := toString port
  if host.startsWith "[" && host.endsWith "]" then host ++ ":" ++ p
  else if host.contains ':' then "[" ++ host ++ "]:" ++ p
  else host ++ ":" ++ p

/-- The first address of an interface that is up and of the wanted family;
loopback addresses never count, nor link-local IPv6 ones. -/
def firstAddress (interfaces : List NetInterface) (v4 : Bool) : Option String :=
  let usable (a : NetAddress) : Bool :=
    !a.loopback && (if v4 then a.v4 else !a.v4 && !a.linkLocal)
  ((interfaces.filter (·.up)).flatMap (·.addresses) |>.find? usable).map (·.text)

def Host.announcedAddress (h : Host) : String :=
  ((firstAddress h.interfaces true).orElse fun _ => firstAddress h.interfaces false).getD "localhost"

end MediaTimeline
