import MediaTimeline.Text.Url
import MediaTimeline.Text.IpAddress

/-! URLs with a scheme and an authority: reading them into parts and writing them back. -/

namespace MediaTimeline.Text

/-- The parts of a URL, each with its own rules for escapes. -/
inductive UrlPart where
  | host
  | zone
  | path
  | userPassword
  | fragment
deriving DecidableEq

def isAlnumByte (c : UInt8) : Bool :=
  (0x61 ≤ c && c ≤ 0x7A) || (0x41 ≤ c && c ≤ 0x5A) || (0x30 ≤ c && c ≤ 0x39)

def byteIn (chars : String) (c : UInt8) : Bool := chars.toList.any fun d => d.toNat = c.toNat

def mustEscape (part : UrlPart) (c : UInt8) : Bool :=
  if isAlnumByte c then false
  else if (part = .host || part = .zone) && byteIn "!$&'()*+,;=:[]<>\"" c then false
  else if byteIn "-_.~" c then false
  else if byteIn "$&+,/:;=?@" c then
    match part with
    | .path => c = 0x3F
    | .userPassword => c = 0x40 || c = 0x2F || c = 0x3F || c = 0x3A
    | .fragment => false
    | _ => true
  else if part = .fragment && byteIn "!()*" c then false
  else true

def upperHexDigit (n : Nat) : Char := Char.ofNat (if n < 10 then 0x30 + n else 0x41 + n - 10)

def escapePart (part : UrlPart) (bs : List UInt8) : String :=
  String.ofList (bs.flatMap fun c =>
    if mustEscape part c then ['%', upperHexDigit (c.toNat / 16), upperHexDigit (c.toNat % 16)]
    else [Char.ofNat c.toNat])

/-- Whether a text as written is a valid escaping for a part: it holds only
bytes the part may hold, sub-delimiters, brackets and escapes. -/
def validEscaping (part : UrlPart) (s : String) : Bool :=
  (utf8Bytes s).all fun c => byteIn "!$&'()*+,;=:@[]%" c || !mustEscape part c

/-- Checks the escapes and characters of a host or zone as written, in order:
an escape needs two hex digits; in a host it may only spell a byte past ASCII
or a `%`, in a zone only a blank or a byte a host may hold; and an ASCII byte
that a host may not hold stands nowhere unescaped. -/
def checkHostBytes (part : UrlPart) : List UInt8 → Except String Unit
  | [] => .ok ()
  | 0x25 :: rest =>
    match rest with
    | h :: l :: rest' =>
      match hexDigitValue h, hexDigitValue l with
      | some x, some y =>
        let bad := .error ("invalid URL escape " ++ quoteBytes [0x25, h, l])
        let isPercent := x = 2 && y = 5
        if part = .host && x < 8 && !isPercent then bad
        else if part = .zone && !isPercent && x * 16 + y ≠ 0x20 && mustEscape .host (x * 16 + y).toUInt8 then bad
        else checkHostBytes part rest'
      | _, _ => .error ("invalid URL escape " ++ quoteBytes [0x25, h, l])
    | short => .error ("invalid URL escape " ++ quoteBytes (0x25 :: short))
  | c :: rest =>
    if c < 0x80 && mustEscape .host c then
      .error ("invalid character " ++ quoteBytes [c] ++ " in host name")
    else checkHostBytes part rest

def unescapeHostPart (part : UrlPart) (s : String) : Except String (List UInt8) := do
  checkHostBytes part (utf8Bytes s)
  unescapeToBytes false s

def isOptionalPort (p : String) : Bool :=
  p.isEmpty || (p.startsWith ":" && (p.toList.drop 1).all Char.isDigit)

def lastIndexOf (c : Char) (cs : List Char) : Option Nat :=
  (cs.reverse.findIdx? (· = c)).map fun k => cs.length - 1 - k

/-- The host part of a URL, checked and with its escapes undone. A host with a
bracket must be an IPv6 address between brackets at its start, and only a zone
after an escaped percent sign may use other escapes; any other host is a name,
with an optional port after its last colon. -/
def readHost (host : String) : Except String (List UInt8) := do
  let cs := host.toList
  match lastIndexOf '[' cs with
  | some openAt =>
    if openAt ≠ 0 then throw "invalid IP-literal"
    let closeAt ← match lastIndexOf ']' cs with
      | some i => pure i
      | none => throw "missing ']' in host"
    let colonPort := String.ofList (cs.drop (closeAt + 1))
    if !isOptionalPort colonPort then throw ("invalid port " ++ quote colonPort ++ " after host")
    let inner := (cs.take closeAt).drop (openAt + 1)
    let name ← match (String.ofList inner).splitOn "%25" with
      | address :: zone :: more =>
        pure ((← unescapeHostPart .host address) ++ (← unescapeHostPart .zone ("%25" ++ "%25".intercalate (zone :: more))))
      | _ => unescapeHostPart .host (String.ofList inner)
    match readIpAddress (stringOfUtf8 name) with
    | .error e => throw ("invalid host: " ++ e.message)
    | .ok .v4 => throw "invalid IP-literal"
    | .ok .v6 => pure (utf8Bytes "[" ++ name ++ utf8Bytes ("]" ++ colonPort))
  | none =>
    match lastIndexOf ':' cs with
    | some i =>
      let colonPort := String.ofList (cs.drop i)
      if !isOptionalPort colonPort then throw ("invalid port " ++ quote colonPort ++ " after host")
    | none => pure ()
    unescapeHostPart .host host

/-- A URL read into its parts. The user, password, host, path and fragment are
the bytes their escapes stand for, which need not be UTF-8; the path and
fragment keep their spelling too. -/
structure UrlForm where
  scheme : String
  user : Option (List UInt8 × Option (List UInt8)) := none
  host : List UInt8 := []
  path : List UInt8 := []
  rawPath : String := ""
  query : Option String := none
  fragment : List UInt8 := []
  rawFragment : String := ""

def isUserinfoChar (c : Char) : Bool :=
  c.isAlphanum || "-._:~!$&'()*+,;=%@".contains c

def readAuthority (authority : String) :
    Except String (Option (List UInt8 × Option (List UInt8)) × List UInt8) := do
  let acs := authority.toList
  match lastIndexOf '@' acs with
  | none => pure (none, ← readHost authority)
  | some i =>
    let host ← readHost (String.ofList (acs.drop (i + 1)))
    let info := String.ofList (acs.take i)
    if !info.all isUserinfoChar then throw "net/url: invalid userinfo"
    match info.splitOn ":" with
    | name :: pw :: more =>
      pure (some (← unescapeToBytes false name, some (← unescapeToBytes false (":".intercalate (pw :: more)))), host)
    | _ => pure (some (← unescapeToBytes false info, none), host)

def readUrlForm (s : String) : Except String UrlForm := do
  let (proper, fragment) := match s.splitOn "#" with
    | p :: f :: more => (p, some ("#".intercalate (f :: more)))
    | _ => (s, none)
  if proper.any fun (c : Char) => c.toNat < 0x20 || c.toNat = 0x7f then
    throw "net/url: invalid control character in URL"
  let pcs := proper.toList
  let scheme := String.ofList (pcs.takeWhile (· ≠ ':'))
  let afterScheme := (pcs.dropWhile (· ≠ ':')).drop 1
  let (rest, query) := match afterScheme.findIdx? (· = '?') with
    | some i => (afterScheme.take i, some (String.ofList (afterScheme.drop (i + 1))))
    | none => (afterScheme, none)
  let body := rest.drop 2
  let authority := String.ofList (body.takeWhile (· ≠ '/'))
  let rawPath := String.ofList (body.dropWhile (· ≠ '/'))
  let (user, host) ← readAuthority authority
  let path ← unescapeToBytes false rawPath
  let (fragment, rawFragment) ← match fragment with
    | some f => pure (← unescapeToBytes false f, f)
    | none => pure ([], "")
  pure { scheme := scheme.toLower, user, host, path, rawPath, query, fragment, rawFragment }

def spelled (part : UrlPart) (raw : String) (bytes : List UInt8) : String :=
  if validEscaping part raw then raw else escapePart part bytes

def UrlForm.render (u : UrlForm) : String :=
  let userText := match u.user with
    | some (name, pw) =>
      escapePart .userPassword name ++ (match pw with | some p => ":" ++ escapePart .userPassword p | none => "") ++ "@"
    | none => ""
  let slashes := if !u.host.isEmpty || !u.path.isEmpty || u.user.isSome then "//" else ""
  u.scheme ++ ":" ++ slashes ++ userText ++ escapePart .host u.host ++ spelled .path u.rawPath u.path ++
    (match u.query with | some q => "?" ++ q | none => "") ++
    (if u.fragment.isEmpty then "" else "#" ++ spelled .fragment u.rawFragment u.fragment)

end MediaTimeline.Text
