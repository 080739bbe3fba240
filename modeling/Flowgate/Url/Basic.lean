import Flowgate.Number.Numeral
import Flowgate.Text.Part
import Flowgate.Url.Host

/-! # Locators

A locator is cut into its parts, and every part is brought into one form: scheme
and host in lower case, no port where it is the usual one, no dot segments in the
path, and every character that a part cannot hold encoded. A locator without a scheme
or a host names a place on no host at all.
-/

namespace Flowgate

/-- The parts of a locator. -/
structure Url where
  scheme : String
  user : String
  host : String
  port : Option Int
  path : String
  query : Option String
  fragment : Option String
  deriving DecidableEq, Repr

namespace Url

/-- Why a text is no locator. -/
inductive Error where
  | tooLong
  | partTooLong (name : String)
  | control (c : Char) (position : Nat)
  | badHost (error : HostError)
  | badPort (text : String)
  | doubleSlash
  | leadingColon
  deriving DecidableEq, Repr

/-- What is said about a text that is no locator. -/
def Error.message : Error → String
  | tooLong => "URL too long"
  | partTooLong name => s!"URL component '{name}' too long"
  | control c position =>
      s!"Invalid non-printable ASCII character in URL, {Text.quoted (String.singleton c)} " ++
        s!"at position {position}."
  | badHost error => error.message
  | badPort text => s!"Invalid port: {Text.quoted text}"
  | doubleSlash => "Relative URLs cannot have a path starting with '//'"
  | leadingColon => "Relative URLs cannot have a path starting with ':'"

/-- The longest text that is read as a locator or as a part of one. -/
def lengthLimit : Nat := 65536

/-- The control characters of ASCII. -/
def isControl (c : Char) : Bool := c.toNat < 0x20 || c.toNat == 0x7f

/-- The port that a scheme has when none is given. -/
def usualPort? (scheme : String) : Option Int :=
  [("ftp", (21 : Int)), ("http", 80), ("https", 443), ("ws", 80), ("wss", 443)].lookup scheme

/-- Read a port; the usual one of the scheme counts as none. -/
def readPort (scheme : String) (text : List Char) : Except Error (Option Int) :=
  if text.isEmpty then .ok none
  else
    match Numeral.integer? (String.ofList text) with
    | some port => .ok (if usualPort? scheme = some port then none else some port)
    | none => .error (.badPort (String.ofList text))

/-- Add a segment to those before it, which stand last first. A single dot adds
nothing and two dots take the segment before away, but not the root. -/
def addSegment (before : List (List Char)) (segment : List Char) : List (List Char) :=
  if segment = ['.'] then before
  else if segment = ['.', '.'] then if before = [[]] then before else before.drop 1
  else segment :: before

/-- A path without dot segments. -/
def normalizePath (path : List Char) : List Char :=
  ['/'].intercalate ((Text.splitAt (· == '/') path).foldl addSegment []).reverse

/-- The authority of a locator: the part before the last `@`, the host, and what
follows the host behind a colon. A host in brackets may hold colons. -/
def splitAuthority (authority : List Char) : List Char × List Char × List Char :=
  let (user, place) :=
    if '@' ∈ authority then
      (((authority.reverse.dropWhile (· != '@')).drop 1).reverse,
        (authority.reverse.takeWhile (· != '@')).reverse)
    else ([], authority)
  let (host, port) :=
    if place.head? = some '[' ∧ ']' ∈ place then
      ((place.reverse.dropWhile (· != ']')).reverse, (place.reverse.takeWhile (· != ']')).reverse)
    else place.span (· != ':')
  (user, host, if port.head? = some ':' then port.drop 1 else port)

/-- A locator of its parts, each in its one form. -/
def ofParts (scheme authority path : List Char) (query fragment : Option (List Char)) :
    Except Error Url := do
  let text (keeps : Char → Bool) (cs : List Char) := String.ofList (percentEncode keeps cs)
  let (user, host, port) := splitAuthority authority
  let user := text keepsUser user
  let host ← (hostForm host).mapError .badHost
  let port ← readPort (String.ofList scheme) port
  let absolute := !scheme.isEmpty || user != "" || !host.isEmpty || port.isSome
  if !absolute && ['/', '/'].isPrefixOf path then .error .doubleSlash
  if !absolute && path.head? = some ':' then .error .leadingColon
  let path := if absolute then normalizePath path else path
  return {
    scheme := String.ofList (scheme.map Char.toLower)
    user
    host := String.ofList host
    port
    path := text keepsPath path
    query := query.map (text keepsQuery)
    fragment := fragment.map (text keepsFragment) }

/-- Characters that a scheme may hold behind its first letter. -/
def isSchemeChar (c : Char) : Bool := c.isAlphanum || c == '+' || c == '.' || c == '-'

/-- Split off a scheme, where a text begins with one. -/
def splitScheme (cs : List Char) : List Char × List Char :=
  match cs.span isSchemeChar with
  | (scheme, ':' :: rest) =>
      if (scheme.headD 'a').isAlpha then (scheme, rest) else ([], cs)
  | _ => ([], cs)

/-- The authority behind two slashes, where there is one. -/
def splitSlashes : List Char → List Char × List Char
  | '/' :: '/' :: rest => rest.span fun c => c != '/' && c != '?' && c != '#'
  | cs => ([], cs)

/-- Read a locator. -/
def parse (s : String) : Except Error Url := do
  let cs := s.toList
  if cs.length > lengthLimit then .error .tooLong
  match cs.dropWhile (!isControl ·) with
  | c :: _ => .error (.control c (cs.takeWhile (!isControl ·)).length)
  | [] =>
      let (beforeFragment, fragment) := Text.cutAt (· == '#') cs
      let (scheme, rest) := splitScheme beforeFragment
      let (authority, rest) := splitSlashes rest
      let (path, query) := Text.cutAt (· == '?') rest
      ofParts scheme authority path query fragment

/-- The host and the port. An address of groups stands in brackets. -/
def place (u : Url) : String :=
  (if u.host.contains ':' then "[" ++ u.host ++ "]" else u.host) ++
    (u.port.map fun port => s!":{port}").getD ""

/-- The part between the slashes and the path. -/
def authority (u : Url) : String := (if u.user = "" then "" else u.user ++ "@") ++ u.place

/-- The text of a locator; marks stand only where their part does. -/
def toText (u : Url) : String :=
  (if u.scheme = "" then "" else u.scheme ++ ":") ++
    (if u.authority = "" then "" else "//" ++ u.authority) ++ u.path ++
    (u.query.map ("?" ++ ·)).getD "" ++ (u.fragment.map ("#" ++ ·)).getD ""

/-- Whether a locator names a host to connect to. -/
def isAbsolute (u : Url) : Bool := u.scheme != "" && u.host != ""

/-- A locator of the texts of its parts, none of which may be too long. -/
def ofTexts (scheme authority path : String) (query fragment : Option String) :
    Except Error Url := do
  let parts := [("scheme", scheme), ("authority", authority), ("path", path)] ++
    (query.map (("query", ·))).toList ++ (fragment.map (("fragment", ·))).toList
  match parts.find? fun (_, text) => text.length > lengthLimit with
  | some (name, _) => .error (.partTooLong name)
  | none =>
      ofParts scheme.toList authority.toList path.toList (query.map String.toList)
        (fragment.map String.toList)

/-- A locator without a host keeps its path, from the root on, and its query. -/
def rooted (u : Url) : Except Error Url :=
  if u.isAbsolute then .ok u
  else ofTexts "" "" (String.ofList ('/' :: u.path.toList.dropWhile (· == '/'))) u.query none

/-- Put another query in the place of the locator's own. -/
def withQuery (u : Url) (query : Option String) : Except Error Url :=
  ofTexts u.scheme u.authority u.path query u.fragment

end Url

end Flowgate
