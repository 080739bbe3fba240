import Flowgate.Locator.Host
import Flowgate.Text.Blank
import Flowgate.Text.Part

/-! # Resource locators

The locators that agents name resources by. A locator is read leniently and written in
one form: the scheme in lower case, no blanks around it, no dot segments in the path,
and every character that a part cannot hold encoded.
-/

namespace Flowgate

/-- The parts of a locator, each in its one form. -/
structure Locator where
  scheme : String
  /-- What stands between two slashes and the path. -/
  authority : Option String
  path : String
  query : Option String
  fragment : Option String
  deriving DecidableEq, Repr

namespace Locator

/-- The text of a locator. A path that would be taken for an authority has a dot in
front. -/
def toText (l : Locator) : String :=
  l.scheme ++ ":" ++
    (match l.authority with
    | some authority => "//" ++ authority
    | none => if ['/', '/'].isPrefixOf l.path.toList then "/." else "") ++
    l.path ++ (l.query.map ("?" ++ ·)).getD "" ++ (l.fragment.map ("#" ++ ·)).getD ""

/-- How the parts of a locator are read, by its scheme. -/
inductive Family where
  /-- Hosts are looked up, and a backslash is a slash. -/
  | web
  /-- As with the web, but without a host as a rule, and with drives. -/
  | file
  /-- Hosts are opaque. -/
  | other
  deriving DecidableEq, Repr

/-- The family of a scheme. -/
def Family.of (scheme : String) : Family :=
  if scheme = "file" then .file
  else if ["ftp", "http", "https", "ws", "wss"].contains scheme then .web
  else .other

/-- The signs that part the segments of a path. -/
def Family.isSlash (f : Family) (c : Char) : Bool := c == '/' || (f != .other && c == '\\')

/-- The signs that end an authority. -/
def Family.endsAuthority (f : Family) (c : Char) : Bool := f.isSlash c || c == '?' || c == '#'

/-- The port that a scheme has when none is given. -/
def usualPort? (scheme : String) : Option Nat :=
  [("ftp", 21), ("http", 80), ("https", 443), ("ws", 80), ("wss", 443)].lookup scheme

/-- A part with the characters encoded that it cannot hold. -/
def encoded (keeps : Char → Bool) (cs : List Char) : String :=
  String.ofList (Url.percentEncode keeps cs)

/-- Characters that stay in a user's name and password. -/
def keepsUser (c : Char) : Bool := Url.keepsUser c && c != ':'

/-- A user's name and password; a colon without a password is dropped. -/
def userText (cs : List Char) : String :=
  let (name, password) := Text.cutAt (· == ':') cs
  let name := encoded keepsUser name
  match password.getD [] with
  | [] => if name = "" then "" else name ++ "@"
  | password => name ++ ":" ++ encoded keepsUser password ++ "@"

/-- The text before the last `@`, where there is one, and the text behind it. -/
def cutUser (cs : List Char) : Option (List Char) × List Char :=
  if '@' ∈ cs then
    (some ((cs.reverse.dropWhile (· != '@')).drop 1).reverse,
      (cs.reverse.takeWhile (· != '@')).reverse)
  else (none, cs)

/-- A host up to the colon in front of a port, and the rest; a colon in brackets parts
nothing. -/
def spanHost (inBrackets : Bool) : List Char → List Char × List Char
  | [] => ([], [])
  | c :: rest =>
      if c = ':' && !inBrackets then ([], c :: rest)
      else
        let (host, tail) := spanHost (if c = '[' then true else if c = ']' then false
          else inBrackets) rest
        (c :: host, tail)

/-- A port behind its colon. The usual one is left out. -/
def portText (scheme : String) : List Char → Except Error String
  | ':' :: digits => do
      -- a backslash ends the number in any family, and starts the path there
      let digits := digits.takeWhile (· != '\\')
      match digits.mapM Text.asciiDigit? with
      | none => .error .badPort
      | some [] => .ok ""
      | some ds =>
          let port := ds.foldl (fun n d => n * 10 + d) 0
          if port > 65535 then .error .badPort
          else .ok (if usualPort? scheme = some port then "" else s!":{port}")
  | _ => .ok ""

/-- What an authority is followed by in its own text: a path behind a port. -/
def behindPort : List Char → List Char
  | ':' :: digits => digits.dropWhile (· != '\\')
  | _ => []

/-- Read an authority, of which the text ends at a path, a query, a fragment or the end
of the locator. What is left of it belongs to the path. -/
def readAuthority (f : Family) (scheme : String) (text : List Char) (atEnd : Bool) :
    Except Error (String × List Char) := do
  let (user, place) := cutUser text
  if user = some [] && place.isEmpty && !atEnd then .error .emptyHost
  let user := userText (user.getD [])
  let (host, port) := spanHost false place
  if f = .web && host.isEmpty then .error .emptyHost
  let host ← if f = .web then namedHost host else opaqueHost host
  if host.isEmpty && (!port.isEmpty || user != "") then .error .emptyHost
  return (user ++ String.ofList host ++ (← portText scheme port), behindPort port)

/-- Whether a segment is the name of a drive. -/
def isDrive : List Char → Bool
  | [letter, mark] => letter.isAlpha && (mark == ':' || mark == '|')
  | _ => false

/-- Whether a segment stands for the one it is in. -/
def isDot (segment : List Char) : Bool :=
  [".", "%2e"].contains (String.ofList (segment.map Char.toLower))

/-- Whether a segment stands for the one above. -/
def isDoubleDot (segment : List Char) : Bool :=
  ["..", "%2e.", ".%2e", "%2e%2e"].contains (String.ofList (segment.map Char.toLower))

/-- Add segments to those before them, which stand last first. The one above is left
unless it is a drive, and a path that ends in dots ends in a slash. -/
def addSegments (before : List (List Char)) : List (List Char) → List (List Char)
  | [] => before
  | segment :: rest =>
      let close (before : List (List Char)) := if rest.isEmpty then [] :: before else before
      if isDoubleDot segment then
        let above := match before with
          | last :: more => if isDrive last then before else more
          | [] => []
        addSegments (close above) rest
      else if isDot segment then addSegments (close before) rest
      else addSegments (Url.percentEncode Url.keepsPath segment :: before) rest

/-- A path that begins with a slash, without dot segments. -/
def pathText (f : Family) (path : List Char) : List Char :=
  let segments := Text.splitAt f.isSlash (path.drop 1)
  '/' :: ['/'].intercalate (addSegments [] segments).reverse

/-- Split a text into path, query and fragment. -/
def cutPath (cs : List Char) : List Char × Option (List Char) × Option (List Char) :=
  let (cs, fragment) := Text.cutAt (· == '#') cs
  let (path, query) := Text.cutAt (· == '?') cs
  (path, query, fragment)

/-- Put a slash in front of a path that has none. -/
def rooted (f : Family) (path : List Char) : List Char :=
  if path.head?.any f.isSlash then path else '/' :: path

/-- Characters that stay in a query. -/
def keepsQuery (f : Family) (c : Char) : Bool := Url.keepsQuery c && (f == .other || c != '\'')

/-- A locator of its parts in their one form, with a query and a fragment that are not
yet. -/
def ofParts (f : Family) (scheme : String) (authority : Option String) (path : List Char)
    (query fragment : Option (List Char)) : Locator := {
  scheme, authority
  path := String.ofList path
  query := query.map (encoded (keepsQuery f))
  fragment := fragment.map (encoded Url.keepsFragment) }

/-- Read what follows the two slashes of a locator. -/
def readPlaced (f : Family) (scheme : String) (cs : List Char) : Except Error Locator := do
  let (text, tail) := cs.span (!f.endsAuthority ·)
  let (authority, more) ← readAuthority f scheme text tail.isEmpty
  let (path, query, fragment) := cutPath (more ++ tail)
  let path := if path.isEmpty && f = .other then [] else pathText f (rooted f path)
  return ofParts f scheme (some authority) path query fragment

/-- The segments of a file's path: a drive in front has a colon. -/
def filePath (path : List Char) : List Char :=
  let path := '/' :: ((pathText .file (rooted .file path)).dropWhile (· == '/'))
  match path with
  | '/' :: letter :: '|' :: rest =>
      if letter.isAlpha && (rest.isEmpty || rest.head? = some '/') then '/' :: letter :: ':' :: rest
      else path
  | path => path

/-- Whether a path begins with a drive. -/
def startsWithDrive (path : List Char) : Bool :=
  isDrive ((path.drop 1).takeWhile (· != '/'))

/-- Read what follows the colon of a file's locator. The local host is no host, and
neither is one in front of a drive. -/
def readFile (cs : List Char) : Except Error Locator := do
  let placed := (cs.take 2).length = 2 && (cs.take 2).all Family.file.isSlash
  let (text, tail) := (cs.drop 2).span (!Family.file.endsAuthority ·)
  let (host, rest) ←
    if !placed then .ok ([], cs)
    else if isDrive text then .ok ([], cs.drop 2)
    else if text.isEmpty then .ok ([], tail)
    else (namedHost text).map fun host =>
      (if host = "localhost".toList then [] else host, tail)
  let (path, query, fragment) := cutPath rest
  let path := filePath path
  let host := if startsWithDrive path then [] else host
  return ofParts .file "file" (some (String.ofList host)) path query fragment

/-- Split off a scheme. -/
def splitScheme? (cs : List Char) : Option (String × List Char) :=
  match cs.span fun c => c.isAlphanum || c == '+' || c == '-' || c == '.' with
  | (letter :: more, ':' :: rest) =>
      if letter.isAlpha then some (String.ofList ((letter :: more).map Char.toLower), rest)
      else none
  | _ => none

/-- A text without blanks and control characters around it and without ends of lines and
tabs inside. -/
def cleaned (s : String) : List Char :=
  (Text.trim (· ≤ ' ') s.toList).filter fun c => c != '\t' && c != '\n' && c != '\r'

/-- Read a locator. -/
def read (s : String) : Except Error Locator :=
  if s = "" then .error .empty
  else
    match splitScheme? (cleaned s) with
    | none => .error .relative
    | some (scheme, rest) =>
        match Family.of scheme, rest with
        | .file, rest => readFile rest
        | .web, rest => readPlaced .web scheme (rest.dropWhile Family.web.isSlash)
        | .other, '/' :: '/' :: rest => readPlaced .other scheme rest
        | .other, rest =>
            let (path, query, fragment) := cutPath rest
            let path := if path.head? = some '/' then pathText .other path
              else Url.percentEncode isPrintableAscii path
            .ok (ofParts .other scheme none path query fragment)

end Locator

end Flowgate
