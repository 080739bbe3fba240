import Flowgate.Settings.Basic

/-! # Files of variables

A file gives one variable on a line: an optional `export`, a name, an equals sign
and a value. Quotes around a value are removed and keep everything between them;
without quotes the value ends at a comment and is trimmed. A name alone is bound to
no value, and a line that cannot be read is passed over. Values may refer to
variables that were bound before.
-/

namespace Flowgate.VariableFile

/-- Every end of a line as a line feed. -/
def unifyLineEnds : List Char → List Char
  | '\r' :: '\n' :: rest => '\n' :: unifyLineEnds rest
  | '\r' :: rest => '\n' :: unifyLineEnds rest
  | c :: rest => c :: unifyLineEnds rest
  | [] => []

/-- White space inside a line. -/
def isGap (c : Char) : Bool := Text.isSpace c && c != '\n'

/-- The rest of a text behind the current line. -/
def dropLine (cs : List Char) : List Char := (cs.dropWhile (· != '\n')).drop 1

/-- A character for the letter behind a backslash between double quotes. -/
def escapeOf? (c : Char) : Option Char :=
  [('\\', '\\'), ('\'', '\''), ('"', '"'), ('a', '\x07'), ('b', '\x08'), ('f', '\x0c'), ('n', '\n'),
    ('r', '\r'), ('t', '\t'), ('v', '\x0b')].lookup c

/-- A character for the letter behind a backslash between single quotes. -/
def singleEscapeOf? (c : Char) : Option Char :=
  [('\\', '\\'), ('\'', '\'')].lookup c

/-- Replace escapes by their characters; other backslashes stay. -/
def unescape (escape? : Char → Option Char) : List Char → List Char
  | '\\' :: c :: rest =>
      match escape? c with
      | some e => e :: unescape escape? rest
      | none => '\\' :: unescape escape? (c :: rest)
  | c :: rest => c :: unescape escape? rest
  | [] => []
termination_by cs => cs.length

/-- The text up to the closing quote, and what follows it. The character behind a
backslash closes nothing. -/
def spanQuoted (quote : Char) : List Char → Option (List Char × List Char)
  | [] => none
  | '\\' :: c :: rest =>
      (spanQuoted quote rest).map fun (inside, tail) => ('\\' :: c :: inside, tail)
  | c :: rest =>
      if c = quote then some ([], rest)
      else (spanQuoted quote rest).map fun (inside, tail) => (c :: inside, tail)

/-- Cut a value at white space in front of a comment. -/
def dropComment : List Char → List Char
  | [] => []
  | c :: rest =>
      if Text.isSpace c ∧ (rest.dropWhile Text.isSpace).head? = some '#' then []
      else c :: dropComment rest

/-- The value behind an equals sign, and what follows it. -/
def readValue (cs : List Char) : Option (String × List Char) :=
  match cs.dropWhile isGap with
  | '\'' :: rest =>
      (spanQuoted '\'' rest).map fun (inside, tail) =>
        (String.ofList (unescape singleEscapeOf? inside), tail)
  | '"' :: rest =>
      (spanQuoted '"' rest).map fun (inside, tail) =>
        (String.ofList (unescape escapeOf? inside), tail)
  | _ =>
      let (line, tail) := cs.span (· != '\n')
      some (String.ofList (Text.trim Text.isSpace (dropComment line)), tail)

/-- The name at the start of a line, without `export`. -/
def readName (cs : List Char) : Option (String × List Char) :=
  let word := "export".toList
  let cs :=
    if word.isPrefixOf cs ∧ (cs.drop 6).head?.any isGap then (cs.drop 6).dropWhile isGap else cs
  match cs with
  | '\'' :: rest =>
      match rest.span (· != '\'') with
      | ([], _) => none
      | (name, '\'' :: tail) => some (String.ofList name, tail)
      | _ => none
  | cs =>
      match cs.span fun c => c != '=' && c != '#' && !Text.isSpace c with
      | ([], _) => none
      | (name, tail) => some (String.ofList name, tail)

/-- Whether nothing but a comment follows on the line. -/
def endsLine (cs : List Char) : Bool :=
  match cs.dropWhile isGap with
  | [] => true
  | c :: _ => c == '\n' || c == '#'

/-- The binding of a line, if it gives one, and the text behind the line. -/
def readLine (cs : List Char) : Option (String × Option String) × List Char :=
  match readName cs with
  | none => (none, dropLine cs)
  | some (name, rest) =>
      let value? := match rest.dropWhile isGap with
        | '=' :: rest => (readValue rest).map fun (value, tail) => (some value, tail)
        | rest => some (none, rest)
      match value? with
      | some (value, tail) =>
          (if endsLine tail then some (name, value) else none, dropLine tail)
      | none => (none, dropLine rest)

/-- Read lines; the bound counts them. -/
def readLines : Nat → List Char → List (String × Option String)
  | 0, _ => []
  | fuel + 1, cs =>
      match cs.dropWhile Text.isSpace with
      | [] => []
      | cs =>
          let (found, rest) := readLine cs
          found.toList ++ readLines fuel rest

/-- A reference to a variable. -/
structure Reference where
  name : String
  /-- What stands for a variable that is not bound. -/
  fallback : String

/-- The reference at the start of a text, written `${name}` or `${name:-fallback}`, and
its length. -/
def reference? : List Char → Option (Reference × Nat)
  | '$' :: '\x7b' :: rest =>
      let (name, tail) := rest.span fun c => c != '\x7d' && c != ':'
      match tail with
      | '\x7d' :: _ => some (⟨String.ofList name, ""⟩, name.length + 3)
      | ':' :: '-' :: tail =>
          let (fallback, tail) := tail.span (· != '\x7d')
          if tail.isEmpty then none
          else some (⟨String.ofList name, String.ofList fallback⟩,
            name.length + fallback.length + 5)
      | _ => none
  | _ => none

/-- Replace references by values. The first `skip` characters belong to a reference
that was replaced already. -/
def expand (valueOf : Reference → String) (skip : Nat) : List Char → List Char
  | [] => []
  | c :: rest =>
      match skip with
      | skip + 1 => expand valueOf skip rest
      | 0 =>
          match reference? (c :: rest) with
          | some (r, length) => (valueOf r).toList ++ expand valueOf (length - 1) rest
          | none => c :: expand valueOf 0 rest

/-- The value of a reference: a name bound to no value is the empty text. -/
def Reference.value (known : List Variables) (r : Reference) : String :=
  match known.findSome? fun vars => List.lookup r.name vars with
  | some value => value.getD ""
  | none => r.fallback

/-- Bind names one after the other. References look into what was bound before and
then into the environment. -/
def bindAll (env : Variables) (bound : Variables) : List (String × Option String) → Variables
  | [] => bound
  | (name, value) :: rest =>
      let value := value.map fun text =>
        String.ofList (expand (Reference.value [bound, env]) 0 text.toList)
      bindAll env (bound.set name value) rest

/-- The variables of a file in an environment. -/
def read (env : Variables) (text : String) : Variables :=
  let cs := unifyLineEnds text.toList
  bindAll env [] (readLines (cs.length + 1) cs)

end Flowgate.VariableFile
