import ClientAuth.Json.Basic
import ClientAuth.Text.Blank

/-! Environment files: lines `KEY=VALUE` with comments, quotes and references
to other variables. A malformed line is skipped. -/
namespace ClientAuth.EnvFile

/-- A gap that does not end the line. -/
def isSpace (c : Char) : Bool := Text.isGap c && c ≠ '\n'

/-- Line ends of every platform as line feeds. -/
def normalizeLines : List Char → List Char
  | [] => []
  | '\r' :: '\n' :: rest => '\n' :: normalizeLines rest
  | '\r' :: rest => '\n' :: normalizeLines rest
  | c :: rest => c :: normalizeLines rest

/-- Everything before a line feed, and the rest from it on. -/
def splitLine (input : List Char) : List Char × List Char :=
  (input.takeWhile (· ≠ '\n'), input.dropWhile (· ≠ '\n'))

/-- What remains after the current line. -/
def afterLine (input : List Char) : List Char := (input.dropWhile (· ≠ '\n')).drop 1

/-- The content up to a closing quote, and what follows it. A character after
a backslash does not close. -/
def closing? (quote : Char) : List Char → Option (List Char × List Char)
  | [] => none
  | '\\' :: c :: rest =>
      (closing? quote rest).map fun (content, after) => ('\\' :: c :: content, after)
  | c :: rest =>
      if c = quote then some ([], rest)
      else (closing? quote rest).map fun (content, after) => (c :: content, after)

/-- The character that an escape in double quotes stands for. -/
def doubleEscape? : Char → Option Char
  | '\\' => some '\\'
  | '\'' => some '\''
  | '"' => some '"'
  | 'a' => some '\x07'
  | 'b' => some '\x08'
  | 'f' => some '\x0c'
  | 'n' => some '\n'
  | 'r' => some '\r'
  | 't' => some '\t'
  | 'v' => some '\x0b'
  | _ => none

/-- The character that an escape in single quotes stands for. -/
def singleEscape? : Char → Option Char
  | '\\' => some '\\'
  | '\'' => some '\''
  | _ => none

/-- Replaces the known escapes and keeps all others as they are. -/
def unescape (escape? : Char → Option Char) : List Char → List Char
  | [] => []
  | '\\' :: c :: rest =>
      match escape? c with
      | some plain => plain :: unescape escape? rest
      | none => '\\' :: unescape escape? (c :: rest)
  | c :: rest => c :: unescape escape? rest

/-- Cuts a comment off an unquoted value. It starts at a gap before a hash. -/
def cutComment : List Char → List Char
  | [] => []
  | c :: rest =>
      if Text.isGap c && (rest.dropWhile Text.isGap).head? = some '#' then []
      else c :: cutComment rest

/-- An unquoted value runs to the end of the line, its comment and the gaps at
its end cut off. -/
def unquoted (line : List Char) : List Char :=
  ((cutComment line).reverse.dropWhile Text.isGap).reverse

/-- A value and what follows it. Where none can be read, what is left is the
error. -/
def value (input : List Char) : Except (List Char) (List Char × List Char) :=
  match input with
  | '\'' :: rest =>
      match closing? '\'' rest with
      | some (content, after) => .ok (unescape singleEscape? content, after)
      | none => .error input
  | '"' :: rest =>
      match closing? '"' rest with
      | some (content, after) => .ok (unescape doubleEscape? content, after)
      | none => .error input
  | _ =>
      let (line, after) := splitLine input
      .ok (unquoted line, after)

/-- What follows an equals sign: a value with gaps before it, or a comment,
which a gap parts from the sign and which leaves the value empty. -/
def assigned (input : List Char) : Except (List Char) (List Char × List Char) :=
  match input.dropWhile isSpace with
  | '#' :: rest =>
      if input.head? = some '#' then value input else .ok ([], '#' :: rest)
  | rest => value rest

/-- A key and what follows it. A comment has none. -/
def key (input : List Char) : Except (List Char) (Option (List Char) × List Char) :=
  match input with
  | '#' :: _ => .ok (none, input)
  | '\'' :: rest =>
      let name := rest.takeWhile (· ≠ '\'')
      match rest.dropWhile (· ≠ '\'') with
      | _ :: after => if name.isEmpty then .error input else .ok (some name, after)
      | [] => .error input
  | _ =>
      let inKey (c : Char) : Bool := c ≠ '=' && c ≠ '#' && !Text.isGap c
      let name := input.takeWhile inKey
      if name.isEmpty then .error input else .ok (some name, input.dropWhile inKey)

/-- Drops the word `export` in front of a key. -/
def dropExport (input : List Char) : List Char :=
  if "export".toList.isPrefixOf input && (input.drop 6).head?.any isSpace then
    (input.drop 6).dropWhile isSpace
  else input

/-- The end of a statement: a comment and the line end. -/
def lineEnd (input : List Char) : Except (List Char) (List Char) :=
  let rest := input.dropWhile isSpace
  let rest := if rest.head? = some '#' then rest.dropWhile (· ≠ '\n') else rest
  match rest with
  | [] => .ok []
  | '\n' :: rest => .ok rest
  | _ => .error input

/-- A statement: a key with its value, a key alone, or neither. -/
abbrev Statement := Option (String × Option String)

/-- One statement and what follows it. -/
def statement (input : List Char) : Except (List Char) (Statement × List Char) := do
  let (name, rest) ← key (dropExport input)
  let (content, rest) ←
    match rest.dropWhile isSpace with
    | '=' :: rest => do
        let (content, rest) ← assigned rest
        pure (some (String.ofList content), rest)
    | rest => pure (none, rest)
  let rest ← lineEnd rest
  return (name.map fun name => (String.ofList name, content), rest)

/-- The statements of a file. After a malformed one reading goes on with the
next line. The fuel is at least the length of the input. -/
def statements : Nat → List Char → List (String × Option String)
  | 0, _ => []
  | fuel + 1, input =>
      match input.dropWhile Text.isGap with
      | [] => []
      | input =>
          match statement input with
          | .ok (some binding, rest) => binding :: statements fuel rest
          | .ok (none, rest) => statements fuel rest
          | .error rest => statements fuel (afterLine rest)

/-- A reference to a variable, with the text to take where it is not set. -/
structure Reference where
  name : String
  default : String

/-- The reference that starts after a dollar sign, and what follows it. -/
def reference? : List Char → Option (Reference × List Char)
  | '\x7b' :: rest =>
      let name := rest.takeWhile fun c => c ≠ '\x7d' && c ≠ ':'
      match rest.dropWhile fun c => c ≠ '\x7d' && c ≠ ':' with
      | '\x7d' :: after => some (⟨String.ofList name, ""⟩, after)
      | ':' :: '-' :: rest =>
          match rest.dropWhile (· ≠ '\x7d') with
          | _ :: after =>
              some (⟨String.ofList name, String.ofList (rest.takeWhile (· ≠ '\x7d'))⟩, after)
          | [] => none
      | _ => none
  | _ => none

/-- Puts the values of variables in place of references to them. A variable
without a value is empty. -/
def expand (known : List (String × Option String)) : Nat → List Char → List Char
  | 0, _ => []
  | _ + 1, [] => []
  | fuel + 1, c :: rest =>
      match if c = '$' then reference? rest else none with
      | some (reference, after) =>
          let text :=
            match Json.lookup? reference.name known with
            | some value => value.getD ""
            | none => reference.default
          text.toList ++ expand known fuel after
      | none => c :: expand known fuel rest

/-- Resolves statements in order. Each may refer to the environment and to the
statements before it, which come first. -/
def resolve (environment : List (String × Option String)) :
    List (String × Option String) → List (String × Option String) → List (String × Option String)
  | done, [] => done
  | done, (name, value) :: rest =>
      let known := done ++ environment
      let value := value.map fun text =>
        String.ofList (expand known (text.length + 1) text.toList)
      resolve environment (Json.insert name value done) rest

/-- A text without one byte order mark at its start. -/
def withoutMark : List Char → List Char
  | '\ufeff' :: rest => rest
  | text => text

/-- The variables that a file sets, in an environment it may refer to. -/
def assignments (environment : List (String × String)) (text : String) : List (String × Option String) :=
  let input := normalizeLines (withoutMark text.toList)
  resolve (environment.map fun (name, value) => (name, some value)) []
    (statements (input.length + 1) input)

end ClientAuth.EnvFile
