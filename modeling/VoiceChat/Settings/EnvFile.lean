import VoiceChat.Table
import VoiceChat.Text.Blank

/-!
# Environment files

A file of `NAME=value` lines. A value may be quoted; unquoted it ends before a
blank and a number sign. `${NAME}` stands for an earlier value of the file or
for the environment, `${NAME:-text}` for `text` when neither has one. A line
that cannot be read is skipped.
-/

namespace VoiceChat.EnvFile

/-- A name and its value; a name without an equals sign has none. -/
structure Binding where
  name : List Char
  value : Option (List Char)
deriving DecidableEq, Repr

/-- The characters of a file: without the byte order mark in front, and with one
line feed for every way to end a line. -/
def normalize (cs : List Char) : List Char :=
  lineFeeds (if cs.head? = some '\ufeff' then cs.drop 1 else cs)
where
  lineFeeds : List Char → List Char
    | '\r' :: '\n' :: rest => '\n' :: lineFeeds rest
    | c :: rest => (if c = '\r' then '\n' else c) :: lineFeeds rest
    | [] => []

def isNewline (c : Char) : Bool := c = '\n'

/-- The blanks of a file, the four information separators included. -/
def isSpace (c : Char) : Bool := Text.isBlank c ∨ (0x1c ≤ c.toNat ∧ c.toNat ≤ 0x1f)

def isInlineSpace (c : Char) : Bool := isSpace c ∧ !isNewline c

def dropInline (cs : List Char) : List Char := cs.dropWhile isInlineSpace

/-- The character that a backslash and a letter stand for within double quotes. -/
def escaped? : Char → Option Char
  | '\\' => some '\\'
  | '\'' => some '\''
  | '"' => some '"'
  | 'a' => some '\x07'
  | 'b' => some '\x08'
  | 'f' => some '\x0c'
  | 'n' => some '\n'
  | 'r' => some '\r'
  | 't' => some '\t'
  | 'v' => some '\x0b'
  | _ => none

/-- The escapes that count within single quotes. -/
def escapedSingle? (c : Char) : Option Char := if c = '\\' ∨ c = '\'' then some c else none

/-- A text with its escapes replaced. -/
def unescape (escape : Char → Option Char) : List Char → List Char
  | '\\' :: c :: rest =>
    match escape c with
    | some d => d :: unescape escape rest
    | none => '\\' :: unescape escape (c :: rest)
  | c :: rest => c :: unescape escape rest
  | [] => []

/-- The text up to the closing quote, escapes untouched, and what follows. A
character after a backslash belongs to the text, also a quote. -/
def untilQuote? (quote : Char) : List Char → Option (List Char × List Char)
  | [] => none
  | '\\' :: c :: rest => (untilQuote? quote rest).map fun (cs, rest) => ('\\' :: c :: cs, rest)
  | c :: rest =>
    if c = quote then some ([], rest)
    else (untilQuote? quote rest).map fun (cs, rest) => (c :: cs, rest)

/-- A line without its comment: a comment starts with blanks and a number sign. -/
def dropComment : List Char → List Char
  | [] => []
  | c :: rest =>
    if isSpace c ∧ (rest.dropWhile isSpace).head? = some '#' then []
    else c :: dropComment rest

/-- The value after an equals sign, and what follows it. -/
def value? (cs : List Char) : Option (List Char × List Char) :=
  match dropInline cs with
  | '\'' :: rest => (untilQuote? '\'' rest).map fun (v, rest) => (unescape escapedSingle? v, rest)
  | '"' :: rest => (untilQuote? '"' rest).map fun (v, rest) => (unescape escaped? v, rest)
  | _ =>
    let line := dropComment (cs.takeWhile (!isNewline ·))
    some (Text.trimEnd isSpace (dropInline line), cs.dropWhile (!isNewline ·))

/-- The name at the head of a line, and what follows it. -/
def name? (cs : List Char) : Option (List Char × List Char) :=
  match cs with
  | '\'' :: rest =>
    let name := rest.takeWhile (· ≠ '\'')
    match name, rest.dropWhile (· ≠ '\'') with
    | _ :: _, _ :: rest => some (name, rest)
    | _, _ => none
  | cs =>
    let inName (c : Char) : Bool := c ≠ '=' ∧ c ≠ '#' ∧ !isSpace c
    match cs.takeWhile inName with
    | [] => none
    | name => some (name, cs.dropWhile inName)

/-- Without the word that marks a variable for export. -/
def dropExport (cs : List Char) : List Char :=
  let word := ['e', 'x', 'p', 'o', 'r', 't']
  let rest := cs.drop word.length
  if word <+: cs ∧ rest.head?.any isInlineSpace then dropInline rest else cs

/-- Whether a line is over but for blanks and a comment. -/
def atLineEnd (cs : List Char) : Bool :=
  match dropInline cs with
  | [] => true
  | c :: _ => c = '#' ∨ isNewline c

/-- The binding at the head of `cs` if it can be read, and where its line goes on. -/
def binding (cs : List Char) : Option Binding × List Char :=
  match name? (dropExport cs) with
  | none => (none, cs)
  | some (name, rest) =>
    match dropInline rest with
    | '=' :: rest =>
      match value? rest with
      | some (v, rest) => (if atLineEnd rest then some ⟨name, some v⟩ else none, rest)
      | none => (none, rest)
    | rest => (if atLineEnd rest then some ⟨name, none⟩ else none, rest)

/-- The bindings of a text, a line consumed at a time. -/
def bindingsFrom : Nat → List Char → List Binding
  | 0, _ => []
  | lines + 1, cs =>
    match cs.dropWhile isSpace with
    | [] => []
    | cs =>
      let (found, rest) := binding cs
      found.toList ++ bindingsFrom lines (rest.dropWhile (!isNewline ·))

/-- The bindings of a file. -/
def bindings (text : List Char) : List Binding :=
  bindingsFrom (text.length + 1) (normalize text)

/-- A reference after its opening brace: its name, its default, and what follows. -/
def reference? (cs : List Char) : Option (List Char × Option (List Char) × List Char) :=
  let inName (c : Char) : Bool := c ≠ '\x7d' ∧ c ≠ ':'
  let name := cs.takeWhile inName
  match cs.dropWhile inName with
  | '\x7d' :: rest => some (name, none, rest)
  | ':' :: '-' :: rest =>
    match rest.dropWhile (· ≠ '\x7d') with
    | _ :: after => some (name, some (rest.takeWhile (· ≠ '\x7d')), after)
    | [] => none
  | _ => none

/-- A value with its references replaced. -/
def expand (lookup : String → Option (Option String)) : Nat → List Char → List Char
  | fuel + 1, '$' :: '\x7b' :: rest =>
    match reference? rest with
    | some (name, default, after) =>
      let found := (lookup (String.ofList name)).getD (default.map String.ofList)
      (found.getD "").toList ++ expand lookup fuel after
    | none => '$' :: '\x7b' :: expand lookup fuel rest
  | fuel + 1, c :: rest => c :: expand lookup fuel rest
  | _, cs => cs

/-- The values of a file, references replaced. -/
def values (environment : Table String String) (text : String) : Table String (Option String) :=
  (bindings text.toList).foldl
    (fun known b =>
      let lookup name := match known.get? name with
        | some v => some v
        | none => (environment.get? name).map some
      known.insert (String.ofList b.name)
        (b.value.map fun cs => String.ofList (expand lookup cs.length cs)))
    .empty

end VoiceChat.EnvFile
