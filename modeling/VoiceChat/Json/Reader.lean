import VoiceChat.Decimal
import VoiceChat.Json

/-!
# Reading JSON text

A recursive-descent reader for RFC 8259 that also takes the bare words for
not-a-number and the infinities. A number with a point or an exponent is a
binary64 one, every other number a whole one of limited length. Each level of nesting and each
element consumes a character, so the length of the text bounds the recursion.
-/

namespace VoiceChat.Json

def isSpace (c : Char) : Bool := c = ' ' ∨ c = '\t' ∨ c = '\n' ∨ c = '\r'

def skipSpace (cs : List Char) : List Char := cs.dropWhile isSpace

/-- What follows `word` at the head of `cs`. -/
def after? (word : List Char) (cs : List Char) : Option (List Char) :=
  if word <+: cs then some (cs.drop word.length) else none

def hexValue? (c : Char) : Option Nat :=
  if '0' ≤ c ∧ c ≤ '9' then some (c.toNat - '0'.toNat)
  else if 'a' ≤ c ∧ c ≤ 'f' then some (c.toNat - 'a'.toNat + 10)
  else if 'A' ≤ c ∧ c ≤ 'F' then some (c.toNat - 'A'.toNat + 10)
  else none

def hex4? (a b c d : Char) : Option CodePoint :=
  match hexValue? a, hexValue? b, hexValue? c, hexValue? d with
  | some a, some b, some c, some d =>
    some (.ofNat (((a * 16 + b) * 16 + c) * 16 + d))
  | _, _, _, _ => none

/-- The character behind a one-letter escape. -/
def escape? : Char → Option CodePoint
  | '"' => some (.ofNat 0x22)
  | '\\' => some (.ofNat 0x5c)
  | '/' => some (.ofNat 0x2f)
  | 'b' => some (.ofNat 8)
  | 'f' => some (.ofNat 12)
  | 'n' => some (.ofNat 10)
  | 'r' => some (.ofNat 13)
  | 't' => some (.ofNat 9)
  | _ => none

/-- The characters of a string up to its closing quote, and what follows; an escaped character
may be half of a surrogate pair. -/
def units? : List Char → Option (List CodePoint × List Char)
  | [] => none
  | '"' :: rest => some ([], rest)
  | '\\' :: 'u' :: a :: b :: c :: d :: rest =>
    match hex4? a b c d, units? rest with
    | some code, some (codes, rest) => some (code :: codes, rest)
    | _, _ => none
  | '\\' :: c :: rest =>
    match escape? c, units? rest with
    | some code, some (codes, rest) => some (code :: codes, rest)
    | _, _ => none
  | c :: rest =>
    if c = '\\' ∨ c.toNat < 0x20 then none
    else (units? rest).map fun (codes, rest) => (.ofChar c :: codes, rest)

/-- The code point of a surrogate pair. -/
def joined (high low : CodePoint) : CodePoint :=
  .ofNat (0x10000 + (high.val - 0xd800) * 0x400 + (low.val - 0xdc00))

/-- Join the surrogate pairs to code points. -/
def joinUnits : List CodePoint → List CodePoint
  | high :: low :: rest =>
    if high.isHighSurrogate ∧ low.isLowSurrogate then joined high low :: joinUnits rest
    else high :: joinUnits (low :: rest)
  | codes => codes

/-- The text after an opening quote, and what follows it. -/
def text? (cs : List Char) : Option (Text × List Char) :=
  (units? cs).map fun (codes, rest) => (.ofCodes (joinUnits codes), rest)

/-- Whole digits without a needless leading zero. -/
def wholeDigits? (cs : List Char) : Option (List Char × List Char) :=
  match cs with
  | '0' :: rest => some (['0'], rest)
  | _ => match Decimal.span cs with
    | ([], _) => none
    | parts => some parts

/-- The digits after a point, where a point and a digit follow. -/
def fraction (cs : List Char) : List Char × List Char :=
  match cs with
  | '.' :: rest => match Decimal.span rest with
    | ([], _) => ([], cs)
    | parts => parts
  | _ => ([], cs)

/-- A number at the head of `cs`. -/
def number? (cs : List Char) : Option (Json × List Char) :=
  let (negative, unsigned) := match cs with
    | '-' :: rest => (true, rest)
    | rest => (false, rest)
  match wholeDigits? unsigned with
  | none => none
  | some (whole, afterWhole) =>
    let (digits, afterPoint) := fraction afterWhole
    let (power, rest) := Decimal.exponent afterPoint
    if rest.length = afterWhole.length then
      if whole.length ≤ Decimal.maxDigits then
        some (.int (Binary64.signed negative (Decimal.value whole)), rest)
      else none
    else some (.float (Decimal.number negative whole digits power), rest)

/-- One of the bare words at the head of `cs`. -/
def word? (cs : List Char) : Option (Json × List Char) :=
  [("null", Json.null), ("true", .bool true), ("false", .bool false), ("NaN", .float .nan),
    ("Infinity", .float (.infinity false)), ("-Infinity", .float (.infinity true))].findSome?
      fun (word, value) => (after? word.toList cs).map fun rest => (value, rest)

mutual

/-- A value at the head of `cs`, and what follows it. -/
def value? : Nat → List Char → Option (Json × List Char)
  | 0, _ => none
  | fuel + 1, cs =>
    match cs with
    | '"' :: rest => (text? rest).map fun (text, rest) => (ofText text, rest)
    | '[' :: rest =>
      match skipSpace rest with
      | ']' :: rest => some (.arr [], rest)
      | rest => (items? fuel rest).map fun (items, rest) => (.arr items, rest)
    | '{' :: rest =>
      match skipSpace rest with
      | '}' :: rest => some (.obj [], rest)
      | rest => (fields? fuel rest).map fun (fields, rest) => (.obj fields, rest)
    | cs => (word? cs).or (number? cs)

/-- One or more values up to the bracket that closes them. -/
def items? : Nat → List Char → Option (List Json × List Char)
  | 0, _ => none
  | fuel + 1, cs =>
    match value? fuel cs with
    | none => none
    | some (item, rest) =>
      match skipSpace rest with
      | ']' :: rest => some ([item], rest)
      | ',' :: rest =>
        (items? fuel (skipSpace rest)).map fun (items, rest) => (item :: items, rest)
      | _ => none

/-- One or more fields up to the brace that closes them. -/
def fields? : Nat → List Char → Option (Fields × List Char)
  | 0, _ => none
  | fuel + 1, cs =>
    match cs with
    | '"' :: rest =>
      match text? rest with
      | none => none
      | some (name, rest) =>
        match skipSpace rest with
        | ':' :: rest =>
          match value? fuel (skipSpace rest) with
          | none => none
          | some (value, rest) =>
            match skipSpace rest with
            | '}' :: rest => some ([(name.shown, value)], rest)
            | ',' :: rest =>
              (fields? fuel (skipSpace rest)).map fun (fields, rest) =>
                ((name.shown, value) :: fields, rest)
            | _ => none
        | _ => none
    | _ => none

end

/-- Read a whole text as one value. -/
def parse? (text : String) : Option Json :=
  let cs := text.toList
  match value? (cs.length + 1) (skipSpace cs) with
  | some (value, rest) => if skipSpace rest = [] then some value else none
  | none => none

end VoiceChat.Json
