import VoiceChat.Binary64.Text
import VoiceChat.Text
import VoiceChat.Text.Printable

/-!
# JSON values

The values that arrive from outside: whole numbers of any size are kept apart
from binary64 ones, texts that hold half of a surrogate pair from strings of
characters, and the fields of an object stay in their order of arrival.
`Json.display` is the text by which an unexpected value is named in an error.
-/

namespace VoiceChat

/-- A JSON value. -/
inductive Json where
  | null
  | bool (value : Bool)
  | int (value : Int)
  | float (value : Binary64)
  | str (chars : String)
  | unpaired (half : Unpaired)
  | arr (items : List Json)
  | obj (fields : List (String × Json))
deriving Inhabited

/-- The fields of an object, in order. -/
abbrev Fields := List (String × Json)

/-- The value of the first field named `name`. -/
def Fields.get? (fields : Fields) (name : String) : Option Json :=
  (fields.find? fun field => field.1 = name).map Prod.snd

namespace Json

def hexDigits (width n : Nat) : List Char :=
  let digits := Nat.toDigits 16 n
  List.replicate (width - digits.length) '0' ++ digits

/-- An unprintable character by its code point, with as many digits as its size needs. -/
def escapedCode (code : Nat) : List Char :=
  if code < 0x100 then '\\' :: 'x' :: hexDigits 2 code
  else if code < 0x10000 then '\\' :: 'u' :: hexDigits 4 code
  else '\\' :: 'U' :: hexDigits 8 code

/-- A character of a quoted text; `quote` and the backslash are escaped. -/
def quotedChar (quote c : Char) : List Char :=
  if c = quote ∨ c = '\\' then ['\\', c]
  else if c = '\n' then ['\\', 'n']
  else if c = '\r' then ['\\', 'r']
  else if c = '\t' then ['\\', 't']
  else if Text.isPrintable c then [c]
  else escapedCode c.toNat

/-- A text in single quotes, or in double quotes when only those avoid an escape. -/
def quoted (text : Text) : String :=
  let quote := if .ofChar '\'' ∈ text.codes ∧ .ofChar '"' ∉ text.codes then '"' else '\''
  let shown (code : CodePoint) : List Char :=
    if code.isSurrogate then escapedCode code.val else quotedChar quote code.toChar
  String.ofList (quote :: text.codes.flatMap shown ++ [quote])

mutual

/-- The text of a value inside a list or an object. -/
def display : Json → String
  | .null => "None"
  | .bool true => "True"
  | .bool false => "False"
  | .int n => toString n
  | .float x => x.text
  | .str chars => quoted chars
  | .unpaired half => quoted (.unpaired half)
  | .arr items => "[" ++ ", ".intercalate (displayItems items) ++ "]"
  | .obj fields => "\x7b" ++ ", ".intercalate (displayFields fields) ++ "\x7d"

def displayItems : List Json → List String
  | [] => []
  | item :: items => display item :: displayItems items

def displayFields : List (String × Json) → List String
  | [] => []
  | (name, value) :: fields => (quoted name ++ ": " ++ display value) :: displayFields fields

end

/-- What names a value in an error: a text is shown as it is. -/
def label : Json → String
  | .str chars => chars
  | .unpaired half => (Text.unpaired half).shown
  | value => display value

/-- The value that is a text. -/
def ofText : Text → Json
  | .ofString chars => .str chars
  | .unpaired half => .unpaired half

end Json

end VoiceChat
