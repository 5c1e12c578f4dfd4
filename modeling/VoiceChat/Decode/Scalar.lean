import VoiceChat.Decimal.Whole
import VoiceChat.Decode
import VoiceChat.Json

/-!
# Decoding scalars

Integers, booleans and strings from JSON values. An integer is also taken
from a boolean, from a number without a fraction and from its written form; a
boolean also from zero and one and from the usual words. Texts are taken only
from texts; where a text has to be looked into, it must consist of characters.
-/

namespace VoiceChat.Decode

open Decoded

/-- Whether an integer has its place in a signed 64-bit word. -/
def inWord (n : Int) : Bool := -0x8000000000000000 ≤ n ∧ n < 0x8000000000000000

/-- Whether a number without a fraction is small enough to be taken for an integer. -/
def convertible (n : Int) : Bool := n.natAbs < 0x8000000000000000

def int (v : Json) : Decoded Int :=
  match v with
  | .int n => value n
  | .bool b => value (if b then 1 else 0)
  | .float x =>
    if x.isFinite then
      match x.toInt? with
      | some n => if convertible n then value n else fail .oversizedInteger v
      | none => fail .fractionalInteger v
    else fail .infiniteInteger v
  | .str chars =>
    if Decimal.isOversized chars.toList then fail .oversizedInteger v
    else
      match Decimal.readInt? chars.toList with
      | some n => value n
      | none => fail .unreadableInteger v
  | .unpaired _ => fail .unpairedSurrogate v
  | _ => fail .notInteger v

/-- The boolean that a word stands for. -/
def readBool? (chars : String) : Option Bool :=
  let word := Decimal.lower chars.toList
  if word ∈ ["0", "off", "f", "false", "n", "no"].map String.toList then some false
  else if word ∈ ["1", "on", "t", "true", "y", "yes"].map String.toList then some true
  else none

/-- The boolean that a whole number stands for; `v` is how the number was given. -/
def boolOfInt (n : Int) (v : Json) : Decoded Bool :=
  if n = 0 then value false
  else if n = 1 then value true
  else if inWord n then fail .unreadableBoolean v
  else fail .notBoolean v

def bool (v : Json) : Decoded Bool :=
  match v with
  | .bool b => value b
  | .int n => boolOfInt n v
  | .float x =>
    match x.toInt? with
    | some n => if convertible n then boolOfInt n v else fail .notBoolean v
    | none => fail .notBoolean v
  | .str chars =>
    match readBool? chars with
    | some b => value b
    | none => fail .unreadableBoolean v
  | .unpaired _ => fail .unpairedSurrogate v
  | _ => fail .notBoolean v

/-- Any text. -/
def string (v : Json) : Decoded Text :=
  match v with
  | .str chars => value chars
  | .unpaired half => value (.unpaired half)
  | _ => fail .notString v

/-- A text of one character or more. -/
def nonEmptyString (v : Json) : Decoded Text :=
  match v with
  | .str chars => if chars = "" then fail .emptyString v else value chars
  | .unpaired _ => fail .unpairedSurrogate v
  | _ => fail .notString v

/-- An integer that is not negative. -/
def natural (v : Json) : Decoded Nat :=
  match int v with
  | .value n => if n < 0 then fail .negative v else value n.toNat
  | .issues found => .issues found

end VoiceChat.Decode
