import VoiceChat.Decimal
import VoiceChat.Text.Blank

/-!
# Whole numerals

Integers written as texts. Blanks at the ends do not count, nor do zeros in
front with the underscores among them. Single underscores may part the digits,
and a point with zeros may close the numeral. The sign stands in front; a minus
sign may also follow the zeros in front.
-/

namespace VoiceChat.Decimal

/-- A numeral without the zeros in front and the underscores among them. Of
zeros alone, or in front of a point, the last character stays. -/
def significant? (cs : List Char) : Option (List Char) :=
  let skipped (c : Char) : Bool := c = '0' ∨ c = '_'
  match cs with
  | '0' :: _ =>
    match cs.dropWhile skipped with
    | [] => some cs.getLast?.toList
    | c :: rest =>
      if c = '.' then some ((cs.takeWhile skipped).getLast?.toList ++ c :: rest)
      else if c = '-' ∨ isDigit c then some (c :: rest)
      else none
  | c :: _ => if isDigit c then some cs else none
  | [] => none

/-- A numeral without a point and the zeros after it; nothing else may follow a point. -/
def dropFraction? (cs : List Char) : Option (List Char) :=
  match cs.dropWhile (· ≠ '.') with
  | [] => some cs
  | _ :: zeros =>
    if zeros ≠ [] ∧ zeros.all (· = '0') then some (cs.takeWhile (· ≠ '.')) else none

/-- The integer that is written with a minus sign at most and no needless zero. -/
def plainInt? (cs : List Char) : Option Int :=
  let (negative, digits) := match cs with
    | '-' :: digits => (true, digits)
    | digits => (false, digits)
  let plain := digits = ['0'] ∨ digits ≠ [] ∧ digits.head? ≠ some '0' ∧ digits.all isDigit
  if plain ∧ digits.length ≤ maxDigits then some (Binary64.signed negative (value digits))
  else none

/-- The integer that a text writes. -/
def readInt? (text : List Char) : Option Int :=
  let (negative, unsigned) := sign (Text.trim text)
  match significant? unsigned with
  | none => none
  | some numeral =>
    if negative ∧ numeral.head? = some '-' then none
    else
      (((dropFraction? numeral).bind withoutUnderscores?).bind plainInt?).map fun n =>
        if negative then -n else n

/-- Whether a text begins with an integer of too many digits, spelled without
blanks, plus sign or zeros in front. A minus sign may stand there and is no
digit: releases of the underlying decoder differ in whether they count it, and
the program was observed to read a minus sign with as many digits as allowed. -/
def isOversized (text : List Char) : Bool :=
  let unsigned := match text with
    | '-' :: rest => rest
    | rest => rest
  unsigned.head? ≠ some '0' ∧ maxDigits < (unsigned.takeWhile isDigit).length

end VoiceChat.Decimal
