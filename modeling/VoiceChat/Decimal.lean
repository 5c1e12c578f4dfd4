import VoiceChat.Binary64

/-!
# Decimal numerals

Digit runs and the parts of a decimal numeral, shared by every reader of
numbers, and the numeral reader of the configuration: an optional sign, then
digits with an optional point (a digit on at least one side of it) and an
optional power of ten, or one of the words for infinity and not-a-number.
-/

namespace VoiceChat.Decimal

def isDigit (c : Char) : Bool := '0' ≤ c ∧ c ≤ '9'

/-- The most digits that a whole number may be written with. -/
def maxDigits : Nat := 4300

/-- Without the underscores that part the characters of a numeral; none may
stand at an end or beside another. -/
def withoutUnderscores? (cs : List Char) : Option (List Char) :=
  if cs.head? = some '_' ∨ cs.getLast? = some '_' ∨ ('_', '_') ∈ cs.zip (cs.drop 1) then none
  else some (cs.filter (· ≠ '_'))

/-- The value of a run of digits. -/
def value (digits : List Char) : Nat := digits.foldl (fun n c => 10 * n + (c.toNat - '0'.toNat)) 0

/-- The leading digits and what follows them. -/
def span (cs : List Char) : List Char × List Char := (cs.takeWhile isDigit, cs.dropWhile isDigit)

/-- The sign in front of a numeral, and the rest. -/
def sign : List Char → Bool × List Char
  | '-' :: cs => (true, cs)
  | '+' :: cs => (false, cs)
  | cs => (false, cs)

/-- A power of ten at the head of `cs`, and the rest; zero if there is none. -/
def exponent (cs : List Char) : Int × List Char :=
  match cs with
  | c :: rest =>
    if c = 'e' ∨ c = 'E' then
      let (negative, digits) := sign rest
      match span digits with
      | ([], _) => (0, cs)
      | (ds, rest) => (Binary64.signed negative (value ds), rest)
    else (0, cs)
  | [] => (0, [])

/-- The number nearest to `whole.fraction * 10 ^ power`. -/
def number (negative : Bool) (whole fraction : List Char) (power : Int) : Binary64 :=
  Binary64.ofDecimal negative (value (whole ++ fraction)) (power - fraction.length)

def lower (cs : List Char) : List Char := cs.map Char.toLower

/-- Read a whole text as a number. -/
def read? (text : List Char) : Option Binary64 :=
  let (negative, cs) := sign text
  if lower cs = ['i', 'n', 'f'] ∨ lower cs = ['i', 'n', 'f', 'i', 'n', 'i', 't', 'y'] then
    some (.infinity negative)
  else if lower cs = ['n', 'a', 'n'] then some .nan
  else
    let (whole, cs) := span cs
    let (fraction, cs) := match cs with
      | '.' :: cs => span cs
      | cs => ([], cs)
    let (power, cs) := exponent cs
    if (whole = [] ∧ fraction = []) ∨ cs ≠ [] then none
    else some (number negative whole fraction power)

end VoiceChat.Decimal
