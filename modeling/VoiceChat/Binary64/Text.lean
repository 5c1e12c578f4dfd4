import VoiceChat.Binary64

/-!
# Shortest decimal text of a binary64 number

The fewest significant digits that read back as the number, and among those
the nearest: on each decimal grid, coarsest first, the two neighbours of the
value are tried in exact arithmetic. Powers of ten from `10 ^ -4` up to below
`10 ^ 16` are written positionally and always with a fraction, all others with
an exponent of at least two digits.
-/

namespace VoiceChat.Binary64

/-- The `k` with `10 ^ k ≤ n / d < 10 ^ (k + 1)`, for positive `n` and `d`. -/
def log10Quotient (n d : Nat) : Int :=
  let digits (q : Nat) : Int := (Nat.toDigits 10 q).length
  if d ≤ n then digits (n / d) - 1
  else if d = Nat.pow 10 (digits (d / n) - 1).toNat * n then 1 - digits (d / n)
  else -digits (d / n)

/-- Whether `c * 10 ^ unit` reads back as the positive number `m * 2 ^ e`. -/
def readsBack (m : Nat) (e : Int) (c : Nat) (unit : Int) : Bool :=
  ofQuotient false (c * Nat.pow 10 unit.toNat) (Nat.pow 10 (-unit).toNat) = .finite false m e

/-- The multiple of `10 ^ unit` beside `m * 2 ^ e` that reads back, the nearer of two. -/
def onGrid? (m : Nat) (e unit : Int) : Option Nat :=
  let n := m * Nat.pow 2 e.toNat * Nat.pow 10 (-unit).toNat
  let d := Nat.pow 2 (-e).toNat * Nat.pow 10 unit.toNat
  let low := n / d
  match readsBack m e low unit, readsBack m e (low + 1) unit with
  | true, true => some (divNearest n d)
  | true, false => some low
  | false, true => some (low + 1)
  | false, false => none

/-- A coefficient and a power of ten for `m * 2 ^ e`, the shortest from `digits` digits on. -/
def shortestFrom (m : Nat) (e magnitude : Int) : Nat → Nat → Nat × Int
  | 0, digits => (0, magnitude - digits)
  | grids + 1, digits =>
    let unit := magnitude - digits
    match onGrid? m e unit with
    | some c => (c, unit)
    | none => shortestFrom m e magnitude grids (digits + 1)

/-- The shortest coefficient and its power of ten for the positive `m * 2 ^ e`. -/
def shortest (m : Nat) (e : Int) : Nat × Int :=
  shortestFrom m e (log10Quotient (m * Nat.pow 2 e.toNat) (Nat.pow 2 (-e).toNat)) 17 0

def trimZeros (digits : List Char) : List Char := (digits.reverse.dropWhile (· = '0')).reverse

def zeros (n : Int) : List Char := List.replicate n.toNat '0'

/-- Digits `d₀d₁…` standing for `d₀.d₁… * 10 ^ power`, written positionally. -/
def positional (digits : List Char) (power : Int) : List Char :=
  if power < 0 then '0' :: '.' :: zeros (-power - 1) ++ digits
  else
    let whole := digits.take (power.toNat + 1)
    let fraction := digits.drop (power.toNat + 1)
    whole ++ zeros (power + 1 - whole.length) ++ '.' :: (if fraction = [] then ['0'] else fraction)

/-- The same digits with an exponent. -/
def scientific (digits : List Char) (power : Int) : List Char :=
  let exponent := Nat.toDigits 10 power.natAbs
  digits.take 1 ++ (if digits.length ≤ 1 then [] else '.' :: digits.drop 1)
    ++ ['e', if power < 0 then '-' else '+'] ++ zeros (2 - exponent.length) ++ exponent

def magnitudeText (m : Nat) (e : Int) : List Char :=
  if m = 0 then ['0', '.', '0']
  else
    let (c, unit) := shortest m e
    let digits := Nat.toDigits 10 c
    let power := unit + digits.length - 1
    if -4 ≤ power ∧ power < 16 then positional (trimZeros digits) power
    else scientific (trimZeros digits) power

/-- The shortest text that reads back as the number. -/
def text : Binary64 → String
  | .nan => "nan"
  | .infinity negative => if negative then "-inf" else "inf"
  | .finite negative m e => String.ofList ((if negative then ['-'] else []) ++ magnitudeText m e)

end VoiceChat.Binary64
