/-!
# Binary64 numbers

IEEE 754 binary64 values in exact integer arithmetic: rounding a quotient of
naturals to the nearest value (a half goes to the even significand), the
integer a value stands for, and its ceiling. A finite value is
`significand * 2 ^ exponent` with `significand < 2 ^ 53`, normalised so that
`2 ^ 52 ≤ significand` unless the exponent is the least one.
-/

namespace VoiceChat

/-- A binary64 number. -/
inductive Binary64 where
  | nan
  | infinity (negative : Bool)
  /-- The value `significand * 2 ^ exponent`, or its negative. -/
  | finite (negative : Bool) (significand : Nat) (exponent : Int)
deriving DecidableEq, Repr

namespace Binary64

/-- The quotient `n / d` rounded to the nearest integer, a half to the even one. -/
def divNearest (n d : Nat) : Nat :=
  if 2 * (n % d) < d ∨ 2 * (n % d) = d ∧ n / d % 2 = 0 then n / d else n / d + 1

/-- Whether `2 ^ k ≤ n / d`, without leaving the naturals. -/
def powLeQuotient (k : Int) (n d : Nat) : Bool :=
  d * Nat.pow 2 k.toNat ≤ n * Nat.pow 2 (-k).toNat

/-- The greatest `k` with `2 ^ k ≤ n / d`, for positive `n` and `d`. -/
def log2Quotient (n d : Nat) : Int :=
  let k : Int := (n.log2 : Int) - d.log2
  if powLeQuotient k n d then k else k - 1

def minExponent : Int := -1074

def maxExponent : Int := 971

/-- The exponent at which `n / d` has a 53-bit significand, or the least one. -/
def exponentOf (n d : Nat) : Int := max (log2Quotient n d - 52) minExponent

/-- Significand and exponent nearest to the positive quotient `n / d`. -/
def roundQuotient (n d : Nat) : Nat × Int :=
  let e := exponentOf n d
  let m := divNearest (n * Nat.pow 2 (-e).toNat) (d * Nat.pow 2 e.toNat)
  if m = Nat.pow 2 53 then (Nat.pow 2 52, e + 1) else (m, e)

def zero (negative : Bool) : Binary64 := .finite negative 0 minExponent

/-- The number nearest to `n / d`, an infinity beyond the finite range. -/
def ofQuotient (negative : Bool) (n d : Nat) : Binary64 :=
  if n = 0 then zero negative
  else
    let r := roundQuotient n d
    if maxExponent < r.2 then .infinity negative else .finite negative r.1 r.2

/-- The number nearest to `a / d`. -/
def ofRatio (a : Int) (d : Nat) : Binary64 := ofQuotient (a < 0) a.natAbs d

/-- The number nearest to `digits * 10 ^ scale`. Scales far outside the range
are settled by the number of digits alone. -/
def ofDecimal (negative : Bool) (digits : Nat) (scale : Int) : Binary64 :=
  let magnitude : Int := (Nat.toDigits 10 digits).length + scale
  if digits = 0 ∨ magnitude < -400 then zero negative
  else if 400 < magnitude then .infinity negative
  else ofQuotient negative (digits * Nat.pow 10 scale.toNat) (Nat.pow 10 (-scale).toNat)

def signed (negative : Bool) (n : Nat) : Int := if negative then -n else n

/-- The integer the number stands for, if it stands for one. -/
def toInt? : Binary64 → Option Int
  | .finite negative m e =>
    let unit := Nat.pow 2 (-e).toNat
    if m % unit = 0 then some (signed negative (m / unit * Nat.pow 2 e.toNat)) else none
  | _ => none

/-- The least integer not below a finite number. -/
def ceil? : Binary64 → Option Int
  | .finite negative m e =>
    some (-(-signed negative (m * Nat.pow 2 e.toNat) / (Nat.pow 2 (-e).toNat : Nat)))
  | _ => none

def isFinite : Binary64 → Bool
  | .finite .. => true
  | _ => false

end Binary64

end VoiceChat
