import Mathlib.Algebra.Order.Field.Power
import Mathlib.Data.Int.Log
import Mathlib.Data.Rat.Floor
import Mathlib.Order.Monotone.Odd
import Mathlib.Tactic.FieldSimp
import Mathlib.Tactic.Linarith
import Mathlib.Tactic.Positivity
import VoiceChat.Binary64

/-!
# Rounding to binary64

The number that a quotient becomes, as a function of its rational value: `nearest` finds the
nearest integer, and `rounded` the nearest number with 53 binary digits, counted from the first
one that is not zero, or with digits down to the least exponent. Rounding is monotone
(`rounded_mono`), keeps what is representable (`Representable.rounded_eq`) and is correct
(`correctlyRounded_rounded`). The significand and the exponent that are computed for a quotient
stand for its rounded value, and they are out of range exactly from `overflow` on
(`ceil?_ofRatio`).
-/

namespace VoiceChat.Binary64

/-! ## The nearest integer -/

/-- The integer nearest to `x`, of two the even one. -/
def nearest (x : Rat) : Int :=
  if Int.fract x < 1 / 2 ∨ Int.fract x = 1 / 2 ∧ Even ⌊x⌋ then ⌊x⌋ else ⌊x⌋ + 1

/-- Whether `k` is within a half of `x`, or just a half away and even. -/
def IsNearest (x : Rat) (k : Int) : Prop := |x - k| < 1 / 2 ∨ |x - k| = 1 / 2 ∧ Even k

theorem isNearest_nearest (x : Rat) : IsNearest x (nearest x) := by
  have low : x - ⌊x⌋ = Int.fract x := Int.self_sub_floor x
  have nonneg : 0 ≤ Int.fract x := Int.fract_nonneg x
  have high : |x - (⌊x⌋ + 1 : Int)| = 1 - Int.fract x := by
    have below : x - (⌊x⌋ + 1 : Int) = -(1 - Int.fract x) := by
      push_cast
      linarith
    rw [below, abs_neg, abs_of_pos]
    linarith [Int.fract_lt_one x]
  unfold nearest
  split
  · next h =>
    rwa [IsNearest, low, abs_of_nonneg nonneg]
  · next h =>
    rw [not_or, not_lt, not_and] at h
    rw [IsNearest, high]
    rcases h.1.lt_or_eq with above | half
    · exact .inl (by linarith)
    · refine .inr ⟨by linarith, ?_⟩
      exact Int.even_add_one.2 (h.2 half.symm)

theorem IsNearest.abs_sub_le {x : Rat} {k : Int} (h : IsNearest x k) : |x - k| ≤ 1 / 2 :=
  h.elim le_of_lt fun half => le_of_eq half.1

theorem IsNearest.unique {x : Rat} {j k : Int} (hj : IsNearest x j) (hk : IsNearest x k) :
    j = k := by
  by_contra apart
  have far : (1 : Rat) ≤ |(j : Rat) - k| := by
    exact_mod_cast Int.one_le_abs (sub_ne_zero.2 apart)
  have near : |(j : Rat) - k| ≤ |x - j| + |x - k| := by
    rw [abs_sub_comm x j]
    simpa using abs_add_le ((j : Rat) - x) (x - k)
  -- both are half a unit away, so that they are neighbours and not both even
  have halves : |x - j| = 1 / 2 ∧ |x - k| = 1 / 2 :=
    ⟨by linarith [hj.abs_sub_le, hk.abs_sub_le], by linarith [hj.abs_sub_le, hk.abs_sub_le]⟩
  have unit : |j - k| = 1 := by
    have : |(j : Rat) - k| = 1 := by linarith
    exact_mod_cast this
  have even : Even (j - k) := by
    have hj := (hj.resolve_left (by rw [halves.1]; exact lt_irrefl _)).2
    have hk := (hk.resolve_left (by rw [halves.2]; exact lt_irrefl _)).2
    exact hj.sub hk
  rw [← even_abs, unit] at even
  exact absurd even (by decide)

theorem nearest_eq_iff {x : Rat} {k : Int} : nearest x = k ↔ IsNearest x k :=
  ⟨fun h => h ▸ isNearest_nearest x, (isNearest_nearest x).unique⟩

@[simp] theorem nearest_intCast (k : Int) : nearest k = k :=
  nearest_eq_iff.2 (.inl (by simp))

@[simp] theorem nearest_zero : nearest 0 = 0 := nearest_intCast 0

@[simp] theorem nearest_neg (x : Rat) : nearest (-x) = -nearest x := by
  refine nearest_eq_iff.2 ?_
  have mirrored : |-x - (-nearest x : Int)| = |x - nearest x| := by
    rw [abs_sub_comm]
    congr 1
    push_cast
    ring
  rw [IsNearest, mirrored, even_neg]
  exact isNearest_nearest x

theorem nearest_mono {x y : Rat} (le : x ≤ y) : nearest x ≤ nearest y := by
  by_contra h
  have gap : ((nearest y : Int) : Rat) + 1 ≤ nearest x := by exact_mod_cast not_le.1 h
  have hx := abs_le.1 (isNearest_nearest x).abs_sub_le
  have hy := abs_le.1 (isNearest_nearest y).abs_sub_le
  -- then both are the middle between the two integers
  have same : x = y := by linarith
  exact h (same ▸ le_rfl)

theorem le_nearest {x : Rat} {k : Int} (h : k ≤ x) : k ≤ nearest x := by
  simpa using nearest_mono h

theorem nearest_le {x : Rat} {k : Int} (h : x ≤ k) : nearest x ≤ k := by
  simpa using nearest_mono h

theorem abs_nearest (x : Rat) : |nearest x| = nearest |x| := by
  rcases le_total 0 x with nonneg | nonpos
  · rw [abs_of_nonneg nonneg, abs_of_nonneg]
    exact le_nearest (by simpa using nonneg)
  · rw [abs_of_nonpos nonpos, nearest_neg, abs_of_nonpos]
    exact nearest_le (by simpa using nonpos)

/-- An even integer is what everything from the half below it up is rounded to, at least. -/
theorem le_nearest_iff_of_even {x : Rat} {k : Int} (even : Even k) :
    k ≤ nearest x ↔ k - 1 / 2 ≤ x := by
  constructor
  · intro h
    have := (abs_le.1 (isNearest_nearest x).abs_sub_le).1
    have : (k : Rat) ≤ nearest x := by exact_mod_cast h
    linarith
  · intro h
    have half : nearest ((k : Rat) - 1 / 2) = k := by
      refine nearest_eq_iff.2 (.inr ⟨?_, even⟩)
      rw [sub_sub_cancel_left, abs_neg, abs_of_pos (by norm_num)]
    rw [← half]
    exact nearest_mono h

/-- No integer is nearer, and another one is as near only in the middle between the two. -/
theorem nearest_lt_or_eq {x : Rat} {k : Int} (other : k ≠ nearest x) :
    |nearest x - x| < |k - x| ∨ |nearest x - x| = |k - x| ∧ Even (nearest x) := by
  have far : (1 : Rat) ≤ |(k : Rat) - nearest x| := by
    exact_mod_cast Int.one_le_abs (sub_ne_zero.2 other)
  have near : |(k : Rat) - nearest x| ≤ |k - x| + |x - nearest x| := by
    simpa using abs_add_le ((k : Rat) - x) (x - nearest x)
  rw [abs_sub_comm (nearest x : Rat)]
  rcases isNearest_nearest x with less | ⟨half, even⟩
  · exact .inl (by linarith)
  · rcases lt_or_eq_of_le (show |x - nearest x| ≤ |k - x| by linarith) with less | same
    · exact .inl less
    · exact .inr ⟨same, even⟩

theorem nearest_natCast_div (n : Nat) {d : Nat} (pos : 0 < d) :
    nearest (n / d) = divNearest n d := by
  have positive : (0 : Rat) < d := by exact_mod_cast pos
  have floor : ⌊(n / d : Rat)⌋ = (n / d : Nat) := Rat.floor_natCast_div_natCast n d
  have fract : Int.fract (n / d : Rat) = (n % d : Nat) / d := by
    have parts : (n : Rat) = d * (n / d : Nat) + (n % d : Nat) := by
      exact_mod_cast (Nat.div_add_mod n d).symm
    rw [Int.fract, floor, Int.cast_natCast, eq_div_iff positive.ne', sub_mul,
      div_mul_cancel₀ _ positive.ne']
    linarith
  have below : Int.fract (n / d : Rat) < 1 / 2 ↔ 2 * (n % d) < d := by
    rw [fract, div_lt_div_iff₀ positive two_pos, one_mul, mul_comm]
    exact_mod_cast Iff.rfl
  have half : Int.fract (n / d : Rat) = 1 / 2 ↔ 2 * (n % d) = d := by
    rw [fract, div_eq_div_iff positive.ne' two_ne_zero, one_mul, mul_comm]
    exact_mod_cast Iff.rfl
  simp only [nearest, below, half, floor, Int.even_coe_nat, Nat.even_iff, divNearest]
  split <;> rfl

/-! ## Binary digits -/

/-- The exponent of the last of 53 binary digits of `x`, and at least the least one. -/
def lastExponent (x : Rat) : Int := max (Int.log 2 |x| - 52) minExponent

/-- The number nearest to `x` with the last digit of a binary64 number about as large. -/
def rounded (x : Rat) : Rat := nearest (x / 2 ^ lastExponent x) * 2 ^ lastExponent x

/-- A number of at most 53 binary digits. -/
def Representable (z : Rat) : Prop :=
  ∃ m e : Int, |m| < 2 ^ 53 ∧ minExponent ≤ e ∧ z = m * 2 ^ e

theorem zpow_add_ofNat (e : Int) (n : Nat) [n.AtLeastTwo] :
    (2 : Rat) ^ (e + OfNat.ofNat n) = 2 ^ (OfNat.ofNat n : Nat) * 2 ^ e := by
  rw [zpow_add₀ two_ne_zero, zpow_ofNat, mul_comm]

theorem lastExponent_neg (x : Rat) : lastExponent (-x) = lastExponent x := by
  rw [lastExponent, abs_neg, ← lastExponent]

@[simp] theorem rounded_neg (x : Rat) : rounded (-x) = -rounded x := by
  rw [rounded, lastExponent_neg, neg_div, nearest_neg, Int.cast_neg, neg_mul, ← rounded]

@[simp] theorem rounded_zero : rounded 0 = 0 := by simp [rounded]

theorem abs_lt_zpow (x : Rat) : |x| < 2 ^ (lastExponent x + 53) := by
  refine (Int.lt_zpow_succ_log_self one_lt_two |x|).trans_le ?_
  refine zpow_le_zpow_right₀ one_le_two ?_
  have := le_max_left (Int.log 2 |x| - 52) minExponent
  unfold lastExponent
  omega

theorem zpow_le_abs {x : Rat} (normal : minExponent < lastExponent x) (nonzero : x ≠ 0) :
    2 ^ (lastExponent x + 52) ≤ |x| := by
  have last : lastExponent x = Int.log 2 |x| - 52 := by
    unfold lastExponent at normal ⊢
    exact max_eq_left (by omega)
  rw [last, sub_add_cancel]
  exact Int.zpow_log_le_self one_lt_two (abs_pos.2 nonzero)

section

variable {x y z : Rat} {k e : Int}

theorem mul_zpow_eq (k : Int) {last : Int} (le : last ≤ e) :
    (k : Rat) * 2 ^ e = (k * 2 ^ (e - last).toNat : Int) * 2 ^ last := by
  have parts : e = (e - last).toNat + last := by omega
  conv_lhs => rw [parts]
  rw [zpow_add₀ two_ne_zero, zpow_natCast]
  push_cast
  ring

/-- What has no digits after the last one of `x` bounds `x` exactly if it bounds `rounded x`. -/
theorem rounded_le (le : lastExponent x ≤ e) (h : x ≤ k * 2 ^ e) : rounded x ≤ k * 2 ^ e := by
  have unit : (0 : Rat) < 2 ^ lastExponent x := by positivity
  rw [mul_zpow_eq k le] at h ⊢
  rw [rounded, mul_le_mul_iff_of_pos_right unit, Int.cast_le]
  exact nearest_le ((div_le_iff₀ unit).2 h)

theorem le_rounded (le : lastExponent x ≤ e) (h : k * 2 ^ e ≤ x) : k * 2 ^ e ≤ rounded x := by
  have unit : (0 : Rat) < 2 ^ lastExponent x := by positivity
  rw [mul_zpow_eq k le] at h ⊢
  rw [rounded, mul_le_mul_iff_of_pos_right unit, Int.cast_le]
  exact le_nearest ((le_div_iff₀ unit).2 h)

theorem rounded_nonneg (nonneg : 0 ≤ x) : 0 ≤ rounded x := by
  simpa using le_rounded (k := 0) (le_refl (lastExponent x)) (by simpa using nonneg)

theorem rounded_le_zpow (nonneg : 0 ≤ x) : rounded x ≤ 2 ^ (lastExponent x + 53) := by
  have below := (abs_lt_zpow x).le
  rw [abs_of_nonneg nonneg] at below
  simpa using rounded_le (x := x) (k := 1) (e := lastExponent x + 53) (by omega) (by simpa)

theorem zpow_le_rounded (normal : minExponent < lastExponent x) (pos : 0 < x) :
    2 ^ (lastExponent x + 52) ≤ rounded x := by
  have above := zpow_le_abs normal pos.ne'
  rw [abs_of_pos pos] at above
  simpa using le_rounded (x := x) (k := 1) (e := lastExponent x + 52) (by omega) (by simpa)

theorem lastExponent_mono (pos : 0 < x) (le : x ≤ y) : lastExponent x ≤ lastExponent y := by
  have logs : Int.log 2 |x| ≤ Int.log 2 |y| := by
    rw [abs_of_pos pos, abs_of_pos (pos.trans_le le)]
    exact Int.log_mono_right pos le
  unfold lastExponent
  omega

theorem rounded_mono : Monotone rounded := by
  refine monotone_of_odd_of_monotoneOn_nonneg rounded_neg fun x nonneg y nonneg' le => ?_
  rcases eq_or_lt_of_le (show 0 ≤ x from nonneg) with rfl | pos
  · rw [rounded_zero]
    exact rounded_nonneg nonneg'
  rcases (lastExponent_mono pos le).eq_or_lt with same | less
  · unfold rounded
    rw [same]
    have : nearest (x / 2 ^ lastExponent y) ≤ nearest (y / 2 ^ lastExponent y) :=
      nearest_mono (by gcongr)
    gcongr
  · have normal : minExponent < lastExponent y := (le_max_right _ _).trans_lt less
    calc rounded x
        ≤ 2 ^ (lastExponent x + 53) := rounded_le_zpow nonneg
      _ ≤ 2 ^ (lastExponent y + 52) := zpow_le_zpow_right₀ one_le_two (by omega)
      _ ≤ rounded y := zpow_le_rounded normal (pos.trans_le le)

theorem Representable.rounded_eq (h : Representable z) : rounded z = z := by
  obtain ⟨m, e, digits, least, rfl⟩ := h
  rcases eq_or_ne m 0 with rfl | nonzero
  · simp
  have last : lastExponent (m * 2 ^ e) ≤ e := by
    have size : |(m : Rat) * 2 ^ e| < 2 ^ (e + 53) := by
      rw [abs_mul, abs_of_pos (by positivity : (0 : Rat) < 2 ^ e), zpow_add_ofNat]
      gcongr
      exact_mod_cast digits
    have log := (Int.lt_zpow_iff_log_lt one_lt_two (by positivity)).1 size
    unfold lastExponent
    omega
  exact le_antisymm (rounded_le last le_rfl) (le_rounded last le_rfl)

/-! ## Correct rounding -/

theorem abs_mul_zpow_sub (k : Int) (x : Rat) :
    |k * 2 ^ lastExponent x - x| = |k - x / 2 ^ lastExponent x| * 2 ^ lastExponent x := by
  have unit : (0 : Rat) < 2 ^ lastExponent x := by positivity
  rw [← abs_of_pos unit, ← abs_mul, sub_mul, abs_of_pos unit, div_mul_cancel₀ _ unit.ne']

/-- Rounding is off by half a unit of the last digit at most. -/
theorem abs_rounded_sub_le (x : Rat) : |rounded x - x| ≤ 2 ^ lastExponent x / 2 := by
  have near := (isNearest_nearest (x / 2 ^ lastExponent x)).abs_sub_le
  rw [abs_sub_comm] at near
  calc |rounded x - x|
      = |nearest (x / 2 ^ lastExponent x) - x / 2 ^ lastExponent x| * 2 ^ lastExponent x :=
        abs_mul_zpow_sub _ x
    _ ≤ 1 / 2 * 2 ^ lastExponent x := by gcongr
    _ = 2 ^ lastExponent x / 2 := by ring

/-- A number between the powers of two that the last digit stands for has 53 digits. -/
theorem abs_nearest_digits (x : Rat) :
    |nearest (x / 2 ^ lastExponent x)| ≤ 2 ^ 53 ∧
      (x ≠ 0 → minExponent < lastExponent x → 2 ^ 52 ≤ |nearest (x / 2 ^ lastExponent x)|) := by
  have unit : (0 : Rat) < 2 ^ lastExponent x := by positivity
  rw [abs_nearest, abs_div, abs_of_pos unit]
  constructor
  · refine nearest_le ((div_le_iff₀ unit).2 ?_)
    have below := abs_lt_zpow x
    rw [zpow_add_ofNat] at below
    exact_mod_cast below.le
  · intro nonzero normal
    refine le_nearest ((le_div_iff₀ unit).2 ?_)
    have above := zpow_le_abs normal nonzero
    rw [zpow_add_ofNat] at above
    exact_mod_cast above

/-- Whether a number is written with an even significand, of 53 digits unless the exponent is
the least one. -/
def EvenSignificand (q : Rat) : Prop :=
  ∃ m e : Int, q = m * 2 ^ e ∧ Even m ∧ |m| < 2 ^ 53 ∧ minExponent ≤ e ∧
    (minExponent < e → 2 ^ 52 ≤ |m|)

/-- Whether `q` is what `x` is rounded to: no representable number is nearer to `x`, and of two
that are as near it is the one with an even significand. -/
structure CorrectlyRounded (x q : Rat) : Prop where
  representable : Representable q
  nearest : ∀ z, Representable z → z ≠ q →
    |q - x| < |z - x| ∨ |q - x| = |z - x| ∧ EvenSignificand q

/-- The significand and the exponent of `rounded x`. -/
theorem exists_digits (x : Rat) :
    ∃ m e : Int, rounded x = m * 2 ^ e ∧ |m| < 2 ^ 53 ∧ minExponent ≤ e ∧
      (x ≠ 0 → minExponent < e → 2 ^ 52 ≤ |m|) ∧
      (Even (nearest (x / 2 ^ lastExponent x)) → Even m) := by
  have least : minExponent ≤ lastExponent x := le_max_right _ _
  obtain ⟨bound, normal⟩ := abs_nearest_digits x
  unfold rounded
  generalize nearest (x / 2 ^ lastExponent x) = k at bound normal ⊢
  rcases bound.lt_or_eq with small | carry
  · exact ⟨k, lastExponent x, rfl, small, least, normal, id⟩
  · -- a significand of 54 digits ends in a zero
    have double (j : Int) :
        ((2 * j : Int) : Rat) * 2 ^ lastExponent x = j * 2 ^ (lastExponent x + 1) := by
      rw [zpow_add_one₀ two_ne_zero]
      push_cast
      ring
    rcases (abs_eq (by positivity)).1 carry with rfl | rfl
    · exact ⟨2 ^ 52, lastExponent x + 1, double (2 ^ 52), by norm_num, by omega,
        fun _ _ => by norm_num, fun _ => by decide⟩
    · exact ⟨-2 ^ 52, lastExponent x + 1, double (-2 ^ 52), by norm_num, by omega,
        fun _ _ => by norm_num, fun _ => by decide⟩

theorem representable_rounded (x : Rat) : Representable (rounded x) := by
  obtain ⟨m, e, written, digits, least, -, -⟩ := exists_digits x
  exact ⟨m, e, digits, least, written⟩

/-- A representable number has no digits after the last one of `x`, or is smaller than all
numbers that have as many before it. -/
theorem Representable.grid_or_lt (h : Representable z) (x : Rat) :
    (∃ k : Int, z = k * 2 ^ lastExponent x) ∨
      minExponent < lastExponent x ∧ |z| < 2 ^ (lastExponent x + 52) := by
  obtain ⟨m, e, digits, least, rfl⟩ := h
  rcases le_or_gt (lastExponent x) e with coarse | fine
  · exact .inl ⟨_, mul_zpow_eq m coarse⟩
  · refine .inr ⟨by omega, ?_⟩
    have unit : (0 : Rat) < 2 ^ e := by positivity
    have digits : |(m : Rat)| < 2 ^ 53 := by exact_mod_cast digits
    calc |(m : Rat) * 2 ^ e|
        = |(m : Rat)| * 2 ^ e := by rw [abs_mul, abs_of_pos unit]
      _ < 2 ^ 53 * 2 ^ e := by gcongr
      _ = 2 ^ (e + 53) := (zpow_add_ofNat e 53).symm
      _ ≤ 2 ^ (lastExponent x + 52) := zpow_le_zpow_right₀ one_le_two (by omega)

/-- No number with the last digit of `x` is nearer, and another one is as near only in the
middle between the two. -/
theorem rounded_lt_or_eq_of_grid (x : Rat) {k : Int} (other : k * 2 ^ lastExponent x ≠ rounded x) :
    |rounded x - x| < |k * 2 ^ lastExponent x - x| ∨
      |rounded x - x| = |k * 2 ^ lastExponent x - x| ∧
        Even (nearest (x / 2 ^ lastExponent x)) := by
  have unit : (0 : Rat) < 2 ^ lastExponent x := by positivity
  have apart : k ≠ nearest (x / 2 ^ lastExponent x) := by
    rintro rfl
    exact other rfl
  rw [rounded, abs_mul_zpow_sub, abs_mul_zpow_sub, mul_lt_mul_iff_of_pos_right unit,
    mul_left_inj' unit.ne']
  exact nearest_lt_or_eq apart

/-- Numbers below all those that have as many digits as `x` are farther from it. -/
theorem abs_rounded_sub_lt (nonzero : x ≠ 0) (normal : minExponent < lastExponent x)
    (small : |z| < 2 ^ (lastExponent x + 52)) : |rounded x - x| < |z - x| := by
  have grid (k : Int) : |rounded x - x| ≤ |k * 2 ^ lastExponent x - x| := by
    by_cases same : k * 2 ^ lastExponent x = rounded x
    · rw [same]
    · rcases rounded_lt_or_eq_of_grid x same with less | ⟨equal, -⟩
      · exact less.le
      · exact equal.le
  have least : |rounded x - x| ≤ |x| - 2 ^ (lastExponent x + 52) := by
    have above := zpow_le_abs normal nonzero
    have power : (2 : Rat) ^ (lastExponent x + 52) =
        ((2 ^ 52 : Int) : Rat) * 2 ^ lastExponent x := by
      rw [zpow_add_ofNat, Int.cast_pow, Int.cast_ofNat]
    rcases nonzero.lt_or_gt with neg | pos
    · rw [abs_of_neg neg] at above ⊢
      refine (grid (-2 ^ 52)).trans_eq ?_
      rw [Int.cast_neg, neg_mul, ← power, abs_of_nonneg (by linarith)]
      ring
    · rw [abs_of_pos pos] at above ⊢
      refine (grid (2 ^ 52)).trans_eq ?_
      rw [← power, abs_of_nonpos (by linarith)]
      ring
  have far : |x| - |z| ≤ |z - x| := abs_sub_comm x z ▸ abs_sub_abs_le_abs_sub x z
  linarith

/-- Rounding is correct. -/
theorem correctlyRounded_rounded (x : Rat) : CorrectlyRounded x (rounded x) := by
  refine ⟨representable_rounded x, fun z h other => ?_⟩
  rcases eq_or_ne x 0 with rfl | nonzero
  · left
    simpa using other
  rcases h.grid_or_lt x with ⟨k, rfl⟩ | ⟨normal, small⟩
  · refine (rounded_lt_or_eq_of_grid x other).imp_right fun ⟨same, even⟩ => ⟨same, ?_⟩
    obtain ⟨m, e, written, digits, least, normal, evenly⟩ := exists_digits x
    exact ⟨m, e, written, evenly even, digits, least, normal nonzero⟩
  · exact .inl (abs_rounded_sub_lt nonzero normal small)

/-! ## The range -/

/-- Numbers of this size and beyond are rounded to numbers out of range. -/
def overflow : Rat := 2 ^ (maxExponent + 53) - 2 ^ (maxExponent - 1)

/-- A number is rounded to one below a power of two exactly if it is more than half a unit of
the last digit below it. -/
theorem rounded_lt_iff (pos : 0 < x) (least : minExponent < e) :
    rounded x < 2 ^ (e + 53) ↔ x < 2 ^ (e + 53) - 2 ^ (e - 1) := by
  rcases lt_trichotomy (lastExponent x) e with less | rfl | more
  · have half : (2 : Rat) ^ (e - 1) < 2 ^ (e + 52) := zpow_lt_zpow_right₀ one_lt_two (by omega)
    have double : (2 : Rat) ^ (e + 53) = 2 ^ (e + 52) * 2 := by
      rw [← zpow_add_one₀ two_ne_zero, add_assoc]
      rfl
    have size : (2 : Rat) ^ (lastExponent x + 53) ≤ 2 ^ (e + 52) :=
      zpow_le_zpow_right₀ one_le_two (by omega)
    have below := abs_lt_zpow x
    rw [abs_of_pos pos] at below
    refine iff_of_true ?_ ?_
    · linarith [rounded_le_zpow pos.le]
    · linarith
  · have unit : (0 : Rat) < 2 ^ lastExponent x := by positivity
    have even : Even ((2 : Int) ^ 53) := by decide
    have top : (2 : Rat) ^ (lastExponent x + 53) = ((2 ^ 53 : Int) : Rat) * 2 ^ lastExponent x := by
      rw [zpow_add_ofNat, Int.cast_pow, Int.cast_ofNat]
    have threshold : (2 : Rat) ^ (lastExponent x + 53) - 2 ^ (lastExponent x - 1) =
        (((2 ^ 53 : Int) : Rat) - 1 / 2) * 2 ^ lastExponent x := by
      rw [top, zpow_sub_one₀ two_ne_zero]
      ring
    rw [threshold, top, rounded, mul_lt_mul_iff_of_pos_right unit, Int.cast_lt, ← div_lt_iff₀ unit,
      ← not_le, le_nearest_iff_of_even even, not_le]
  · have normal : minExponent < lastExponent x := least.trans more
    have size : (2 : Rat) ^ (e + 53) ≤ 2 ^ (lastExponent x + 52) :=
      zpow_le_zpow_right₀ one_le_two (by omega)
    have half : (0 : Rat) < 2 ^ (e - 1) := by positivity
    have above := zpow_le_abs normal pos.ne'
    rw [abs_of_pos pos] at above
    refine iff_of_false ?_ ?_
    · linarith [zpow_le_rounded normal pos]
    · linarith

end

/-! ## Quotients -/

/-- The rational number that a finite number stands for. -/
def toRat : Binary64 → Rat
  | finite negative significand exponent => signed negative significand * 2 ^ exponent
  | _ => 0

theorem zpow_eq_div (e : Int) : (2 : Rat) ^ e = 2 ^ e.toNat / 2 ^ (-e).toNat := by
  rw [eq_div_iff (by positivity), ← zpow_natCast, ← zpow_natCast, ← zpow_add₀ two_ne_zero]
  congr 1
  omega

theorem ceil?_finite (negative : Bool) (m : Nat) (e : Int) :
    (finite negative m e).ceil? = some ⌈(finite negative m e).toRat⌉ := by
  have quotient : (finite negative m e).toRat =
      ((signed negative (m * 2 ^ e.toNat) : Int) : Rat) / (2 ^ (-e).toNat : Nat) := by
    rw [toRat, zpow_eq_div]
    cases negative <;> simp [signed, mul_div_assoc, neg_div]
  rw [quotient, Rat.ceil_intCast_div_natCast]
  rfl

section

variable {n d : Nat}

theorem powLeQuotient_iff (positive : 0 < d) (k : Int) :
    powLeQuotient k n d = true ↔ (2 : Rat) ^ k ≤ n / d := by
  rw [zpow_eq_div, div_le_div_iff₀ (by positivity) (by exact_mod_cast positive), powLeQuotient,
    decide_eq_true_iff, mul_comm d]
  exact_mod_cast Iff.rfl

theorem log2Quotient_eq (nonzero : n ≠ 0) (positive : 0 < d) :
    log2Quotient n d = Int.log 2 (n / d : Rat) := by
  have pos : (0 : Rat) < n / d := by positivity
  have unique {k : Int} (low : 2 ^ k ≤ (n / d : Rat)) (high : (n / d : Rat) < 2 ^ (k + 1)) :
      k = Int.log 2 (n / d : Rat) := by
    have lower := (Int.zpow_le_iff_le_log one_lt_two pos).1 low
    have upper := (Int.lt_zpow_iff_log_lt one_lt_two pos).1 high
    omega
  have high : (n / d : Rat) < 2 ^ ((n.log2 : Int) - d.log2 + 1) := by
    have above : (n : Rat) < 2 ^ (n.log2 + 1) := by exact_mod_cast Nat.lt_log2_self
    have below : (2 : Rat) ^ d.log2 ≤ d := by exact_mod_cast Nat.log2_self_le positive.ne'
    rw [sub_add_eq_add_sub, zpow_sub₀ two_ne_zero, ← Nat.cast_succ, zpow_natCast, zpow_natCast]
    exact div_lt_div₀ above below (by positivity) (by positivity)
  have low : 2 ^ ((n.log2 : Int) - d.log2 - 1) ≤ (n / d : Rat) := by
    have below : (2 : Rat) ^ n.log2 ≤ n := by exact_mod_cast Nat.log2_self_le nonzero
    have above : (d : Rat) ≤ 2 ^ (d.log2 + 1) := by exact_mod_cast Nat.lt_log2_self.le
    rw [sub_sub, zpow_sub₀ two_ne_zero, ← Nat.cast_succ, zpow_natCast, zpow_natCast]
    exact div_le_div₀ (by positivity) below (by positivity) above
  unfold log2Quotient
  dsimp only
  split
  · next le => exact unique ((powLeQuotient_iff positive _).1 le) high
  · next gt =>
    rw [powLeQuotient_iff positive, not_le] at gt
    exact unique low (by rwa [sub_add_cancel])

theorem exponentOf_eq (nonzero : n ≠ 0) (positive : 0 < d) :
    exponentOf n d = lastExponent (n / d) := by
  rw [exponentOf, log2Quotient_eq nonzero positive, lastExponent, abs_of_nonneg (by positivity)]

theorem divNearest_eq (n : Nat) (positive : 0 < d) (e : Int) :
    (divNearest (n * Nat.pow 2 (-e).toNat) (d * Nat.pow 2 e.toNat) : Int) =
      nearest (n / d / 2 ^ e) := by
  have scaled : (n / d / 2 ^ e : Rat) =
      (n * Nat.pow 2 (-e).toNat : Nat) / (d * Nat.pow 2 e.toNat : Nat) := by
    rw [zpow_eq_div]
    simp
    field_simp
  rw [scaled]
  exact (nearest_natCast_div _ (Nat.mul_pos positive (Nat.two_pow_pos _))).symm

/-- The significand and the exponent of a quotient are those of its rounded value. -/
theorem roundQuotient_eq (nonzero : n ≠ 0) (positive : 0 < d) :
    (roundQuotient n d).1 * 2 ^ (roundQuotient n d).2 = rounded (n / d) ∧
      (roundQuotient n d).1 < 2 ^ 53 ∧
      (minExponent < (roundQuotient n d).2 → 2 ^ 52 ≤ (roundQuotient n d).1) := by
  have nonzero' : (n / d : Rat) ≠ 0 := by positivity
  have significand := divNearest_eq n positive (lastExponent (n / d))
  obtain ⟨bound, normal⟩ := abs_nearest_digits (n / d : Rat)
  have least : minExponent ≤ lastExponent (n / d : Rat) := le_max_right _ _
  unfold roundQuotient rounded
  dsimp only
  rw [exponentOf_eq nonzero positive]
  rw [← significand, Nat.abs_cast] at bound normal
  rw [← significand]
  generalize divNearest _ _ = m at bound normal ⊢
  split
  · next carry =>
    subst carry
    refine ⟨?_, by norm_num, fun _ => le_rfl⟩
    rw [zpow_add_one₀ two_ne_zero]
    push_cast
    ring
  · next small =>
    refine ⟨by simp, ?_, fun above => ?_⟩
    · have : m ≤ 2 ^ 53 := by exact_mod_cast bound
      exact lt_of_le_of_ne this small
    · exact_mod_cast normal nonzero' above

/-- The quotient is in the range exactly if what it is rounded to is. -/
theorem exponent_le_iff (nonzero : n ≠ 0) (positive : 0 < d) :
    (roundQuotient n d).2 ≤ maxExponent ↔ (n / d : Rat) < overflow := by
  obtain ⟨value, digits, normal⟩ := roundQuotient_eq nonzero positive
  have pos : (0 : Rat) < n / d := by positivity
  rw [overflow, ← rounded_lt_iff pos (by decide), ← value]
  generalize roundQuotient n d = r at digits normal ⊢
  have unit : (0 : Rat) < 2 ^ r.2 := by positivity
  constructor
  · intro within
    have digits : (r.1 : Rat) < 2 ^ 53 := by exact_mod_cast digits
    calc (r.1 : Rat) * 2 ^ r.2
        < 2 ^ 53 * 2 ^ r.2 := by gcongr
      _ = 2 ^ (r.2 + 53) := (zpow_add_ofNat r.2 53).symm
      _ ≤ 2 ^ (maxExponent + 53) := zpow_le_zpow_right₀ one_le_two (by omega)
  · intro less
    by_contra beyond
    have digits : (2 : Rat) ^ 52 ≤ r.1 := by
      exact_mod_cast normal (lt_trans (by decide) (not_le.1 beyond))
    refine absurd less (not_lt.2 ?_)
    calc (2 : Rat) ^ (maxExponent + 53)
        ≤ 2 ^ (r.2 + 52) := zpow_le_zpow_right₀ one_le_two (by omega)
      _ = 2 ^ 52 * 2 ^ r.2 := zpow_add_ofNat r.2 52
      _ ≤ r.1 * 2 ^ r.2 := by gcongr

/-- A quotient has a ceiling exactly if it is in the range, and this is the ceiling of its
rounded value. -/
theorem ceil?_ofRatio (a : Int) (positive : 0 < d) :
    (ofRatio a d).ceil? = if |(a / d : Rat)| < overflow then some ⌈rounded (a / d)⌉ else none := by
  have size : |(a / d : Rat)| = a.natAbs / d := by
    rw [abs_div, Nat.abs_cast, Nat.cast_natAbs, Int.cast_abs]
  rw [size]
  unfold ofRatio ofQuotient
  split
  · next zero =>
    obtain rfl : a = 0 := Int.natAbs_eq_zero.1 zero
    have within : (0 : Rat) < overflow := by
      have : (2 : Rat) ^ (maxExponent - 1) < 2 ^ (maxExponent + 53) :=
        zpow_lt_zpow_right₀ one_lt_two (by decide)
      exact sub_pos.2 this
    simp [zero, Binary64.zero, ceil?_finite, toRat, signed, within]
  · next nonzero =>
    have range := exponent_le_iff nonzero positive
    obtain ⟨value, -, -⟩ := roundQuotient_eq nonzero positive
    dsimp only
    split
    · next beyond =>
      rw [if_neg (range.not.1 (not_le.2 beyond))]
      rfl
    · next within =>
      rw [if_pos (range.1 (not_lt.1 within)), ceil?_finite, toRat]
      congr 2
      rw [← size] at value
      rcases lt_or_ge a 0 with neg | nonneg
      · have quotient : (a / d : Rat) < 0 := by
          exact div_neg_of_neg_of_pos (by exact_mod_cast neg) (by exact_mod_cast positive)
        rw [abs_of_neg quotient, rounded_neg, ← neg_eq_iff_eq_neg] at value
        simp [signed, neg, ← value]
      · have quotient : (0 : Rat) ≤ a / d := by positivity
        rw [abs_of_nonneg quotient] at value
        simp [signed, not_lt.2 nonneg, ← value]

end

end VoiceChat.Binary64
