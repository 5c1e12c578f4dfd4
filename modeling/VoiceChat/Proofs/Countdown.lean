import VoiceChat.Connection.View
import VoiceChat.Proofs.Rounding

/-!
# The countdown on show

While an attempt to reconnect is waited for, the seconds on show are the ceiling of a binary64
quotient, and the attempt is made when the integer deadline has passed. Rounding is monotone
and keeps zero, so that the seconds never increase as time goes on, and reach zero at the
deadline. Up to `2 ^ 53` milliseconds it does not pass an integer either
(`countdown_agrees_with_poll`).
-/

namespace VoiceChat.Connection

open Binary64

/-- Whether the quotient of milliseconds by a second is in the range of binary64 numbers: the
bound is the middle between the greatest one and the next power of two. -/
def QuotientInRange (milliseconds : Int) : Prop := |milliseconds| < 1000 * (2 ^ 1024 - 2 ^ 970)

instance (milliseconds : Int) : Decidable (QuotientInRange milliseconds) :=
  inferInstanceAs (Decidable (_ < _))

/-- The whole seconds on show for so many milliseconds. -/
def secondsShown (milliseconds : Int) : Int := max 0 ⌈rounded (milliseconds / 1000)⌉

theorem quotientInRange_iff (milliseconds : Int) :
    QuotientInRange milliseconds ↔ |(milliseconds / 1000 : Rat)| < overflow := by
  have bound : overflow = 2 ^ 1024 - 2 ^ 970 := by
    rw [← zpow_natCast, ← zpow_natCast]
    rfl
  have second : (0 : Rat) < 1000 := by norm_num
  rw [bound, abs_div, abs_of_pos second, div_lt_iff₀ second, mul_comm, QuotientInRange]
  exact_mod_cast Iff.rfl

theorem wholeSeconds_eq (milliseconds : Int) :
    (QuotientInRange milliseconds →
      wholeSeconds milliseconds = .ok ⌈rounded (milliseconds / 1000)⌉) ∧
      (¬QuotientInRange milliseconds → wholeSeconds milliseconds = .error .quotientOverflow) := by
  have ceil := ceil?_ofRatio (d := 1000) milliseconds (by norm_num)
  rw [Nat.cast_ofNat] at ceil
  unfold wholeSeconds
  rw [ceil, quotientInRange_iff]
  constructor
  · intro within
    rw [if_pos within]
  · intro beyond
    rw [if_neg beyond]

theorem secondsShown_mono {a b : Int} (le : a ≤ b) : secondsShown a ≤ secondsShown b := by
  unfold secondsShown
  have : rounded (a / 1000) ≤ rounded (b / 1000) := rounded_mono (by gcongr)
  gcongr

/-- A whole millisecond is not rounded to zero. -/
theorem rounded_pos {milliseconds : Int} (pos : 0 < milliseconds) :
    0 < rounded (milliseconds / 1000) := by
  have digit : Representable (2 ^ (-10 : Int)) := ⟨1, -10, by norm_num, by decide, by norm_num⟩
  have one : (1 : Rat) ≤ milliseconds := by exact_mod_cast pos
  have above : (2 : Rat) ^ (-10 : Int) ≤ milliseconds / 1000 := by
    norm_num
    linarith
  have kept := rounded_mono above
  rw [digit.rounded_eq] at kept
  exact lt_of_lt_of_le (by norm_num) kept

theorem secondsShown_eq_zero_iff (milliseconds : Int) :
    secondsShown milliseconds = 0 ↔ milliseconds ≤ 0 := by
  rw [secondsShown, max_eq_left_iff, Int.ceil_le, Int.cast_zero]
  constructor
  · intro le
    by_contra pos
    exact absurd le (not_le.2 (rounded_pos (not_le.1 pos)))
  · intro passed
    have le : (milliseconds / 1000 : Rat) ≤ 0 :=
      div_nonpos_of_nonpos_of_nonneg (by exact_mod_cast passed) (by norm_num)
    simpa using rounded_mono le

/-- Up to `2 ^ 53` milliseconds the last digit of the quotient is so small that half of it is
less than a thousandth: rounding does not reach the integer below. -/
theorem ceil_rounded {milliseconds : Int} (pos : 0 < milliseconds)
    (bound : milliseconds ≤ 2 ^ 53) :
    ⌈rounded (milliseconds / 1000)⌉ = ⌈(milliseconds / 1000 : Rat)⌉ := by
  have one : (1 : Rat) ≤ milliseconds := by exact_mod_cast pos
  have most : (milliseconds : Rat) ≤ 2 ^ 53 := by exact_mod_cast bound
  generalize next : ⌈(milliseconds / 1000 : Rat)⌉ = seconds
  obtain ⟨above, below⟩ := Int.ceil_eq_iff.1 next
  have whole : Representable seconds := by
    have nonneg : 0 ≤ seconds := by
      have : (-1 : Rat) < seconds := by linarith
      exact_mod_cast this
    have small : seconds < 2 ^ 53 := by
      have : (seconds : Rat) < 2 ^ 53 := by linarith
      exact_mod_cast this
    exact ⟨seconds, 0, by rwa [abs_of_nonneg nonneg], by decide, by simp⟩
  have last : lastExponent (milliseconds / 1000) ≤ -9 := by
    have size : |(milliseconds / 1000 : Rat)| < (2 : Nat) ^ (44 : Int) := by
      rw [abs_of_pos (by positivity)]
      norm_num
      linarith
    have log := (Int.lt_zpow_iff_log_lt one_lt_two (by positivity)).1 size
    unfold lastExponent minExponent
    omega
  have error : |rounded (milliseconds / 1000) - milliseconds / 1000| < 1 / 1000 := by
    have unit : (2 : Rat) ^ lastExponent (milliseconds / 1000) ≤ 2 ^ (-9 : Int) :=
      zpow_le_zpow_right₀ one_le_two last
    norm_num at unit
    linarith [abs_rounded_sub_le (milliseconds / 1000)]
  have clear : (seconds : Rat) - 1 + 1 / 1000 ≤ milliseconds / 1000 := by
    have less : (seconds - 1) * 1000 < milliseconds := by
      have : ((seconds : Rat) - 1) * 1000 < milliseconds := by linarith
      exact_mod_cast this
    have : ((seconds : Rat) - 1) * 1000 + 1 ≤ milliseconds := by exact_mod_cast less
    linarith
  refine Int.ceil_eq_iff.2 ⟨?_, ?_⟩
  · linarith [(abs_lt.1 error).1]
  · rw [← whole.rounded_eq]
    exact rounded_mono below

theorem secondsShown_eq {milliseconds : Int} (bound : milliseconds ≤ 2 ^ 53) :
    secondsShown milliseconds = max 0 ⌈(milliseconds / 1000 : Rat)⌉ := by
  rcases le_or_gt milliseconds 0 with passed | pos
  · have le : (milliseconds / 1000 : Rat) ≤ 0 :=
      div_nonpos_of_nonpos_of_nonneg (by exact_mod_cast passed) (by norm_num)
    rw [(secondsShown_eq_zero_iff milliseconds).2 passed, max_eq_left]
    exact Int.ceil_le.2 (by simpa using le)
  · rw [secondsShown, ceil_rounded pos bound]

/-! ## Deadlines -/

section

variable {c : Connection} {attempts : Nat} {deadline : Int}

theorem secondsUntilRetry_eq (waiting : c.reconnect = .retrying attempts (some deadline))
    (now : Int) :
    (QuotientInRange (deadline - now) →
      c.secondsUntilRetry now = .ok (secondsShown (deadline - now))) ∧
      (¬QuotientInRange (deadline - now) →
        c.secondsUntilRetry now = .error .quotientOverflow) := by
  obtain ⟨within, beyond⟩ := wholeSeconds_eq (deadline - now)
  have read : c.secondsUntilRetry now = (max 0 ·) <$> wholeSeconds (deadline - now) := by
    rw [secondsUntilRetry, waiting]
    rfl
  rw [read]
  constructor
  · intro h
    rw [within h]
    rfl
  · intro h
    rw [beyond h]
    rfl

theorem poll_fires_iff_le (waiting : c.reconnect = .retrying attempts (some deadline))
    (now : Int) : (c.poll now).2 = some (attempts + 1) ↔ deadline ≤ now := by
  have due : c.isDue now = decide (deadline ≤ now) := by
    rw [isDue, waiting]
    rfl
  have number : c.reconnect.attempt = attempts := by
    rw [waiting]
    rfl
  rw [poll, due, number]
  by_cases passed : deadline ≤ now <;> simp [passed]

end

/-- While an attempt is waited for, the countdown can be shown exactly as long as the quotient of
the milliseconds up to the deadline is in the range of binary64 numbers. What it shows is the
ceiling of the quotient as correctly rounded, or zero for a negative one: it is never negative,
it is zero exactly if a poll makes the attempt, it does not increase as time goes on, and up to
`2 ^ 53` milliseconds it is the ceiling of the exact quotient. -/
theorem countdown_agrees_with_poll (c : Connection) {attempts : Nat} {deadline : Int}
    (waiting : c.reconnect = .retrying attempts (some deadline)) (now : Int) :
    (c.secondsUntilRetry now = .error .quotientOverflow ↔ ¬QuotientInRange (deadline - now)) ∧
    (QuotientInRange (deadline - now) → ∃ seconds, c.secondsUntilRetry now = .ok seconds ∧
      0 ≤ seconds ∧
      (seconds = 0 ↔ (c.poll now).2 = some (attempts + 1)) ∧
      (∀ later less, now ≤ later → c.secondsUntilRetry later = .ok less → less ≤ seconds) ∧
      (∃ quotient, CorrectlyRounded ((deadline - now : Int) / 1000) quotient ∧
        seconds = max 0 ⌈quotient⌉) ∧
      (deadline - now ≤ 2 ^ 53 → seconds = max 0 ⌈((deadline - now : Int) / 1000 : Rat)⌉)) := by
  have shown := secondsUntilRetry_eq waiting
  constructor
  · by_cases within : QuotientInRange (deadline - now)
    · simp [(shown now).1 within, within]
    · simp [(shown now).2 within, within]
  intro within
  refine ⟨secondsShown (deadline - now), (shown now).1 within, le_max_left _ _, ?_, ?_,
    ⟨_, correctlyRounded_rounded _, rfl⟩, secondsShown_eq⟩
  · rw [secondsShown_eq_zero_iff, poll_fires_iff_le waiting]
    omega
  · intro later less passes answers
    by_cases within' : QuotientInRange (deadline - later)
    · rw [(shown later).1 within', Except.ok.injEq] at answers
      rw [← answers]
      exact secondsShown_mono (by omega)
    · rw [(shown later).2 within'] at answers
      cases answers

/-- Two to the power of 53 milliseconds are left, and then none. -/
theorem countdown_of_long_wait :
    let c : Connection := { reconnect := .retrying 2 (some 9007199254740997) }
    c.reconnect = .retrying 2 (some 9007199254740997) ∧
    QuotientInRange (9007199254740997 - 5) ∧
    c.secondsUntilRetry 5 = .ok 9007199254741 ∧ (c.poll 5).2 = none ∧
    QuotientInRange (9007199254740997 - 9007199254740997) ∧
    c.secondsUntilRetry 9007199254740997 = .ok 0 ∧ (c.poll 9007199254740997).2 = some 3 := by
  intro c
  have waiting : c.reconnect = .retrying 2 (some 9007199254740997) := rfl
  have early : QuotientInRange (9007199254740997 - 5) := by decide +kernel
  have late : QuotientInRange (9007199254740997 - 9007199254740997) := by decide +kernel
  obtain ⟨seconds, left, -, -, -, -, exactly⟩ := (countdown_agrees_with_poll c waiting 5).2 early
  obtain ⟨zero, none, -, fires, -⟩ :=
    (countdown_agrees_with_poll c waiting 9007199254740997).2 late
  have count : seconds = 9007199254741 := by
    rw [exactly (by norm_num)]
    norm_num [Int.ceil_eq_iff]
  have third : (c.poll 9007199254740997).2 = some 3 := by decide
  exact ⟨waiting, early, count ▸ left, by decide, late, fires.2 third ▸ none, third⟩

end VoiceChat.Connection
