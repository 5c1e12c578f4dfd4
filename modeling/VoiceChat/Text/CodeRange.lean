/-!
# Ranges of characters

Sets of characters written as the inclusive ranges of their code points.
-/

namespace VoiceChat.Text

/-- Membership of a character in a list of inclusive ranges of code points. -/
def inRanges (ranges : List (Nat × Nat)) (c : Char) : Bool :=
  ranges.any fun r => r.1 ≤ c.toNat ∧ c.toNat ≤ r.2

end VoiceChat.Text
