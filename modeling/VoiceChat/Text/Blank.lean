import VoiceChat.Text.CodeRange

/-!
# Blank characters

The characters of the Unicode property White_Space, and trimming by them.
-/

namespace VoiceChat.Text

/-- The code points with the property White_Space, as inclusive ranges. -/
def blankRanges : List (Nat × Nat) :=
  [(0x09, 0x0d), (0x20, 0x20), (0x85, 0x85), (0xa0, 0xa0), (0x1680, 0x1680), (0x2000, 0x200a),
    (0x2028, 0x2029), (0x202f, 0x202f), (0x205f, 0x205f), (0x3000, 0x3000)]

def isBlank (c : Char) : Bool := inRanges blankRanges c

/-- Without the blanks at the end. -/
def trimEnd (blank : Char → Bool) (cs : List Char) : List Char :=
  (cs.reverse.dropWhile blank).reverse

/-- Without the blanks at either end. -/
def trim (cs : List Char) : List Char := trimEnd isBlank (cs.dropWhile isBlank)

end VoiceChat.Text
