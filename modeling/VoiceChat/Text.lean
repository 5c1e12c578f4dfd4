/-!
# Texts

A text is a sequence of code points. Nearly every text is a string of characters; one that
holds half of a surrogate pair is not, and is kept by its code points. Two texts are equal exactly
when their code points are (`ofCodes_codes`, `codes_ofCodes`), and what is put together has the
code points of its parts (`codes_append`).
-/

namespace VoiceChat

/-- A code point, the halves of surrogate pairs included. -/
abbrev CodePoint := Fin 0x110000

namespace CodePoint

def isHighSurrogate (code : CodePoint) : Bool := 0xd800 ≤ code.val ∧ code.val < 0xdc00

def isLowSurrogate (code : CodePoint) : Bool := 0xdc00 ≤ code.val ∧ code.val < 0xe000

def isSurrogate (code : CodePoint) : Bool := code.isHighSurrogate || code.isLowSurrogate

/-- The code point of a number in range; a greater number starts over. -/
def ofNat (n : Nat) : CodePoint := ⟨n % 0x110000, Nat.mod_lt n (Nat.succ_pos _)⟩

def ofChar (c : Char) : CodePoint := ofNat c.toNat

/-- The character at a code point that is no surrogate. -/
def toChar (code : CodePoint) : Char := Char.ofNat code.val

theorem isSurrogate_iff {code : CodePoint} :
    code.isSurrogate = true ↔ 0xd800 ≤ code.val ∧ code.val < 0xe000 := by
  simp only [isSurrogate, isHighSurrogate, isLowSurrogate, Bool.or_eq_true, decide_eq_true_eq]
  omega

theorem val_ofChar (c : Char) : (ofChar c).val = c.toNat := by
  have valid : c.toNat < 0x110000 := by
    rcases c.valid with low | ⟨-, high⟩
    · exact Nat.lt_trans low (by decide)
    · exact high
  exact Nat.mod_eq_of_lt valid

theorem isSurrogate_ofChar (c : Char) : (ofChar c).isSurrogate = false := by
  rw [← Bool.not_eq_true, isSurrogate_iff, val_ofChar]
  rcases c.valid with low | ⟨high, -⟩
  · have : c.toNat < 0xd800 := low
    omega
  · have : 0xdfff < c.toNat := high
    omega

@[simp] theorem toChar_ofChar (c : Char) : (ofChar c).toChar = c := by
  rw [toChar, val_ofChar, Char.ofNat_toNat]

theorem ofChar_toChar {code : CodePoint} (h : code.isSurrogate = false) :
    ofChar code.toChar = code := by
  have valid : code.val.isValidChar := by
    rw [← Bool.not_eq_true, isSurrogate_iff] at h
    rcases Nat.lt_or_ge code.val 0xd800 with low | high
    · exact .inl low
    · exact .inr ⟨by omega, code.isLt⟩
  apply Fin.ext
  rw [val_ofChar, toChar, Char.ofNat, dif_pos valid]
  rfl

end CodePoint

/-- Code points with half of a surrogate pair among them. -/
structure Unpaired where
  codes : List CodePoint
  broken : codes.any CodePoint.isSurrogate = true
deriving DecidableEq, Repr

/-- A text. -/
inductive Text where
  | ofString (chars : String)
  | unpaired (half : Unpaired)
deriving DecidableEq, Repr

namespace Text

instance : Coe String Text := ⟨ofString⟩

instance : Inhabited Text := ⟨""⟩

def codes : Text → List CodePoint
  | ofString chars => chars.toList.map CodePoint.ofChar
  | unpaired half => half.codes

def ofCodes (codes : List CodePoint) : Text :=
  if broken : codes.any CodePoint.isSurrogate = true then unpaired ⟨codes, broken⟩
  else ofString (String.ofList (codes.map CodePoint.toChar))

/-- One text after another; halves that come to stand side by side remain halves. -/
def append : Text → Text → Text
  | ofString chars, ofString more => ofString (chars ++ more)
  | text, more => ofCodes (text.codes ++ more.codes)

instance : Append Text := ⟨append⟩

/-- What is shown of a text: replacement characters for each half of a surrogate pair, one for
every byte that it would take. -/
def shown : Text → String
  | ofString chars => chars
  | unpaired half => String.ofList (half.codes.flatMap fun code =>
      if code.isSurrogate then ['\ufffd', '\ufffd', '\ufffd'] else [code.toChar])

@[simp] theorem shown_ofString (chars : String) : (ofString chars).shown = chars := rfl

theorem ofString_append (chars more : String) :
    ofString chars ++ ofString more = ofString (chars ++ more) := rfl

@[simp] theorem ofCodes_codes (text : Text) : ofCodes text.codes = text := by
  cases text with
  | ofString chars =>
    have whole : (chars.toList.map CodePoint.ofChar).any CodePoint.isSurrogate = false := by
      simp [CodePoint.isSurrogate_ofChar]
    have back : CodePoint.toChar ∘ CodePoint.ofChar = id := funext CodePoint.toChar_ofChar
    simp [ofCodes, codes, whole, back]
  | unpaired half => exact dif_pos half.broken

@[simp] theorem codes_ofCodes (codes : List CodePoint) : (ofCodes codes).codes = codes := by
  by_cases broken : codes.any CodePoint.isSurrogate = true
  · rw [ofCodes, dif_pos broken, Text.codes]
  · have kept : ∀ code ∈ codes, CodePoint.ofChar code.toChar = code := by
      intro code mem
      apply CodePoint.ofChar_toChar
      rw [← Bool.not_eq_true]
      exact fun half => broken (List.any_eq_true.2 ⟨code, mem, half⟩)
    rw [ofCodes, dif_neg broken, Text.codes, String.toList_ofList, List.map_map]
    exact (List.map_congr_left kept).trans (List.map_id _)

/-- What is put together has the code points of its parts. -/
theorem codes_append (text more : Text) : (text ++ more).codes = text.codes ++ more.codes := by
  cases text with
  | ofString chars =>
    cases more with
    | ofString more => simp [ofString_append, codes]
    | unpaired half => exact codes_ofCodes _
  | unpaired half => exact codes_ofCodes _

end Text

end VoiceChat
