import VoiceChat.Json

/-!
# Decoding with complaints

Decoding a foreign value either yields a value of the program or lists every
defect found, in order, each with the path to the offending part and with the
value that was found there. `Decoded` is applicative: two parts decoded side by
side report the defects of both.
-/

namespace VoiceChat

/-- What can be wrong with one part of a foreign value. -/
inductive Defect where
  | missing
  | notInteger
  | unreadableInteger
  | fractionalInteger
  | infiniteInteger
  | oversizedInteger
  | notBoolean
  | unreadableBoolean
  | notString
  | emptyString
  /-- Half of a surrogate pair, where characters were expected. -/
  | unpairedSurrogate
  | unknownRole
  | negative
  | notList
  | notSet
  | notDictionary
  /-- Not an object, where the record `name` was expected. -/
  | notRecord (name : String)
  | unreadableNumber
  | unexpectedField
  | untagged
  /-- The tag is none of those expected. -/
  | unknownTag (tag : String) (expected : List String)
deriving DecidableEq, Repr

namespace Defect

/-- The short code by which a defect is reported. -/
def code : Defect → String
  | missing => "missing"
  | notInteger => "int_type"
  | unreadableInteger => "int_parsing"
  | fractionalInteger => "int_from_float"
  | infiniteInteger => "finite_number"
  | oversizedInteger => "int_parsing_size"
  | notBoolean => "bool_type"
  | unreadableBoolean => "bool_parsing"
  | notString => "string_type"
  | emptyString => "string_too_short"
  | unpairedSurrogate => "string_unicode"
  | unknownRole => "literal_error"
  | negative => "greater_than_equal"
  | notList => "list_type"
  | notSet => "set_type"
  | notDictionary => "dict_type"
  | notRecord _ => "model_type"
  | unreadableNumber => "float_parsing"
  | unexpectedField => "extra_forbidden"
  | untagged => "union_tag_not_found"
  | unknownTag .. => "union_tag_invalid"

/-- The sentence that explains a defect. -/
def message : Defect → String
  | missing => "Field required"
  | notInteger => "Input should be a valid integer"
  | unreadableInteger => "Input should be a valid integer, unable to parse string as an integer"
  | fractionalInteger =>
    "Input should be a valid integer, got a number with a fractional part"
  | infiniteInteger => "Input should be a finite number"
  | oversizedInteger => "Unable to parse input string as an integer, exceeded maximum size"
  | notBoolean => "Input should be a valid boolean"
  | unreadableBoolean => "Input should be a valid boolean, unable to interpret input"
  | notString => "Input should be a valid string"
  | emptyString => "String should have at least 1 character"
  | unpairedSurrogate =>
    "Input should be a valid string, unable to parse raw data as a unicode string"
  | unknownRole => "Input should be 'OWNER', 'ADMIN', 'MODERATOR' or 'USER'"
  | negative => "Input should be greater than or equal to 0"
  | notList => "Input should be a valid list"
  | notSet => "Input should be a valid set"
  | notDictionary => "Input should be a valid dictionary"
  | notRecord name => "Input should be a valid dictionary or instance of " ++ name
  | unreadableNumber => "Input should be a valid number, unable to parse string as a number"
  | unexpectedField => "Extra inputs are not permitted"
  | untagged => "Unable to extract tag using discriminator 'type'"
  | unknownTag tag expected =>
    "Input tag '" ++ tag ++ "' found using 'type' does not match any of the expected tags: "
      ++ ", ".intercalate (expected.map fun t => "'" ++ t ++ "'")

end Defect

/-- One step of the way to a part of a value. -/
inductive PathStep where
  | field (name : String)
  | index (position : Nat)
deriving DecidableEq, Repr

/-- A defect, the path to the part that has it, and what was found. -/
structure Issue where
  path : List PathStep
  defect : Defect
  /-- The offending value; of a missing field, the object that it is missing from. -/
  input : Json

/-- A decoded value, or the issues that kept it from being one. -/
inductive Decoded (α : Type) where
  | value (a : α)
  | issues (found : List Issue)

namespace Decoded

variable {α β : Type}

def map (f : α → β) : Decoded α → Decoded β
  | value a => value (f a)
  | issues found => issues found

/-- Apply a decoded function to a decoded argument; the issues of both are kept. -/
def seq (f : Decoded (α → β)) (a : Decoded α) : Decoded β :=
  match f, a with
  | value f, value a => value (f a)
  | value _, issues found => issues found
  | issues found, value _ => issues found
  | issues found, issues more => issues (found ++ more)

instance : Applicative Decoded where
  pure := value
  map := map
  seq f a := f.seq (a ())

/-- A single defect of the value itself. -/
def fail (defect : Defect) (input : Json) : Decoded α := issues [⟨[], defect, input⟩]

/-- The same outcome for a part found under `step`. -/
def under (step : PathStep) : Decoded α → Decoded α
  | value a => value a
  | issues found => issues (found.map fun issue => { issue with path := step :: issue.path })

/-- Every item decoded, with the issues of all of them. -/
def all (decode : α → Decoded β) : Nat → List α → Decoded (List β)
  | _, [] => value []
  | position, item :: items =>
    List.cons <$> (decode item).under (.index position) <*> all decode (position + 1) items

@[simp] theorem map_value (f : α → β) (a : α) : f <$> value a = value (f a) := rfl

@[simp] theorem map_issues (f : α → β) (found : List Issue) :
    f <$> issues found = issues found := rfl

@[simp] theorem seq_value (f : α → β) (a : α) : value f <*> value a = value (f a) := rfl

@[simp] theorem under_value (step : PathStep) (a : α) : (value a).under step = value a := rfl

/-- Two parts decoded side by side yield a value exactly when both do. -/
theorem seq_eq_value_iff {f : Decoded (α → β)} {a : Decoded α} {b : β} :
    f <*> a = value b ↔ ∃ g x, f = value g ∧ a = value x ∧ g x = b := by
  change f.seq a = value b ↔ _
  cases f <;> cases a <;> simp [seq]

theorem map_eq_value_iff {f : α → β} {a : Decoded α} {b : β} :
    f <$> a = value b ↔ ∃ x, a = value x ∧ f x = b := by
  change a.map f = value b ↔ _
  cases a <;> simp [map]

theorem under_eq_value_iff {step : PathStep} {d : Decoded α} {a : α} :
    d.under step = value a ↔ d = value a := by
  cases d <;> simp [under]

end Decoded

end VoiceChat
