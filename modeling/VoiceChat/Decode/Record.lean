import VoiceChat.Decode.Scalar
import VoiceChat.IntSet
import VoiceChat.Table

/-!
# Decoding records and collections

Fields are looked up by name, so neither their order nor unknown fields
matter. A field is required, or has a default, or may be null. Lists report
the issues of every item, tables those of every key and value.
-/

namespace VoiceChat.Decode

open Decoded

variable {α β : Type}

/-- The field `name`, decoded under its path. -/
def field (decode : Json → Decoded α) (name : String) (v : Json) : Decoded α :=
  (decode v).under (.field name)

/-- A field that has to be there. -/
def required (fields : Fields) (name : String) (decode : Json → Decoded α) : Decoded α :=
  match fields.get? name with
  | some v => field decode name v
  | none => (fail .missing (.obj fields)).under (.field name)

/-- A field that stands for `default` when absent. -/
def withDefault (fields : Fields) (name : String) (decode : Json → Decoded α) (default : α) :
    Decoded α :=
  match fields.get? name with
  | some v => field decode name v
  | none => value default

/-- Null, or a value. -/
def nullable (decode : Json → Decoded α) : Json → Decoded (Option α)
  | .null => value none
  | v => some <$> decode v

/-- An object read as the record called `name`. -/
def record (name : String) (decode : Fields → Decoded α) : Json → Decoded α
  | .obj fields => decode fields
  | v => fail (.notRecord name) v

def list (decode : Json → Decoded α) : Json → Decoded (List α)
  | .arr items => Decoded.all decode 0 items
  | v => fail .notList v

def intSet : Json → Decoded IntSet
  | .arr items => IntSet.ofList <$> Decoded.all int 0 items
  | v => fail .notSet v

/-- One entry of a table: the issues of its key come before those of its value. -/
def entry (key : Json → Decoded α) (decode : Json → Decoded β) (name : String) (v : Json) :
    Decoded (α × β) :=
  Prod.mk <$> ((key (.str name)).under (.field "[key]")).under (.field name)
    <*> field decode name v

def entries (key : Json → Decoded α) (decode : Json → Decoded β) :
    Fields → Decoded (List (α × β))
  | [] => value []
  | (name, v) :: fields => List.cons <$> entry key decode name v <*> entries key decode fields

/-- An object read as a table; a key written twice keeps its first place and last value. -/
def table [DecidableEq α] (key : Json → Decoded α) (decode : Json → Decoded β) :
    Json → Decoded (Table α β)
  | .obj fields => Table.ofList <$> entries key decode fields
  | v => fail .notDictionary v

end VoiceChat.Decode
