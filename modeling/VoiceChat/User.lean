import VoiceChat.Decode.Record

/-!
# Users

Users as the server lists them, and rows of its roster, which also carry the
channel a user is in.
-/

namespace VoiceChat

/-- What a user may do on the server. -/
inductive Role where
  | owner
  | admin
  | moderator
  | user
deriving DecidableEq, Repr

namespace Role

def name : Role → String
  | owner => "OWNER"
  | admin => "ADMIN"
  | moderator => "MODERATOR"
  | user => "USER"

def all : List Role := [owner, admin, moderator, user]

def ofName? (chars : String) : Option Role := all.find? fun role => role.name = chars

def decode (v : Json) : Decoded Role :=
  match v with
  | .str chars =>
    match ofName? chars with
    | some role => .value role
    | none => .fail .unknownRole v
  | .unpaired _ => .fail .unpairedSurrogate v
  | _ => .fail .unknownRole v

def encode (role : Role) : Json := .str role.name

end Role

/-- A user of the server. -/
structure User where
  id : Int
  username : Text
  role : Option Role := none
deriving DecidableEq, Repr

/-- A row of the roster: a user and, where the server says so, the user's channel. -/
structure RosterEntry extends User where
  channelId : Option Int := none
deriving DecidableEq, Repr

/-- The value of `encode` on what is there, null otherwise. -/
def Json.ofOption {α : Type} (encode : α → Json) : Option α → Json
  | some a => encode a
  | none => .null

namespace User

def ofFields (fields : Fields) : Decoded User :=
  User.mk <$> Decode.required fields "id" Decode.int
    <*> Decode.required fields "username" Decode.string
    <*> Decode.withDefault fields "role" (Decode.nullable Role.decode) none

def decode : Json → Decoded User := Decode.record "User" ofFields

def toFields (user : User) : Fields :=
  [("id", .int user.id), ("username", .ofText user.username),
    ("role", Json.ofOption Role.encode user.role)]

def encode (user : User) : Json := .obj user.toFields

end User

namespace RosterEntry

def ofFields (fields : Fields) : Decoded RosterEntry :=
  RosterEntry.mk <$> User.ofFields fields
    <*> Decode.withDefault fields "channel_id" (Decode.nullable Decode.int) none

def decode : Json → Decoded RosterEntry := Decode.record "RosterEntry" ofFields

def encode (entry : RosterEntry) : Json :=
  .obj (entry.toUser.toFields ++ [("channel_id", Json.ofOption Json.int entry.channelId)])

end RosterEntry

end VoiceChat
