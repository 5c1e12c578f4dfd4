import VoiceChat.User

/-!
# Channels

The channels a server lists. The lobby is never listed and always exists.
-/

namespace VoiceChat

/-- The channel everybody is in who is in no other. -/
def lobby : Int := 0

/-- A channel of the server; no limit or a limit of zero admits everybody. -/
structure Channel where
  id : Int
  name : Text
  maxUsers : Option Nat := none
deriving DecidableEq, Repr

namespace Channel

def ofFields (fields : Fields) : Decoded Channel :=
  Channel.mk <$> Decode.required fields "id" Decode.int
    <*> Decode.required fields "name" Decode.string
    <*> Decode.withDefault fields "max_users" (Decode.nullable Decode.natural) none

def decode : Json → Decoded Channel := Decode.record "Channel" ofFields

def encode (channel : Channel) : Json :=
  .obj [("id", .int channel.id), ("name", .ofText channel.name),
    ("max_users", Json.ofOption (fun (n : Nat) => .int n) channel.maxUsers)]

end Channel

end VoiceChat
