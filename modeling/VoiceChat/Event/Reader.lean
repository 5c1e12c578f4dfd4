import VoiceChat.Event

/-!
# Reading events

An event arrives as the fields of an object; the field `type` names its kind
and decides which other fields count. Issues are reported under the tag.
-/

namespace VoiceChat.Event

open Decode

/-- The fields of a delivered message. -/
def readPost (fields : Fields) : Decoded Post :=
  Post.mk <$> required fields "msg_id" int
    <*> withDefault fields "sender_id" int 0
    <*> withDefault fields "username" string ""
    <*> withDefault fields "message" string ""
    <*> withDefault fields "ts" int 0
    <*> withDefault fields "channel_id" int 0
    <*> withDefault fields "file_id" (nullable int) none
    <*> withDefault fields "file_name" (nullable string) none
    <*> withDefault fields "file_size" (nullable int) none
    <*> withDefault fields "file_url" (nullable string) none
    <*> withDefault fields "mentions" (list int) []
    <*> withDefault fields "reply_to" (nullable int) none
    <*> withDefault fields "reply_preview" (nullable ReplyPreview.decode) none
    <*> withDefault fields "system" bool false

/-- The fields of an event of a given kind. -/
def readBody (fields : Fields) : Kind → Decoded Body
  | .rosterReplaced =>
    .rosterReplaced <$> withDefault fields "users" (list RosterEntry.decode) []
  | .userJoined =>
    .userJoined <$> required fields "id" int
      <*> required fields "username" string
      <*> withDefault fields "role" (nullable Role.decode) none
  | .userLeft => .userLeft <$> required fields "id" int
  | .userRenamed =>
    .userRenamed <$> required fields "id" int <*> required fields "username" string
  | .serverNamed => .serverNamed <$> required fields "name" string
  | .ownerChanged => .ownerChanged <$> required fields "owner_id" int
  | .selfIdentified => .selfIdentified <$> required fields "id" int
  | .chatPosted => .chatPosted <$> readPost fields
  | .chatEdited =>
    .chatEdited <$> required fields "msg_id" int
      <*> required fields "message" string
      <*> withDefault fields "ts" int 0
  | .chatDeleted => .chatDeleted <$> required fields "msg_id" int
  | .reactionAdded =>
    .reactionAdded <$> required fields "msg_id" int
      <*> required fields "emoji" nonEmptyString
      <*> required fields "id" int
  | .reactionRemoved =>
    .reactionRemoved <$> required fields "msg_id" int
      <*> required fields "emoji" nonEmptyString
      <*> required fields "id" int
  | .messagePinned =>
    .messagePinned <$> required fields "msg_id" int
      <*> withDefault fields "channel_id" int 0
      <*> withDefault fields "id" int 0
  | .messageUnpinned => .messageUnpinned <$> required fields "msg_id" int
  | .linkPreviewed =>
    .linkPreviewed <$> required fields "msg_id" int
      <*> withDefault fields "channel_id" int 0
      <*> LinkPreview.ofFields fields
  | .typingSignalled =>
    .typingSignalled <$> required fields "id" int
      <*> withDefault fields "username" string ""
      <*> withDefault fields "channel_id" int 0
  | .channelsListed => .channelsListed <$> withDefault fields "channels" (list Channel.decode) []
  | .memberMoved =>
    .memberMoved <$> required fields "user_id" int <*> required fields "channel_id" int
  | .speaking => .speaking <$> required fields "id" int
  | .videoChanged =>
    .videoChanged <$> required fields "id" int
      <*> required fields "video_active" bool
      <*> withDefault fields "screen_share" bool false
  | .videoLayersOffered =>
    .videoLayersOffered <$> required fields "id" int
      <*> withDefault fields "layers" (list VideoLayer.decode) []
  | .recordingChanged =>
    .recordingChanged <$> required fields "channel_id" int
      <*> required fields "recording" bool
      <*> withDefault fields "started_by" string ""
  | .kicked => .value .kicked
  | .connectionLost => .connectionLost <$> withDefault fields "reason" string ""

/-- The fields of an event whose kind is known. -/
def readKind (fields : Fields) (kind : Kind) : Decoded Event :=
  Event.mk <$> withDefault fields "server_addr" string "" <*> readBody fields kind

/-- The kind that the field `type` names. -/
def readTag (fields : Fields) : Decoded Kind :=
  match fields.get? "type" with
  | none => .fail .untagged (.obj fields)
  | some (.str chars) =>
    match Kind.ofTag? chars with
    | some kind => .value kind
    | none => .fail (.unknownTag chars (Kind.all.map Kind.tag)) (.obj fields)
  | some v => .fail (.unknownTag v.label (Kind.all.map Kind.tag)) (.obj fields)

/-- Read an event from the fields of an object. -/
def read (fields : Fields) : Decoded Event :=
  match readTag fields with
  | .value kind => (readKind fields kind).under (.field kind.tag)
  | .issues found => .issues found

end VoiceChat.Event
