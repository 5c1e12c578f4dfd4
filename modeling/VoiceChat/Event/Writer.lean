import VoiceChat.Event

/-!
# Writing events

Every field of an event under the name by which it is read: the server first,
then the tag, then the fields of its kind.
-/

namespace VoiceChat.Event

def listOf {α : Type} (encode : α → Json) (items : List α) : Json := .arr (items.map encode)

/-- The fields of a delivered message. -/
def postFields (post : Post) : Fields :=
  [("msg_id", .int post.msgId), ("sender_id", .int post.senderId),
    ("username", .ofText post.username), ("message", .ofText post.text), ("ts", .int post.ts),
    ("channel_id", .int post.channelId), ("file_id", Json.ofOption Json.int post.fileId),
    ("file_name", Json.ofOption Json.ofText post.fileName),
    ("file_size", Json.ofOption Json.int post.fileSize),
    ("file_url", Json.ofOption Json.ofText post.fileUrl),
    ("mentions", listOf Json.int post.mentions),
    ("reply_to", Json.ofOption Json.int post.replyTo),
    ("reply_preview", Json.ofOption ReplyPreview.encode post.replyPreview),
    ("system", .bool post.system)]

/-- The fields that belong to the kind of an event. -/
def bodyFields : Body → Fields
  | .rosterReplaced users => [("users", listOf RosterEntry.encode users)]
  | .userJoined id username role =>
    [("id", .int id), ("username", .ofText username), ("role", Json.ofOption Role.encode role)]
  | .userLeft id => [("id", .int id)]
  | .userRenamed id username => [("id", .int id), ("username", .ofText username)]
  | .serverNamed name => [("name", .ofText name)]
  | .ownerChanged ownerId => [("owner_id", .int ownerId)]
  | .selfIdentified id => [("id", .int id)]
  | .chatPosted post => postFields post
  | .chatEdited msgId text ts =>
    [("msg_id", .int msgId), ("message", .ofText text), ("ts", .int ts)]
  | .chatDeleted msgId => [("msg_id", .int msgId)]
  | .reactionAdded msgId emoji userId =>
    [("msg_id", .int msgId), ("emoji", .ofText emoji), ("id", .int userId)]
  | .reactionRemoved msgId emoji userId =>
    [("msg_id", .int msgId), ("emoji", .ofText emoji), ("id", .int userId)]
  | .messagePinned msgId channelId userId =>
    [("msg_id", .int msgId), ("channel_id", .int channelId), ("id", .int userId)]
  | .messageUnpinned msgId => [("msg_id", .int msgId)]
  | .linkPreviewed msgId channelId preview =>
    [("msg_id", .int msgId), ("channel_id", .int channelId)] ++ preview.toFields
  | .typingSignalled userId username channelId =>
    [("id", .int userId), ("username", .ofText username), ("channel_id", .int channelId)]
  | .channelsListed channels => [("channels", listOf Channel.encode channels)]
  | .memberMoved userId channelId => [("user_id", .int userId), ("channel_id", .int channelId)]
  | .speaking userId => [("id", .int userId)]
  | .videoChanged userId active screenShare =>
    [("id", .int userId), ("video_active", .bool active), ("screen_share", .bool screenShare)]
  | .videoLayersOffered userId layers =>
    [("id", .int userId), ("layers", listOf VideoLayer.encode layers)]
  | .recordingChanged channelId recording startedBy =>
    [("channel_id", .int channelId), ("recording", .bool recording),
      ("started_by", .ofText startedBy)]
  | .kicked => []
  | .connectionLost reason => [("reason", .ofText reason)]

/-- The fields of an event. -/
def toFields (event : Event) : Fields :=
  ("server_addr", .ofText event.serverAddr) :: ("type", .str event.body.kind.tag)
    :: bodyFields event.body

end VoiceChat.Event
