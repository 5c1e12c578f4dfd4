import VoiceChat.Channel
import VoiceChat.Media
import VoiceChat.Message

/-!
# Inbound events

The closed set of events that a server session delivers. Each event names the
server it came from; an event without a server belongs to the active one. The
kinds are listed in `Event.Kind.all` in the order in which an unknown tag is
told what was expected.
-/

namespace VoiceChat

/-- A chat message as it is delivered. -/
structure Post where
  msgId : Int
  senderId : Int := 0
  username : Text := ""
  text : Text := ""
  ts : Int := 0
  channelId : Int := 0
  fileId : Option Int := none
  fileName : Option Text := none
  fileSize : Option Int := none
  fileUrl : Option Text := none
  mentions : List Int := []
  replyTo : Option Int := none
  replyPreview : Option ReplyPreview := none
  system : Bool := false
deriving DecidableEq, Repr

namespace Event

/-- What happened. -/
inductive Body where
  | rosterReplaced (users : List RosterEntry)
  | userJoined (id : Int) (username : Text) (role : Option Role)
  | userLeft (id : Int)
  | userRenamed (id : Int) (username : Text)
  | serverNamed (name : Text)
  | ownerChanged (ownerId : Int)
  | selfIdentified (id : Int)
  | chatPosted (post : Post)
  | chatEdited (msgId : Int) (text : Text) (ts : Int)
  | chatDeleted (msgId : Int)
  | reactionAdded (msgId : Int) (emoji : Text) (userId : Int)
  | reactionRemoved (msgId : Int) (emoji : Text) (userId : Int)
  | messagePinned (msgId : Int) (channelId : Int) (userId : Int)
  | messageUnpinned (msgId : Int)
  | linkPreviewed (msgId : Int) (channelId : Int) (preview : LinkPreview)
  | typingSignalled (userId : Int) (username : Text) (channelId : Int)
  | channelsListed (channels : List Channel)
  | memberMoved (userId : Int) (channelId : Int)
  | speaking (userId : Int)
  | videoChanged (userId : Int) (active : Bool) (screenShare : Bool)
  | videoLayersOffered (userId : Int) (layers : List VideoLayer)
  | recordingChanged (channelId : Int) (recording : Bool) (startedBy : Text)
  | kicked
  | connectionLost (reason : Text)
deriving DecidableEq, Repr

/-- The kinds of event. -/
inductive Kind where
  | rosterReplaced
  | userJoined
  | userLeft
  | userRenamed
  | serverNamed
  | ownerChanged
  | selfIdentified
  | chatPosted
  | chatEdited
  | chatDeleted
  | reactionAdded
  | reactionRemoved
  | messagePinned
  | messageUnpinned
  | linkPreviewed
  | typingSignalled
  | channelsListed
  | memberMoved
  | speaking
  | videoChanged
  | videoLayersOffered
  | recordingChanged
  | kicked
  | connectionLost
deriving DecidableEq, Repr

namespace Kind

/-- The tag that an event of this kind carries. -/
def tag : Kind → String
  | rosterReplaced => "user:list"
  | userJoined => "user:joined"
  | userLeft => "user:left"
  | userRenamed => "user:renamed"
  | serverNamed => "server:info"
  | ownerChanged => "room:owner"
  | selfIdentified => "user:me"
  | chatPosted => "chat:message"
  | chatEdited => "chat:message_edited"
  | chatDeleted => "chat:message_deleted"
  | reactionAdded => "chat:reaction_added"
  | reactionRemoved => "chat:reaction_removed"
  | messagePinned => "chat:message_pinned"
  | messageUnpinned => "chat:message_unpinned"
  | linkPreviewed => "chat:link_preview"
  | typingSignalled => "chat:user_typing"
  | channelsListed => "channel:list"
  | memberMoved => "channel:user_moved"
  | speaking => "audio:speaking"
  | videoChanged => "video:state"
  | videoLayersOffered => "video:layers"
  | recordingChanged => "recording:state"
  | kicked => "connection:kicked"
  | connectionLost => "connection:lost"

def all : List Kind :=
  [rosterReplaced, userJoined, userLeft, userRenamed, serverNamed, ownerChanged, selfIdentified,
    chatPosted, chatEdited, chatDeleted, reactionAdded, reactionRemoved, messagePinned,
    messageUnpinned, linkPreviewed, typingSignalled, channelsListed, memberMoved, speaking,
    videoChanged, videoLayersOffered, recordingChanged, kicked, connectionLost]

def ofTag? (chars : String) : Option Kind := all.find? fun kind => kind.tag = chars

end Kind

def Body.kind : Body → Kind
  | .rosterReplaced .. => .rosterReplaced
  | .userJoined .. => .userJoined
  | .userLeft .. => .userLeft
  | .userRenamed .. => .userRenamed
  | .serverNamed .. => .serverNamed
  | .ownerChanged .. => .ownerChanged
  | .selfIdentified .. => .selfIdentified
  | .chatPosted .. => .chatPosted
  | .chatEdited .. => .chatEdited
  | .chatDeleted .. => .chatDeleted
  | .reactionAdded .. => .reactionAdded
  | .reactionRemoved .. => .reactionRemoved
  | .messagePinned .. => .messagePinned
  | .messageUnpinned .. => .messageUnpinned
  | .linkPreviewed .. => .linkPreviewed
  | .typingSignalled .. => .typingSignalled
  | .channelsListed .. => .channelsListed
  | .memberMoved .. => .memberMoved
  | .speaking .. => .speaking
  | .videoChanged .. => .videoChanged
  | .videoLayersOffered .. => .videoLayersOffered
  | .recordingChanged .. => .recordingChanged
  | .kicked => .kicked
  | .connectionLost .. => .connectionLost

end Event

/-- An event and the address of the server it came from, empty for the active one. -/
structure Event where
  serverAddr : Text := ""
  body : Event.Body
deriving DecidableEq, Repr

end VoiceChat
