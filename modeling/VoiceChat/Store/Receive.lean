import VoiceChat.Event
import VoiceChat.Store

/-!
# Events in a store

What an event from a server does to the store of that server. `viewed` is the
channel on screen, whose new messages do not count as unread, and `now` the
clock reading in Unix milliseconds. Kicks and losses concern the connection
and leave the store as it is.
-/

namespace VoiceChat

/-- The file that a post carries, if it names one. -/
def Post.attachment? (post : Post) : Option Attachment :=
  if (post.fileId.getD 0 ≠ 0) ∨ (post.fileUrl.getD "" ≠ "") then
    some
      { fileId := post.fileId
        url := post.fileUrl.getD ""
        name := post.fileName.getD ""
        size := post.fileSize.getD 0 }
  else none

/-- The message that a post becomes. -/
def Post.toMessage (post : Post) : Message where
  msgId := post.msgId
  senderId := post.senderId
  username := post.username
  text := post.text
  ts := post.ts
  channelId := post.channelId
  mentions := IntSet.ofList post.mentions
  attachment := post.attachment?
  replyTo := post.replyTo
  replyPreview := post.replyPreview
  system := post.system

namespace Store

/-- Narrate in the lobby, where narration is wanted. -/
def announce (settings : Settings) (now : Int) (text : Text) (s : Store) : Store :=
  if settings.systemMessages then s.narrate settings lobby text now else s

/-- A new roster, with the channels that its rows report. -/
def replaceRoster (entries : List RosterEntry) (s : Store) : Store :=
  s.replaceUsers (entries.map RosterEntry.toUser)
    (Table.ofList (entries.filterMap fun entry => entry.channelId.map (entry.id, ·)))

/-- A post: a new one counts as unread unless its channel is on screen. -/
def post (settings : Settings) (viewed : Int) (post : Post) (s : Store) : Store :=
  let delivered := s.deliver settings post.toMessage
  if delivered.2 ∧ post.channelId ≠ viewed then delivered.1.countUnread post.channelId
  else delivered.1

/-- A user who leaves; only a known one is narrated. -/
def leave (settings : Settings) (now id : Int) (s : Store) : Store :=
  match s.users.get? id with
  | some user => (s.removeUser id).announce settings now (user.username ++ " left")
  | none => s.removeUser id

/-- A typing signal; one's own is not shown. -/
def noteSignal (settings : Settings) (now userId : Int) (username : Text) (channelId : Int)
    (s : Store) : Store :=
  if s.selfId = some userId then s
  else s.noteTyping userId { userId, username, channelId, expiresAt := now + settings.typingTtlMs }

/-- What an event does to the store of its server. -/
def receive (settings : Settings) (viewed now : Int) (body : Event.Body) (s : Store) : Store :=
  match body with
  | .rosterReplaced users => s.replaceRoster users
  | .userJoined id username role =>
    (s.upsertUser { id, username, role }).announce settings now (username ++ " joined")
  | .userLeft id => s.leave settings now id
  | .userRenamed id username => s.renameUser id username
  | .serverNamed name => { s with serverName := name }
  | .ownerChanged ownerId => { s with ownerId := some ownerId }
  | .selfIdentified id => { s with selfId := some id }
  | .chatPosted post => s.post settings viewed post
  | .chatEdited msgId text ts => s.modifyMessage msgId (·.edit text ts)
  | .chatDeleted msgId => s.modifyMessage msgId Message.delete
  | .reactionAdded msgId emoji userId => s.modifyMessage msgId (·.react emoji userId)
  | .reactionRemoved msgId emoji userId => s.modifyMessage msgId (·.unreact emoji userId)
  | .messagePinned msgId _ _ => s.modifyMessage msgId fun m => { m with pinned := true }
  | .messageUnpinned msgId => s.modifyMessage msgId fun m => { m with pinned := false }
  | .linkPreviewed msgId _ preview =>
    s.modifyMessage msgId fun m => { m with linkPreview := some preview }
  | .typingSignalled userId username channelId =>
    s.noteSignal settings now userId username channelId
  | .channelsListed channels => { s with channels }
  | .memberMoved userId channelId => s.moveUser userId channelId
  | .speaking userId => s.noteSpeaking userId (now + settings.speakingTtlMs)
  | .videoChanged userId active screenShare => s.setVideo userId active screenShare none
  | .videoLayersOffered userId layers => s.setVideoLayers userId layers
  | .recordingChanged channelId recording startedBy => s.setRecording channelId recording startedBy
  | .kicked => s
  | .connectionLost _ => s

end Store

end VoiceChat
