import VoiceChat.Channel
import VoiceChat.Media
import VoiceChat.MessageLog
import VoiceChat.Settings

/-!
# The store of one server

Everything known about a server: its users and where they are, its channels,
the message log, who is typing or speaking, running videos and recordings, and
the unread counts. Every operation is total; an unknown id changes nothing.
-/

namespace VoiceChat

/-- Everything known about a server. -/
structure Store where
  serverName : Text := ""
  ownerId : Option Int := none
  selfId : Option Int := none
  /-- The users by id, in roster order. -/
  users : Table Int User := .empty
  /-- The channel that each user was last reported in. -/
  userChannels : Table Int Int := .empty
  channels : List Channel := []
  log : MessageLog := {}
  typing : Table Int TypingEntry := .empty
  /-- When each speaker's light goes out, in Unix milliseconds. -/
  speaking : Table Int Int := .empty
  /-- The videos that are on, by user. -/
  videos : Table Int VideoState := .empty
  /-- The recordings that are running, by channel. -/
  recordings : Table Int RecordingState := .empty
  unread : Table Int Nat := .empty
deriving DecidableEq

namespace Store

/-! ## Users and membership -/

/-- The channel a user of a new roster is in: the one reported, else the one
known, else the lobby. -/
def seat (reported : Table Int Int) (seats : Table Int Int) (user : User) : Table Int Int :=
  match reported.get? user.id with
  | some channel => seats.insert user.id channel
  | none => seats.insertNew user.id lobby

/-- Replace the roster. The channels of users who are not listed are kept. -/
def replaceUsers (users : List User) (reported : Table Int Int) (s : Store) : Store :=
  { s with
    users := Table.ofList (users.map fun user => (user.id, user))
    userChannels := users.foldl (seat reported) s.userChannels }

def upsertUser (user : User) (s : Store) : Store :=
  { s with
    users := s.users.insert user.id user
    userChannels := s.userChannels.insertNew user.id lobby }

def removeUser (id : Int) (s : Store) : Store :=
  { s with users := s.users.erase id, userChannels := s.userChannels.erase id }

def renameUser (id : Int) (username : Text) (s : Store) : Store :=
  { s with users := s.users.modify id fun user => { user with username } }

def moveUser (id channel : Int) (s : Store) : Store :=
  { s with userChannels := s.userChannels.insert id channel }

def channelOf (s : Store) (id : Int) : Int := (s.userChannels.get? id).getD lobby

/-! ## Channels -/

def hasChannel (s : Store) (id : Int) : Bool := id = lobby ∨ s.channels.any (·.id = id)

/-- The name of a channel. The lobby has its configured name unless it is listed. -/
def channelName? (settings : Settings) (s : Store) (id : Int) : Option Text :=
  match s.channels.find? (·.id = id) with
  | some channel => some channel.name
  | none => if id = lobby then some settings.lobbyName else none

/-! ## Messages -/

def modifyMessage (id : Int) (f : Message → Message) (s : Store) : Store :=
  { s with log := s.log.modify id f }

/-- Take in a message, and say whether it is new. -/
def deliver (settings : Settings) (message : Message) (s : Store) : Store × Bool :=
  let delivered := s.log.deliver settings.maxMessagesPerChannel message
  ({ s with log := delivered.1 }, delivered.2)

/-- Add a line of narration to a channel. -/
def narrate (settings : Settings) (channel : Int) (text : Text) (ts : Int) (s : Store) : Store :=
  { s with log := s.log.narrate settings.maxMessagesPerChannel channel text ts }

/-! ## Indicators -/

/-- File a typing notice under the id `id`. -/
def noteTyping (id : Int) (entry : TypingEntry) (s : Store) : Store :=
  { s with typing := s.typing.insert id entry }

def noteSpeaking (id expiresAt : Int) (s : Store) : Store :=
  { s with speaking := s.speaking.insert id expiresAt }

/-- The notices to show in a channel: not expired and not filed under `self`, or
under the id that is known to be one's own. -/
def visibleTyping (s : Store) (now channel : Int) (self : Option Int := none) :
    Table Int TypingEntry :=
  s.typing.filter fun id entry =>
    now < entry.expiresAt ∧ entry.channelId = channel ∧ some id ≠ self.or s.selfId

/-- The users whose light has not gone out. -/
def speakers (s : Store) (now : Int) : IntSet :=
  IntSet.ofList (s.speaking.filter fun _ expiresAt => now < expiresAt).keys

/-! ## Video and recording -/

/-- Switch a user's video on or off. The layers last until it goes off, unless
new ones are given. -/
def setVideo (id : Int) (active screenShare : Bool) (layers : Option (List VideoLayer))
    (s : Store) : Store :=
  if active then
    let known := ((s.videos.get? id).map VideoState.layers).getD []
    { s with videos := s.videos.insert id { screenShare, layers := layers.getD known } }
  else { s with videos := s.videos.erase id }

/-- Offer the layers of a video that is on. -/
def setVideoLayers (id : Int) (layers : List VideoLayer) (s : Store) : Store :=
  { s with videos := s.videos.modify id fun video => { video with layers } }

def setRecording (channel : Int) (recording : Bool) (startedBy : Text) (s : Store) : Store :=
  if recording then
    { s with recordings := s.recordings.insert channel { recording := true, startedBy } }
  else { s with recordings := s.recordings.erase channel }

/-! ## Unread counts -/

def unreadOf (s : Store) (channel : Int) : Nat := (s.unread.get? channel).getD 0

def countUnread (channel : Int) (s : Store) : Store :=
  { s with unread := s.unread.insert channel (s.unreadOf channel + 1) }

def resetUnread (channel : Int) (s : Store) : Store :=
  { s with unread := s.unread.insert channel 0 }

end Store

end VoiceChat
