import VoiceChat.Command
import VoiceChat.Connection.View
import VoiceChat.Event.Reader
import VoiceChat.Store.Receive
import VoiceChat.TurnQueue

/-!
# Sessions

A session holds the store on show, the connection, and the stores that fill up
for servers whose connect is in flight. An event goes to the store of its
server: a staged one if there is one, else the one on show, unless the event
comes from a server that is neither. Of the lifecycle of a connection only the
active server's part counts; that of a staged server shows in the reply to its
connect.
-/

namespace VoiceChat

/-- A command in flight, with what was noted when it was issued. -/
structure Pending where
  ticket : Int
  command : Command
  /-- What the transport was asked to do. -/
  call : Command
  /-- The server that a connect or reconnect was made to. -/
  address : Text
  generation : Nat
  /-- Whether a connect was made to another server than the active one. -/
  switching : Bool
deriving DecidableEq, Repr

/-- The state of a session. -/
structure Session where
  /-- The store on show. -/
  store : Store := {}
  /-- The stores of servers whose connect is in flight. -/
  staged : Table Text Store := .empty
  connection : Connection := {}
  /-- The channel on screen. -/
  viewed : Int := lobby
  lastAddress : Text := ""
  lastUsername : Text := ""
  /-- Commands whose transport call is under way. -/
  calling : List Pending := []
  /-- Commands whose error text is known, waiting for their turn. -/
  queue : TurnQueue (Pending × Text) := {}
deriving DecidableEq

namespace Session

/-! ## Routing -/

/-- Where an event goes. -/
inductive Route where
  | active
  | staged (address : Text)
  | nowhere
deriving DecidableEq, Repr

/-- The route of an event from `server`. Untagged events go to the first
connect's stage while nothing is connected. -/
def route (s : Session) (server : Text) : Route :=
  if server = "" then
    if !s.connection.isConnected ∧ s.staged.contains s.connection.pendingAddress then
      .staged s.connection.pendingAddress
    else .active
  else if s.staged.contains server then .staged server
  else if s.connection.address ≠ "" ∧ server ≠ s.connection.address then .nowhere
  else .active

/-- What an event of the active server does. -/
def receiveActive (settings : Settings) (now : Int) (body : Event.Body) (s : Session) : Session :=
  match body with
  | .kicked =>
    { s with
      connection := s.connection.kicked settings
      store := s.store.announce settings now settings.kickedReason }
  | .connectionLost reason => { s with connection := (s.connection.lose settings reason now).1 }
  | body => { s with store := s.store.receive settings s.viewed now body }

/-- Take in an event. -/
def receive (settings : Settings) (now : Int) (event : Event) (s : Session) : Session :=
  match s.route event.serverAddr with
  | .active => s.receiveActive settings now event.body
  | .staged address =>
    { s with
      staged := s.staged.modify address fun store =>
        store.receive settings s.viewed now event.body }
  | .nowhere => s

/-- Take in an event as it arrives, and say whether it could be read. -/
def receiveFields (settings : Settings) (now : Int) (fields : Fields) (s : Session) :
    Session × Bool :=
  match Event.read fields with
  | .value event => (s.receive settings now event, true)
  | .issues _ => (s, false)

/-! ## The screen and the clock -/

/-- Another channel comes on screen; its unread count starts over. -/
def view (channel : Int) (s : Session) : Session :=
  { s with viewed := channel, store := s.store.resetUnread channel }

/-- Make the next attempt to reconnect if it is due; its number, if it is made. -/
def tick (now : Int) (s : Session) : Session × Option Nat :=
  let polled := s.connection.poll now
  ({ s with connection := polled.1 }, polled.2)

def cancelReconnect (s : Session) : Session :=
  { s with connection := s.connection.cancelReconnect }

/-- Everything shown at `now`. -/
def snapshot (now : Int) (s : Session) : Except Fault Snapshot := do
  return {
    serverName := s.store.serverName
    ownerId := s.store.ownerId
    selfId := s.store.selfId
    viewedChannelId := s.viewed
    users := s.store.users.values
    channels := s.store.channels
    userChannels := s.store.userChannels
    messages := s.store.log.messages
    unreadCounts := s.store.unread.mapValues fun _ (n : Nat) => (n : Int)
    typing := s.store.visibleTyping now s.viewed
    speaking := s.store.speakers now
    videoStates := s.store.videos
    recordingStates := s.store.recordings
    connection := s.connection.view
    voice := s.connection.voiceView
    reconnect := ← s.connection.reconnectView now }

end Session

end VoiceChat
