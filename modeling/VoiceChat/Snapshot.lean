import VoiceChat.Channel
import VoiceChat.Media
import VoiceChat.Message

/-!
# Snapshots

Everything that is shown at one moment, as plain data: the store's entities,
the indicators that have not expired, and a view of each axis of the
connection.
-/

namespace VoiceChat

/-- The connection to the server, as shown. -/
structure ConnectionView where
  phase : Text
  connected : Bool
  connectedAddr : Text
  connectError : Text
deriving DecidableEq, Repr

/-- The voice connection, as shown. -/
structure VoiceView where
  phase : Text
  voiceConnected : Bool
  voiceChannelId : Option Int := none
deriving DecidableEq, Repr

/-- The countdown to the next attempt to reconnect, as shown. -/
structure ReconnectView where
  reconnecting : Bool
  attempt : Int
  secondsUntilRetry : Int
  reason : Text
deriving DecidableEq, Repr

/-- Everything shown at one moment. -/
structure Snapshot where
  serverName : Text
  ownerId : Option Int := none
  selfId : Option Int := none
  viewedChannelId : Int
  users : List User
  channels : List Channel
  userChannels : Table Int Int
  messages : Table Int (List Message)
  unreadCounts : Table Int Int
  typing : Table Int TypingEntry
  speaking : IntSet
  videoStates : Table Int VideoState
  recordingStates : Table Int RecordingState
  connection : ConnectionView
  voice : VoiceView
  reconnect : ReconnectView
deriving DecidableEq

open Decode

def ConnectionView.ofFields (fields : Fields) : Decoded ConnectionView :=
  ConnectionView.mk <$> required fields "phase" string
    <*> required fields "connected" bool
    <*> required fields "connected_addr" string
    <*> required fields "connect_error" string

def ConnectionView.decode : Json → Decoded ConnectionView := record "ConnectionView" ofFields

def ConnectionView.encode (view : ConnectionView) : Json :=
  .obj [("phase", .ofText view.phase), ("connected", .bool view.connected),
    ("connected_addr", .ofText view.connectedAddr), ("connect_error", .ofText view.connectError)]

def VoiceView.ofFields (fields : Fields) : Decoded VoiceView :=
  VoiceView.mk <$> required fields "phase" string
    <*> required fields "voice_connected" bool
    <*> withDefault fields "voice_channel_id" (nullable int) none

def VoiceView.decode : Json → Decoded VoiceView := record "VoiceView" ofFields

def VoiceView.encode (view : VoiceView) : Json :=
  .obj [("phase", .ofText view.phase), ("voice_connected", .bool view.voiceConnected),
    ("voice_channel_id", Json.ofOption Json.int view.voiceChannelId)]

def ReconnectView.ofFields (fields : Fields) : Decoded ReconnectView :=
  ReconnectView.mk <$> required fields "reconnecting" bool
    <*> required fields "attempt" int
    <*> required fields "seconds_until_retry" int
    <*> required fields "reason" string

def ReconnectView.decode : Json → Decoded ReconnectView := record "ReconnectView" ofFields

def ReconnectView.encode (view : ReconnectView) : Json :=
  .obj [("reconnecting", .bool view.reconnecting), ("attempt", .int view.attempt),
    ("seconds_until_retry", .int view.secondsUntilRetry), ("reason", .ofText view.reason)]

def Snapshot.ofFields (fields : Fields) : Decoded Snapshot :=
  Snapshot.mk <$> required fields "server_name" string
    <*> withDefault fields "owner_id" (nullable int) none
    <*> withDefault fields "self_id" (nullable int) none
    <*> required fields "viewed_channel_id" int
    <*> required fields "users" (list User.decode)
    <*> required fields "channels" (list Channel.decode)
    <*> required fields "user_channels" (table int int)
    <*> required fields "messages" (table int (list Message.decode))
    <*> required fields "unread_counts" (table int int)
    <*> required fields "typing" (table int TypingEntry.decode)
    <*> required fields "speaking" intSet
    <*> required fields "video_states" (table int VideoState.decode)
    <*> required fields "recording_states" (table int RecordingState.decode)
    <*> required fields "connection" ConnectionView.decode
    <*> required fields "voice" VoiceView.decode
    <*> required fields "reconnect" ReconnectView.decode

def Snapshot.decode : Json → Decoded Snapshot := record "Snapshot" ofFields

end VoiceChat
