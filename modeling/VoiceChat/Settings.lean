import VoiceChat.Binary64
import VoiceChat.Text

/-!
# Settings

The values that can be configured, with their defaults.
-/

namespace VoiceChat

/-- Everything that can be configured. -/
structure Settings where
  logLevel : Text := "INFO"
  /-- How long a typing notice stays visible. -/
  typingTtlMs : Int := 5000
  /-- How long a speaker stays lit. -/
  speakingTtlMs : Int := 500
  /-- The delay before each attempt to reconnect; the last one repeats. -/
  reconnectBackoffSeconds : List Int := [1, 2, 4, 8, 16, 30]
  tickIntervalSeconds : Binary64 := Binary64.ofRatio 1 1
  kickedReason : Text := "Disconnected by server owner"
  connectionLostReason : Text := "Connection lost"
  lobbyName : Text := "Lobby"
  /-- Whether joins, leaves and kicks are narrated in the lobby. -/
  systemMessages : Bool := true
  /-- How many messages a channel keeps; all of them unless positive. -/
  maxMessagesPerChannel : Int := 0
deriving DecidableEq, Repr

end VoiceChat
