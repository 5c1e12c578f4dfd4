import VoiceChat.Connection
import VoiceChat.Snapshot

/-!
# Views of the connection

What is shown of each axis. The countdown is in whole seconds, the ceiling of
a binary64 quotient, and never negative.
-/

namespace VoiceChat.Connection

/-- The least whole number of seconds in `milliseconds`, by way of the binary64 quotient. -/
def wholeSeconds (milliseconds : Int) : Except Fault Int :=
  match (Binary64.ofRatio milliseconds 1000).ceil? with
  | some seconds => .ok seconds
  | none => .error .quotientOverflow

/-- Whole seconds until the next attempt to reconnect. -/
def secondsUntilRetry (c : Connection) (now : Int) : Except Fault Int :=
  match c.reconnect.deadline? with
  | some deadline => (max 0 ·) <$> wholeSeconds (deadline - now)
  | none => .ok 0

def view (c : Connection) : ConnectionView where
  phase := c.server.name
  connected := c.isConnected
  connectedAddr := c.address
  connectError := c.error

def voiceView (c : Connection) : VoiceView where
  phase := c.voice.phaseName
  voiceConnected := c.voice.isJoined
  voiceChannelId := c.voice.channel?

def reconnectView (c : Connection) (now : Int) : Except Fault ReconnectView := do
  return {
    reconnecting := c.reconnect.isActive
    attempt := c.reconnect.attempt
    secondsUntilRetry := ← c.secondsUntilRetry now
    reason := c.reconnectReason }

end VoiceChat.Connection
