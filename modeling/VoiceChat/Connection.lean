import VoiceChat.Settings

/-!
# The connection

Three independent axes: the server, the voice channel, and the attempts to
reconnect. A failed connect rolls back to what was there before; leaving voice
and disconnecting count at once, whatever the server answers; a kick ends
everything. Deadlines are Unix milliseconds compared with the clock reading of
the caller. Scheduling an attempt fails when no delays are configured; the
changes made up to then stay.
-/

namespace VoiceChat

/-- What can go wrong while a session runs. -/
inductive Fault where
  /-- There is no delay to wait for before an attempt. -/
  | noDelay
  /-- A quotient beyond the range of binary64 numbers. -/
  | quotientOverflow
deriving DecidableEq, Repr

def Fault.message : Fault → String
  | noDelay => "list index out of range"
  | quotientOverflow => "integer division result too large for a float"

/-- The connection to the server. -/
inductive ServerPhase where
  | disconnected
  | connecting
  | connected
deriving DecidableEq, Repr

def ServerPhase.name : ServerPhase → String
  | disconnected => "disconnected"
  | connecting => "connecting"
  | connected => "connected"

/-- The voice connection and its channel. -/
inductive Voice where
  | idle
  | joining (channel : Int)
  | joined (channel : Int)
deriving DecidableEq, Repr

namespace Voice

def phaseName : Voice → String
  | idle => "idle"
  | joining _ => "joining"
  | joined _ => "joined"

def channel? : Voice → Option Int
  | idle => none
  | joining channel => some channel
  | joined channel => some channel

def isJoined : Voice → Bool
  | joined _ => true
  | _ => false

end Voice

/-- The attempts to reconnect after a loss. -/
inductive Reconnect where
  | inactive
  /-- Waiting for the deadline of the next attempt; `attempts` have been made. -/
  | retrying (attempts : Nat) (deadline : Option Int)
  /-- The attempt numbered `attempt` is being made. -/
  | connecting (attempt : Nat)
deriving DecidableEq, Repr

namespace Reconnect

def phaseName : Reconnect → String
  | inactive => "inactive"
  | retrying .. => "retrying"
  | connecting _ => "connecting"

def isActive : Reconnect → Bool
  | inactive => false
  | _ => true

def attempt : Reconnect → Nat
  | inactive => 0
  | retrying attempts _ => attempts
  | connecting attempt => attempt

def deadline? : Reconnect → Option Int
  | retrying _ deadline => deadline
  | _ => none

end Reconnect

/-- The state of the connection. -/
structure Connection where
  server : ServerPhase := .disconnected
  /-- The server connected to last, until a disconnect. -/
  address : Text := ""
  /-- What went wrong last, empty after a successful connect. -/
  error : Text := ""
  /-- The server of a connect in flight. -/
  pendingAddress : Text := ""
  /-- How often the user has disconnected; results asked for before are stale. -/
  generation : Nat := 0
  voice : Voice := .idle
  reconnect : Reconnect := .inactive
  /-- Why the countdown was started last. -/
  reconnectReason : Text := ""
deriving DecidableEq, Repr

namespace Connection

def isConnected (c : Connection) : Bool := c.server = .connected

/-- Whether a connect to `address` changes the active server. -/
def switches (address : Text) (c : Connection) : Bool := address ≠ c.address

def setError (error : Text) (c : Connection) : Connection := { c with error }

/-! ## Server -/

/-- A connect is in flight. A server that is connected stays so meanwhile. -/
def beginConnect (address : Text) (c : Connection) : Connection :=
  { c with
    pendingAddress := address
    server := if c.isConnected then .connected else .connecting }

def stopReconnect (c : Connection) : Connection := { c with reconnect := .inactive }

/-- The connect to `address` succeeded. -/
def connectSucceeded (address : Text) (c : Connection) : Connection :=
  { c with server := .connected, address, error := "", pendingAddress := "" }.stopReconnect

/-- The connect failed: what was there before stays. -/
def connectFailed (error : Text) (c : Connection) : Connection :=
  { c with
    pendingAddress := ""
    error
    server := if c.server = .connecting then .disconnected else c.server }

def leaveVoice (c : Connection) : Connection := { c with voice := .idle }

/-- The user disconnects. -/
def disconnect (c : Connection) : Connection :=
  { c with
    generation := c.generation + 1
    server := .disconnected
    address := ""
    pendingAddress := "" }.leaveVoice.stopReconnect

/-- The server threw the user out. -/
def kicked (settings : Settings) (c : Connection) : Connection :=
  { c with server := .disconnected, error := settings.kickedReason }.leaveVoice.stopReconnect

/-! ## Reconnecting -/

/-- The delay in seconds after `attempts` attempts; the last delay repeats. -/
def delay? (delays : List Int) (attempts : Nat) : Option Int :=
  delays[min attempts (delays.length - 1)]?

/-- Wait for the next attempt. -/
def schedule (settings : Settings) (attempts : Nat) (now : Int) (c : Connection) :
    Connection × Option Fault :=
  match delay? settings.reconnectBackoffSeconds attempts with
  | some delay => ({ c with reconnect := .retrying attempts (some (now + delay * 1000)) }, none)
  | none => ({ c with reconnect := .retrying attempts none }, some .noDelay)

/-- Start the countdown, unless one is running. -/
def startReconnect (settings : Settings) (reason : Text) (now : Int) (c : Connection) :
    Connection × Option Fault :=
  if c.reconnect.isActive then (c, none)
  else
    { c with
      reconnectReason := if reason = "" then settings.connectionLostReason else reason }.schedule
      settings 0 now

/-- The transport lost the server. A loss counts only while one is connected. -/
def lose (settings : Settings) (reason : Text) (now : Int) (c : Connection) :
    Connection × Option Fault :=
  if c.isConnected then
    { c with server := .disconnected }.leaveVoice.startReconnect settings reason now
  else (c, none)

/-- Whether the deadline has passed. -/
def isDue (c : Connection) (now : Int) : Bool := c.reconnect.deadline?.any (· ≤ now)

/-- Make the next attempt if it is due; its number, if it is made. -/
def poll (now : Int) (c : Connection) : Connection × Option Nat :=
  if c.isDue now then
    let attempt := c.reconnect.attempt + 1
    ({ c with reconnect := .connecting attempt, server := .connecting }, some attempt)
  else (c, none)

/-- The attempt failed: wait for the next one, unless the attempts have ended. -/
def reconnectFailed (settings : Settings) (error : Text) (now : Int) (c : Connection) :
    Connection × Option Fault :=
  match c.reconnect with
  | .connecting attempt =>
    { c with server := .disconnected, error }.schedule settings attempt now
  | _ => (c, none)

/-- The user gives up reconnecting. -/
def cancelReconnect (c : Connection) : Connection :=
  match c.reconnect with
  | .connecting _ => { c with server := .disconnected }.stopReconnect
  | _ => c.stopReconnect

/-! ## Voice -/

def beginJoin (channel : Int) (c : Connection) : Connection := { c with voice := .joining channel }

def joined (channel : Int) (c : Connection) : Connection := { c with voice := .joined channel }

def joinFailed (error : Text) (c : Connection) : Connection := { c with voice := .idle, error }

end Connection

end VoiceChat
