import VoiceChat.Connection.Run

/-!
# The controller of a connection

The same connection with every field on its own. A voice channel, the number of attempts and a
deadline are kept in every phase, and a change writes each field or leaves it as it is;
nothing else holds them together. When there is no delay, scheduling stops halfway, with the
phase written and the deadline not.
-/

namespace VoiceChat

inductive VoicePhase where
  | idle
  | joining
  | joined
deriving DecidableEq, Repr

inductive ReconnectPhase where
  | inactive
  | retrying
  | connecting
deriving DecidableEq, Repr

/-- The fields of a connection. -/
structure Controller where
  server : ServerPhase := .disconnected
  address : Text := ""
  error : Text := ""
  pendingAddress : Text := ""
  generation : Nat := 0
  voice : VoicePhase := .idle
  channel : Option Int := none
  reconnect : ReconnectPhase := .inactive
  attempt : Nat := 0
  reason : Text := ""
  retryAt : Option Int := none
deriving DecidableEq, Repr

namespace Controller

open Connection (Change Answer)

def setError (error : Text) (k : Controller) : Controller := { k with error }

/-! ## Server -/

def stopReconnect (k : Controller) : Controller :=
  { k with reconnect := .inactive, attempt := 0, retryAt := none }

def leaveVoice (k : Controller) : Controller := { k with voice := .idle, channel := none }

def beginConnect (address : Text) (k : Controller) : Controller :=
  let k := { k with pendingAddress := address }
  if k.server ≠ .connected then { k with server := .connecting } else k

def connectSucceeded (address : Text) (k : Controller) : Controller :=
  { k with server := .connected, address, error := "", pendingAddress := "" }.stopReconnect

def connectFailed (error : Text) (k : Controller) : Controller :=
  let k := { k with pendingAddress := "", error }
  if k.server = .connecting then { k with server := .disconnected } else k

def disconnect (k : Controller) : Controller :=
  { k with
    generation := k.generation + 1
    server := .disconnected
    address := ""
    pendingAddress := "" }.leaveVoice.stopReconnect

def kicked (settings : Settings) (k : Controller) : Controller :=
  { { k with server := .disconnected }.leaveVoice.stopReconnect with
    error := settings.kickedReason }

/-! ## Reconnecting -/

/-- Wait for the attempt after those made. -/
def schedule (settings : Settings) (now : Int) (k : Controller) : Controller × Option Fault :=
  let k := { k with reconnect := .retrying }
  match Connection.delay? settings.reconnectBackoffSeconds k.attempt with
  | some delay => ({ k with retryAt := some (now + delay * 1000) }, none)
  | none => (k, some .noDelay)

def startReconnect (settings : Settings) (reason : Text) (now : Int) (k : Controller) :
    Controller × Option Fault :=
  if k.reconnect ≠ .inactive then (k, none)
  else
    let reason := if reason = "" then settings.connectionLostReason else reason
    { k with reason, attempt := 0 }.schedule settings now

def lose (settings : Settings) (reason : Text) (now : Int) (k : Controller) :
    Controller × Option Fault :=
  if k.server ≠ .connected then (k, none)
  else { k with server := .disconnected }.leaveVoice.startReconnect settings reason now

/-- Make the next attempt if the deadline has passed; its number, if it is made. -/
def poll (now : Int) (k : Controller) : Controller × Option Nat :=
  match k.reconnect, k.retryAt with
  | .retrying, some deadline =>
    if now < deadline then (k, none)
    else
      let attempt := k.attempt + 1
      ({ k with attempt, reconnect := .connecting, retryAt := none, server := .connecting },
        some attempt)
  | _, _ => (k, none)

def reconnectFailed (settings : Settings) (error : Text) (now : Int) (k : Controller) :
    Controller × Option Fault :=
  if k.reconnect ≠ .connecting then (k, none)
  else { k with server := .disconnected, error }.schedule settings now

def cancelReconnect (k : Controller) : Controller :=
  if k.reconnect = .connecting then { k with server := .disconnected }.stopReconnect
  else k.stopReconnect

/-! ## Voice -/

def beginJoin (channel : Int) (k : Controller) : Controller :=
  { k with voice := .joining, channel := some channel }

def joined (channel : Int) (k : Controller) : Controller :=
  { k with voice := .joined, channel := some channel }

def joinFailed (error : Text) (k : Controller) : Controller :=
  { k with voice := .idle, channel := none, error }

/-! ## Runs -/

/-- Make a change; the controller after it, and the answer. -/
def perform (settings : Settings) (k : Controller) : Change → Controller × Answer
  | .setError error => (k.setError error, .nothing)
  | .beginConnect address => (k.beginConnect address, .nothing)
  | .connectSucceeded address => (k.connectSucceeded address, .switched (address ≠ k.address))
  | .connectFailed error => (k.connectFailed error, .nothing)
  | .disconnect => (k.disconnect, .nothing)
  | .kicked => (k.kicked settings, .nothing)
  | .lose reason now => (k.lose settings reason now).map id .ofFault
  | .startReconnect reason now => (k.startReconnect settings reason now).map id .ofFault
  | .poll now => (k.poll now).map id .attempt
  | .reconnectFailed error now => (k.reconnectFailed settings error now).map id .ofFault
  | .cancelReconnect => (k.cancelReconnect, .nothing)
  | .beginJoin channel => (k.beginJoin channel, .nothing)
  | .joined channel => (k.joined channel, .nothing)
  | .joinFailed error => (k.joinFailed error, .nothing)
  | .leaveVoice => (k.leaveVoice, .nothing)

/-- The controller after a change. -/
def step (settings : Settings) (k : Controller) (change : Change) : Controller :=
  (k.perform settings change).1

/-- The controller after a list of changes. -/
def run (settings : Settings) (changes : List Change) (k : Controller) : Controller :=
  changes.foldl (step settings) k

theorem run_append (settings : Settings) (ds es : List Change) (k : Controller) :
    run settings (ds ++ es) k = run settings es (run settings ds k) :=
  List.foldl_append

end Controller

end VoiceChat
