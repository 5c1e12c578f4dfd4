import VoiceChat.Connection

/-!
# Runs of a connection

Every change that can be made to a connection, one at a time, what each
answers, and what a list of changes makes of the connection.
-/

namespace VoiceChat.Connection

/-- A change to a connection. -/
inductive Change where
  | setError (error : Text)
  | beginConnect (address : Text)
  | connectSucceeded (address : Text)
  | connectFailed (error : Text)
  | disconnect
  | kicked
  | lose (reason : Text) (now : Int)
  | startReconnect (reason : Text) (now : Int)
  | poll (now : Int)
  | reconnectFailed (error : Text) (now : Int)
  | cancelReconnect
  | beginJoin (channel : Int)
  | joined (channel : Int)
  | joinFailed (error : Text)
  | leaveVoice
deriving DecidableEq, Repr

/-- What a change answers. -/
inductive Answer where
  | nothing
  /-- Whether the active server is another one now. -/
  | switched (changed : Bool)
  /-- The number of the attempt, if one is made. -/
  | attempt (number : Option Nat)
  | failed (fault : Fault)
deriving DecidableEq, Repr

def Answer.ofFault : Option Fault → Answer
  | some fault => failed fault
  | none => nothing

/-- Make a change; the connection after it, and the answer. -/
def perform (settings : Settings) (c : Connection) : Change → Connection × Answer
  | .setError error => (c.setError error, .nothing)
  | .beginConnect address => (c.beginConnect address, .nothing)
  | .connectSucceeded address => (c.connectSucceeded address, .switched (c.switches address))
  | .connectFailed error => (c.connectFailed error, .nothing)
  | .disconnect => (c.disconnect, .nothing)
  | .kicked => (c.kicked settings, .nothing)
  | .lose reason now => (c.lose settings reason now).map id .ofFault
  | .startReconnect reason now => (c.startReconnect settings reason now).map id .ofFault
  | .poll now => (c.poll now).map id .attempt
  | .reconnectFailed error now => (c.reconnectFailed settings error now).map id .ofFault
  | .cancelReconnect => (c.cancelReconnect, .nothing)
  | .beginJoin channel => (c.beginJoin channel, .nothing)
  | .joined channel => (c.joined channel, .nothing)
  | .joinFailed error => (c.joinFailed error, .nothing)
  | .leaveVoice => (c.leaveVoice, .nothing)

/-- The connection after a change. -/
def step (settings : Settings) (c : Connection) (change : Change) : Connection :=
  (c.perform settings change).1

/-- The connection after a list of changes. -/
def run (settings : Settings) (changes : List Change) (c : Connection) : Connection :=
  changes.foldl (step settings) c

@[simp] theorem run_nil (settings : Settings) (c : Connection) : run settings [] c = c := rfl

@[simp] theorem run_cons (settings : Settings) (d : Change) (ds : List Change) (c : Connection) :
    run settings (d :: ds) c = run settings ds (step settings c d) := rfl

theorem run_append (settings : Settings) (ds es : List Change) (c : Connection) :
    run settings (ds ++ es) c = run settings es (run settings ds c) :=
  List.foldl_append

end VoiceChat.Connection
