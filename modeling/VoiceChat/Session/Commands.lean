import VoiceChat.Session

/-!
# Commands of a session

A command takes effect in three steps: what counts at once when it is issued,
the call of the transport, and what its result does. Results are applied
strictly in the order in which the commands were issued. Results of connects,
reconnects and joins that were issued before a disconnect are stale and do
nothing.
-/

namespace VoiceChat.Session

/-- How a command ended. -/
inductive Outcome where
  /-- With an error text, empty for success. -/
  | returned (error : Text)
  /-- Without anything to tell, as a disconnect ends. -/
  | done
  | cancelled
  | failed (fault : Fault)
deriving DecidableEq, Repr

/-- A ticket and how its command ended. -/
abbrev Report := Int × Outcome

/-! ## Issuing -/

/-- What a command does at once. -/
def prepare (command : Command) (s : Session) : Session :=
  match command with
  | .connect address username =>
    { s with
      lastAddress := address
      lastUsername := username
      staged := if s.connection.switches address then s.staged.insert address {} else s.staged
      connection := s.connection.beginConnect address }
  | .disconnect =>
    { s with connection := s.connection.disconnect, staged := .empty, store := {} }
  | .joinVoice channel => { s with connection := s.connection.beginJoin channel }
  | .leaveVoice => { s with connection := s.connection.leaveVoice }
  | _ => s

/-- What the transport is asked to do. -/
def callOf (command : Command) (s : Session) : Command :=
  match command with
  | .reconnect => .connect s.lastAddress s.lastUsername
  | command => command

/-- What is noted about a command when it is issued. -/
def note (command : Command) (ticket : Int) (s : Session) : Pending where
  ticket := ticket
  command := command
  call := s.callOf command
  address := match command with
    | .connect address _ => address
    | _ => s.lastAddress
  generation := (s.prepare command).connection.generation
  switching := match command with
    | .connect address _ => s.connection.switches address
    | _ => false

/-- Issue a command; what was noted about it, the transport's part included. -/
def issue (command : Command) (s : Session) : Session × Pending :=
  let issued := s.queue.issue
  let pending := s.note command issued.2
  ({ s.prepare command with calling := s.calling ++ [pending], queue := issued.1 }, pending)

/-! ## Results -/

/-- Put the staged store of `address` on show; an empty one if there is none. -/
def promote (address : Text) (s : Session) : Session :=
  { s with store := (s.staged.get? address).getD {}, staged := s.staged.erase address }

/-- What the result of a connect does. -/
def concludeConnect (p : Pending) (error : Text) (s : Session) : Session :=
  if error = "" then
    let s := { s with connection := s.connection.connectSucceeded p.address }
    if p.switching then s.promote p.address else s
  else
    { s with
      connection := s.connection.connectFailed error
      staged := if p.switching then s.staged.erase p.address else s.staged }

/-- What the result of a reconnect does. -/
def concludeReconnect (settings : Settings) (now : Int) (p : Pending) (error : Text)
    (s : Session) : Session × Option Fault :=
  if error = "" then
    ({ s with connection := s.connection.connectSucceeded p.address }, none)
  else
    let failed := s.connection.reconnectFailed settings error now
    ({ s with connection := failed.1 }, failed.2)

/-- What the result of a join does. -/
def concludeJoin (channel : Int) (error : Text) (s : Session) : Session :=
  { s with
    connection :=
      if error = "" then s.connection.joined channel else s.connection.joinFailed error }

/-- Whether a command was issued before the last disconnect. -/
def isStale (p : Pending) (s : Session) : Bool := p.generation ≠ s.connection.generation

/-- What the result of a command does. -/
def conclude (settings : Settings) (now : Int) (p : Pending) (error : Text) (s : Session) :
    Session × Option Fault :=
  match p.command with
  | .connect .. => (if s.isStale p then s else s.concludeConnect p error, none)
  | .reconnect => if s.isStale p then (s, none) else s.concludeReconnect settings now p error
  | .joinVoice channel => (if s.isStale p then s else s.concludeJoin channel error, none)
  | _ => (if error = "" then s else { s with connection := s.connection.setError error }, none)

/-- How a command ends whose result has been applied. -/
def outcomeOf (p : Pending) (error : Text) : Option Fault → Outcome
  | some fault => .failed fault
  | none => if p.command = .disconnect then .done else .returned error

/-- Apply results in order. -/
def concludeAll (settings : Settings) (now : Int) :
    List (Pending × Text) → Session → Session × List Report
  | [], s => (s, [])
  | (p, error) :: results, s =>
    let concluded := s.conclude settings now p error
    let rest := concludeAll settings now results concluded.1
    (rest.1, (p.ticket, outcomeOf p error concluded.2) :: rest.2)

/-- The transport replied to the call of `ticket`; the commands that ended. -/
def resolve (settings : Settings) (now : Int) (ticket : Int) (reply : Reply) (s : Session) :
    Session × List Report :=
  match s.calling.find? (·.ticket = ticket) with
  | some p =>
    let entered := s.queue.enter ticket (p, p.command.errorOf reply)
    concludeAll settings now entered.2
      { s with calling := s.calling.filter (·.ticket ≠ ticket), queue := entered.1 }
  | none => (s, [])

/-- Whether the command of `ticket` has not ended. -/
def isRunning (ticket : Int) (s : Session) : Bool :=
  s.calling.any (·.ticket = ticket) ∨ s.queue.waiting.any (·.ticket = ticket)

/-- Cancel the command of `ticket` wherever it stands; the commands that ended. -/
def cancel (settings : Settings) (now : Int) (ticket : Int) (s : Session) :
    Session × List Report :=
  if s.isRunning ticket then
    let left := if s.calling.any (·.ticket = ticket) then s.queue.abandon ticket
      else s.queue.leave (·.ticket = ticket)
    let concluded := concludeAll settings now left.2
      { s with calling := s.calling.filter (·.ticket ≠ ticket), queue := left.1 }
    (concluded.1, (ticket, .cancelled) :: concluded.2)
  else (s, [])

end VoiceChat.Session
