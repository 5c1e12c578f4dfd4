import VoiceChat.Connection.Controller
import VoiceChat.Proofs.Moves

/-!
# A connection and its fields

Field by field, a controller does what a connection does (`fields_perform`): the phases
of a connection carry just what the controller keeps beside them. A session asks for at
most one change of its connection with every move (`run_changes_move`), so a controller that
is asked for the same keeps the fields of the connection all along (`fields_foldl`).
-/

namespace VoiceChat

/-! ## The fields -/

def Voice.phase : Voice → VoicePhase
  | idle => .idle
  | joining _ => .joining
  | joined _ => .joined

def Reconnect.phase : Reconnect → ReconnectPhase
  | inactive => .inactive
  | retrying .. => .retrying
  | connecting _ => .connecting

namespace Connection

/-- The fields of a connection. -/
def fields (c : Connection) : Controller where
  server := c.server
  address := c.address
  error := c.error
  pendingAddress := c.pendingAddress
  generation := c.generation
  voice := c.voice.phase
  channel := c.voice.channel?
  reconnect := c.reconnect.phase
  attempt := c.reconnect.attempt
  reason := c.reconnectReason
  retryAt := c.reconnect.deadline?

variable (settings : Settings) (c : Connection)

theorem fields_beginConnect (address : Text) :
    (c.beginConnect address).fields = c.fields.beginConnect address := by
  cases hs : c.server <;> simp [beginConnect, Controller.beginConnect, fields, isConnected, hs]

theorem fields_connectFailed (error : Text) :
    (c.connectFailed error).fields = c.fields.connectFailed error := by
  cases hs : c.server <;> simp [connectFailed, Controller.connectFailed, fields, hs]

/-- When nothing is waited for, no deadline is set that a scheduling without a delay could
leave behind. -/
theorem fields_schedule {c : Connection} (unset : c.reconnect.deadline? = none) (now : Int) :
    (c.schedule settings c.reconnect.attempt now).map fields id =
      c.fields.schedule settings now := by
  cases found : delay? settings.reconnectBackoffSeconds c.reconnect.attempt with
  | some delay =>
    have same : delay? settings.reconnectBackoffSeconds c.fields.attempt = some delay := found
    simp only [schedule, Controller.schedule, found, same]
    rfl
  | none =>
    have same : delay? settings.reconnectBackoffSeconds c.fields.attempt = none := found
    have still : c.fields.retryAt = none := unset
    simp only [schedule, Controller.schedule, found, same, still]
    rfl

theorem fields_startReconnect (reason : Text) (now : Int) :
    (c.startReconnect settings reason now).map fields id =
      c.fields.startReconnect settings reason now := by
  cases hr : c.reconnect with
  | inactive =>
    have reasoned := fields_schedule settings (c := { c with
      reconnectReason := if reason = "" then settings.connectionLostReason else reason })
      (by rw [hr]; rfl) now
    rw [hr] at reasoned
    have inactive : c.fields.reconnect = .inactive := congrArg Reconnect.phase hr
    have unset : c.fields.retryAt = none := congrArg Reconnect.deadline? hr
    simp only [startReconnect, Controller.startReconnect, hr, inactive, unset]
    exact reasoned
  | retrying | connecting =>
    simp [startReconnect, Controller.startReconnect, hr, Reconnect.isActive, fields,
      Reconnect.phase]

theorem fields_lose (reason : Text) (now : Int) :
    (c.lose settings reason now).map fields id = c.fields.lose settings reason now := by
  have same : c.fields.server = c.server := rfl
  unfold lose Controller.lose
  rw [same]
  cases hs : c.server with
  | connected =>
    have counts : ({ c with server := .disconnected } : Connection).leaveVoice.fields =
        { c.fields with server := .disconnected }.leaveVoice := rfl
    have started := fields_startReconnect settings
      ({ c with server := .disconnected } : Connection).leaveVoice reason now
    simpa [isConnected, hs, counts] using started
  | disconnected | connecting => simp [isConnected, hs]

theorem fields_poll (now : Int) : (c.poll now).map fields id = c.fields.poll now := by
  cases hr : c.reconnect with
  | retrying attempts deadline =>
    cases deadline with
    | some deadline =>
      by_cases due : now < deadline
      · have early : ¬deadline ≤ now := by omega
        simp [poll, isDue, Controller.poll, fields, hr, Reconnect.deadline?, Reconnect.phase,
          Reconnect.attempt, due, early]
      · have late : deadline ≤ now := by omega
        simp [poll, isDue, Controller.poll, fields, hr, Reconnect.deadline?, Reconnect.phase,
          Reconnect.attempt, due, late]
    | none => simp [poll, isDue, Controller.poll, fields, hr, Reconnect.deadline?, Reconnect.phase]
  | _ => simp [poll, isDue, Controller.poll, fields, hr, Reconnect.deadline?, Reconnect.phase]

theorem fields_reconnectFailed (error : Text) (now : Int) :
    (c.reconnectFailed settings error now).map fields id =
      c.fields.reconnectFailed settings error now := by
  cases hr : c.reconnect with
  | connecting attempt =>
    have tried := fields_schedule settings (c := { c with server := .disconnected, error })
      (by rw [hr]; rfl) now
    rw [hr] at tried
    have connecting : c.fields.reconnect = .connecting := congrArg Reconnect.phase hr
    have attempts : c.fields.attempt = attempt := congrArg Reconnect.attempt hr
    have unset : c.fields.retryAt = none := congrArg Reconnect.deadline? hr
    simp only [reconnectFailed, Controller.reconnectFailed, hr, connecting, attempts, unset]
    exact tried
  | _ =>
    simp [reconnectFailed, Controller.reconnectFailed, hr, fields, Reconnect.phase]

theorem fields_cancelReconnect : c.cancelReconnect.fields = c.fields.cancelReconnect := by
  cases hr : c.reconnect <;>
    simp [cancelReconnect, Controller.cancelReconnect, hr, fields, Reconnect.phase,
      stopReconnect, Controller.stopReconnect, Reconnect.attempt, Reconnect.deadline?]

/-- One change does to the fields what it does to the connection, and answers the same. -/
theorem fields_perform (change : Change) :
    (c.perform settings change).map fields id = c.fields.perform settings change := by
  cases change with
  | setError | connectSucceeded | disconnect | kicked | beginJoin | joined | joinFailed
  | leaveVoice => rfl
  | beginConnect address => exact congrArg (·, Answer.nothing) (c.fields_beginConnect address)
  | connectFailed error => exact congrArg (·, Answer.nothing) (c.fields_connectFailed error)
  | lose reason now =>
    exact congrArg (Prod.map id Answer.ofFault) (c.fields_lose settings reason now)
  | startReconnect reason now =>
    exact congrArg (Prod.map id Answer.ofFault) (c.fields_startReconnect settings reason now)
  | poll now => exact congrArg (Prod.map id Answer.attempt) (c.fields_poll now)
  | reconnectFailed error now =>
    exact congrArg (Prod.map id Answer.ofFault) (c.fields_reconnectFailed settings error now)
  | cancelReconnect => exact congrArg (·, Answer.nothing) c.fields_cancelReconnect

theorem fields_run (changes : List Change) (c : Connection) :
    (run settings changes c).fields = Controller.run settings changes c.fields := by
  induction changes generalizing c with
  | nil => rfl
  | cons change changes ih =>
    have stepped : (c.step settings change).fields = c.fields.step settings change :=
      congrArg Prod.fst (c.fields_perform settings change)
    calc (run settings (change :: changes) c).fields
        = Controller.run settings changes (c.step settings change).fields := ih _
      _ = Controller.run settings (change :: changes) c.fields := by
        rw [stepped]
        rfl

end Connection

/-! ## What a session asks for -/

namespace Session

open Connection (Change)

/-- The change that the event of an active server asks for. -/
def changeOf (now : Int) : Event.Body → List Change
  | .kicked => [.kicked]
  | .connectionLost reason => [.lose reason now]
  | _ => []

/-- The change that a command asks for when it is issued. -/
def changeAtIssue : Command → List Change
  | .connect address _ => [.beginConnect address]
  | .disconnect => [.disconnect]
  | .joinVoice channel => [.beginJoin channel]
  | .leaveVoice => [.leaveVoice]
  | _ => []

/-- The change that a result asks for. -/
def changeAtResult (p : Pending) (error : Text) (now : Int) (s : Session) : List Change :=
  match p.command with
  | .connect .. =>
    if s.isStale p then []
    else if error = "" then [.connectSucceeded p.address] else [.connectFailed error]
  | .reconnect =>
    if s.isStale p then []
    else if error = "" then [.connectSucceeded p.address] else [.reconnectFailed error now]
  | .joinVoice channel =>
    if s.isStale p then []
    else if error = "" then [.joined channel] else [.joinFailed error]
  | _ => if error = "" then [] else [.setError error]

/-- The change of the connection that a move asks for, if it asks for one. -/
def changes (s : Session) : Move → List Change
  | .receive event now =>
    if s.route event.serverAddr = .active then changeOf now event.body else []
  | .view _ => []
  | .tick now => [.poll now]
  | .cancelReconnect => [.cancelReconnect]
  | .prepare command => changeAtIssue command
  | .conclude p error now => s.changeAtResult p error now

variable (settings : Settings)

theorem run_changes_receive (s : Session) (event : Event) (now : Int) :
    Connection.run settings (s.changes (.receive event now)) s.connection =
      (s.receive settings now event).connection := by
  cases hr : s.route event.serverAddr with
  | active =>
    simp only [receive, hr, changes, if_true]
    cases event.body <;> rfl
  | staged | nowhere =>
    simp only [receive, hr, changes]
    rfl

theorem run_changes_conclude (s : Session) (p : Pending) (error : Text) (now : Int) :
    Connection.run settings (s.changeAtResult p error now) s.connection =
      (s.conclude settings now p error).1.connection := by
  unfold changeAtResult conclude
  cases hc : p.command with
  | connect =>
    cases stale : s.isStale p with
    | true => rfl
    | false =>
      by_cases success : error = ""
      · cases switching : p.switching <;> simp [concludeConnect, success, switching] <;> rfl
      · simp [concludeConnect, success]
        rfl
  | reconnect =>
    cases stale : s.isStale p with
    | true => rfl
    | false =>
      by_cases success : error = "" <;> simp [concludeReconnect, success] <;> rfl
  | joinVoice =>
    cases stale : s.isStale p with
    | true => rfl
    | false => by_cases success : error = "" <;> simp [concludeJoin, success] <;> rfl
  | _ =>
    by_cases success : error = ""
    all_goals
      simp only [success, if_true, if_false]
      rfl

/-- A move makes of the connection what the change makes of it that the move asks for. -/
theorem run_changes_move (s : Session) (m : Move) :
    Connection.run settings (s.changes m) s.connection = (s.move settings m).connection := by
  cases m with
  | receive event now => exact run_changes_receive settings s event now
  | view | tick | cancelReconnect => rfl
  | prepare command => cases command <;> rfl
  | conclude p error now => exact run_changes_conclude settings s p error now

/-- The changes that a list of moves asks for. -/
def changesAlong : List Move → Session → List Change
  | [], _ => []
  | m :: ms, s => s.changes m ++ changesAlong ms (s.move settings m)

/-- The controller that is asked for the same changes keeps the fields of the connection. -/
theorem fields_foldl (moves : List Move) (s : Session) :
    Controller.run settings (changesAlong settings moves s) s.connection.fields =
      (moves.foldl (move settings) s).connection.fields := by
  induction moves generalizing s with
  | nil => rfl
  | cons m moves ih =>
    calc Controller.run settings (s.changes m ++ changesAlong settings moves (s.move settings m))
          s.connection.fields
        = Controller.run settings (changesAlong settings moves (s.move settings m))
            (Controller.run settings (s.changes m) s.connection.fields) :=
          Controller.run_append settings _ _ _
      _ = Controller.run settings (changesAlong settings moves (s.move settings m))
            (s.move settings m).connection.fields := by
          rw [← Connection.fields_run, run_changes_move]
      _ = (moves.foldl (move settings) (s.move settings m)).connection.fields := ih _

end Session

end VoiceChat
