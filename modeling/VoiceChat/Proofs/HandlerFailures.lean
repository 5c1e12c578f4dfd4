import VoiceChat.Proofs.Flags
import VoiceChat.Proofs.SessionLogs

/-!
# Handlers that fail

The handler of an event can miss two things: a delay to wait for, once the connection is lost,
and a message that it knows, in the history where it looks for it. The message is always there
(`MessageLog.Sound.mislaid?`). So a handler fails exactly at the loss of the server that is
connected, when no delays are configured, and then it has given up the connection already and
waits for an attempt that has no deadline (`failures_are_clean_iff`).
-/

namespace VoiceChat

/-- What stops the handler of an event. -/
inductive Failure where
  | fault (fault : Fault)
  /-- A message that is known is not in the history of its channel. -/
  | mislaid (msgId : Int)
deriving DecidableEq, Repr

/-- Where a redelivery fails: the message that it overwrites is looked for in the history of the
channel that it was posted in. -/
def MessageLog.mislaid? (log : MessageLog) (msgId : Int) : Option Failure :=
  (log.find? msgId).bind fun known =>
    if (log.linesOf known.channelId).any (·.answers msgId) then none else some (.mislaid msgId)

/-- Where the handler of an event fails in the store that takes it in. -/
def Store.failure? (s : Store) : Event.Body → Option Failure
  | .chatPosted post => s.log.mislaid? post.msgId
  | _ => none

namespace Session

/-- Where the handler of an event fails. -/
def failure? (settings : Settings) (now : Int) (event : Event) (s : Session) : Option Failure :=
  match s.route event.serverAddr, event.body with
  | .active, .connectionLost reason => (s.connection.lose settings reason now).2.map .fault
  | _, body => (s.receiver? event.serverAddr).bind (·.failure? body)

/-- Without a server, and waiting for an attempt that nothing has set a deadline for. -/
def stranded (settings : Settings) (reason : Text) (s : Session) : Session :=
  { s with connection :=
    { s.connection with
      server := .disconnected
      voice := .idle
      reconnect := .retrying 0 none
      reconnectReason := if reason = "" then settings.connectionLostReason else reason } }

end Session

/-! ## Redeliveries -/

/-- A message that is known is in the history of its channel. -/
theorem MessageLog.Sound.mislaid? {log : MessageLog} (hl : log.Sound) (msgId : Int) :
    log.mislaid? msgId = none := by
  cases found : log.find? msgId with
  | none => simp [MessageLog.mislaid?, found]
  | some known =>
    obtain ⟨line, mem, answers, rfl⟩ := exists_line_of_find? found
    obtain ⟨channel, mem⟩ := mem_lines.1 mem
    obtain rfl := hl.homed channel line mem
    have there : (log.linesOf line.message.channelId).any (·.answers msgId) = true :=
      List.any_eq_true.2 ⟨line, mem, answers⟩
    rw [MessageLog.mislaid?, found, Option.bind_some, if_pos there]

theorem Store.failure?_eq_none {s : Store} (hs : s.log.Sound) (body : Event.Body) :
    s.failure? body = none := by
  cases body with
  | chatPosted post => exact hs.mislaid? post.msgId
  | _ => rfl

/-! ## Losses -/

section

variable {settings : Settings}

/-- A loss that counts starts the countdown, unless there is nothing to count down from. -/
theorem Connection.lose_of_quiet {c : Connection} (quiet : c.Quiet)
    (connected : c.isConnected = true) (reason : Text) (now : Int) :
    c.lose settings reason now =
      ({ c with
        server := .disconnected
        voice := .idle
        reconnect := waiting settings 0 now
        reconnectReason := if reason = "" then settings.connectionLostReason else reason },
        if settings.reconnectBackoffSeconds = [] then some .noDelay else none) := by
  have idle : c.reconnect = .inactive := quiet (by simpa [isConnected] using connected)
  simp only [lose, connected, if_true, leaveVoice, startReconnect, idle, Reconnect.isActive,
    Bool.false_eq_true, if_false, schedule, waiting]
  by_cases empty : settings.reconnectBackoffSeconds = []
  · simp [empty, delay?]
  · obtain ⟨delay, found⟩ := Option.isSome_iff_exists.1 (delay?_isSome empty 0)
    simp [empty, found]

namespace Session

variable {s : Session} {event : Event}

/-- The handler of an event fails exactly at the loss of the connected server, without delays. -/
theorem failure?_eq (sound : s.AllStores (·.log.Sound)) (quiet : s.connection.Quiet) (now : Int) :
    s.failure? settings now event =
      if settings.reconnectBackoffSeconds = [] ∧ s.losesServer event = true then
        some (.fault .noDelay) else none := by
  have stored (body : Event.Body) :
      (s.receiver? event.serverAddr).bind (·.failure? body) = none :=
    Option.bind_eq_none_iff.2 fun store goes => Store.failure?_eq_none (sound.receiver goes) body
  cases loses : s.losesServer event with
  | true =>
    obtain ⟨reason, body, active, connected⟩ := losesServer_iff.1 loses
    simp only [failure?, active, body, Connection.lose_of_quiet quiet connected, and_true]
    split <;> rfl
  | false =>
    rw [if_neg (by simp), failure?]
    split
    · next reason active body =>
      have alone : ¬s.connection.isConnected = true := by
        intro connected
        rw [losesServer_iff.2 ⟨reason, body, active, connected⟩] at loses
        cases loses
      rw [Connection.lose, if_neg alone]
      rfl
    · exact stored _

theorem receive_loss_eq (quiet : s.connection.Quiet) (empty : settings.reconnectBackoffSeconds = [])
    {reason : Text} (body : event.body = .connectionLost reason)
    (active : s.route event.serverAddr = .active) (connected : s.connection.isConnected = true)
    (now : Int) : s.receive settings now event = s.stranded settings reason := by
  simp only [receive, active, body, receiveActive, Connection.lose_of_quiet quiet connected,
    stranded, Connection.waiting, empty]
  rfl

theorem stranded_ne (connected : s.connection.isConnected = true) (reason : Text) :
    s.stranded settings reason ≠ s := by
  intro same
  rw [← same] at connected
  cases connected

/-- An untagged event goes to the store on show while a server is connected. -/
theorem losesServer_untagged (connected : s.connection.isConnected = true) (reason : Text) :
    s.losesServer ⟨"", .connectionLost reason⟩ = true := by
  simp [losesServer, route, connected]

theorem failure?_eq_some_iff (sound : s.AllStores (·.log.Sound)) (quiet : s.connection.Quiet)
    {now : Int} {failure : Failure} :
    s.failure? settings now event = some failure ↔
      failure = .fault .noDelay ∧ settings.reconnectBackoffSeconds = [] ∧
        s.losesServer event = true := by
  rw [failure?_eq sound quiet]
  split
  · next loss => simp [loss, eq_comm]
  · next keeps => simp [keeps]

/-- A failure leaves the session without a server, and the countdown without a deadline. -/
theorem stranded_of_failure? (sound : s.AllStores (·.log.Sound)) (quiet : s.connection.Quiet)
    {now : Int} (fails : (s.failure? settings now event).isSome = true) :
    ∃ reason, event.body = .connectionLost reason ∧
      s.receive settings now event = s.stranded settings reason ∧
      s.stranded settings reason ≠ s := by
  obtain ⟨failure, fails⟩ := Option.isSome_iff_exists.1 fails
  obtain ⟨-, empty, loses⟩ := (failure?_eq_some_iff sound quiet).1 fails
  obtain ⟨reason, body, active, connected⟩ := losesServer_iff.1 loses
  exact ⟨reason, body, receive_loss_eq quiet empty body active connected now,
    stranded_ne connected reason⟩

/-- At every moment of every run the handler of an event fails exactly at the loss of the
connected server, when no delays are configured. The session has changed then, and waits for an
attempt that never comes. So failures leave everything as it was exactly while there are delays
or nothing is connected. -/
theorem failures_are_clean_iff (settings : Settings) (actions : List Action) :
    let s := run settings actions {}
    (∀ event now failure, s.failure? settings now event = some failure ↔
      failure = .fault .noDelay ∧ settings.reconnectBackoffSeconds = [] ∧
        s.losesServer event = true) ∧
    (∀ event now, (s.failure? settings now event).isSome = true →
      ∃ reason, event.body = .connectionLost reason ∧
        s.receive settings now event = s.stranded settings reason ∧
        ∀ later, ((s.stranded settings reason).tick later).2 = none) ∧
    ((∀ event now, (s.failure? settings now event).isSome = true →
        s.receive settings now event = s) ↔
      settings.reconnectBackoffSeconds ≠ [] ∨ s.connection.isConnected = false) := by
  intro s
  have sound : s.AllStores (·.log.Sound) := sound_session settings
  have quiet : s.connection.Quiet := Reachable.quiet ⟨actions, rfl⟩
  refine ⟨fun event now failure => failure?_eq_some_iff sound quiet, fun event now fails => ?_,
    ?_, ?_⟩
  · obtain ⟨reason, body, strands, -⟩ := stranded_of_failure? sound quiet fails
    exact ⟨reason, body, strands, fun later => rfl⟩
  · -- while a server is connected, the untagged loss is its loss
    intro clean
    by_contra both
    rw [not_or, not_not, Bool.not_eq_false] at both
    obtain ⟨empty, connected⟩ := both
    let lost : Event := ⟨"", .connectionLost ""⟩
    have fails : (s.failure? settings 0 lost).isSome = true := by
      rw [failure?_eq sound quiet, if_pos ⟨empty, losesServer_untagged connected ""⟩]
      rfl
    obtain ⟨reason, -, strands, changed⟩ := stranded_of_failure? sound quiet fails
    exact changed (strands.symm.trans (clean lost 0 fails))
  · intro safe event now fails
    obtain ⟨failure, fails⟩ := Option.isSome_iff_exists.1 fails
    obtain ⟨-, empty, loses⟩ := (failure?_eq_some_iff sound quiet).1 fails
    obtain ⟨-, -, -, connected⟩ := losesServer_iff.1 loses
    rcases safe with delays | alone
    · exact absurd empty delays
    · exact absurd connected (Bool.eq_false_iff.1 alone)

/-- The connected server is lost, and there is no delay to wait for. -/
theorem half_applied_loss :
    let settings : Settings := { reconnectBackoffSeconds := [] }
    let s := run settings [.issue (.connect "a:1" "me"), .resolve 0 (.answered "") 0] {}
    let lost : Event := ⟨"a:1", .connectionLost "gone"⟩
    let after := s.receive settings 1 lost
    s.failure? settings 1 lost = some (.fault .noDelay) ∧
    s.connection.server = .connected ∧ s.connection.reconnect = .inactive ∧
    after.connection.server = .disconnected ∧ after.connection.reconnect = .retrying 0 none ∧
    after ≠ s := by
  decide +kernel

end Session

end

end VoiceChat
