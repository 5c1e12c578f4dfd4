import VoiceChat.Proofs.ConnectionMoves

/-!
# Who raises which flag

`Moved` lists what the moves make of the connection, and `Retried` what they make of the
attempts to reconnect. It follows that a session gets connected by the success of a
connect or a reconnect only (`connected_of_move`), into a voice channel by the success of
a join only (`joined_of_move`), and that a countdown starts at the loss of the server
that is connected and at nothing else (`reconnecting_of_move`).
-/

namespace VoiceChat

namespace Connection

variable (settings : Settings) (c : Connection) (now : Int)

/-- With delays there is always one to wait for. -/
theorem delay?_isSome {delays : List Int} (some : delays ≠ []) (attempts : Nat) :
    (delay? delays attempts).isSome = true := by
  have positive : 0 < delays.length := List.length_pos_iff.2 some
  have within : min attempts (delays.length - 1) < delays.length := by omega
  simp [delay?, List.getElem?_eq_getElem within]

/-- Waiting for the attempt after `attempts` ones. -/
def waiting (attempts : Nat) (now : Int) : Reconnect :=
  .retrying attempts ((delay? settings.reconnectBackoffSeconds attempts).map (now + · * 1000))

theorem schedule_eq (attempts : Nat) :
    (c.schedule settings attempts now).1 =
      { c with reconnect := waiting settings attempts now } := by
  unfold schedule waiting
  cases delay? settings.reconnectBackoffSeconds attempts <;> rfl

/-- A loss that counts ends the connection and the voice connection. -/
theorem lose_eq (connected : c.isConnected = true) (reason : Text) :
    ∃ reconnect reconnectReason, (c.lose settings reason now).1 =
      { c with server := .disconnected, voice := .idle, reconnect, reconnectReason } := by
  simp only [lose, connected, if_true, startReconnect]
  split
  · exact ⟨_, _, rfl⟩
  · exact ⟨_, _, schedule_eq settings _ now 0⟩

theorem reconnectFailed_eq (error : Text) :
    (c.reconnectFailed settings error now).1 = c ∨
    ∃ attempt deadline, c.reconnect = .connecting attempt ∧
      (c.reconnectFailed settings error now).1 =
        { c with server := .disconnected, error, reconnect := .retrying attempt deadline } := by
  cases hr : c.reconnect with
  | connecting attempt =>
    simp only [reconnectFailed, hr]
    exact .inr ⟨attempt, _, rfl, schedule_eq settings _ now attempt⟩
  | _ => simp [reconnectFailed, hr]

theorem poll_eq :
    (c.poll now).1 = c ∨
    ∃ attempts deadline, c.reconnect = .retrying attempts (some deadline) ∧
      c.isDue now = true ∧
      (c.poll now).1 =
        { c with server := .connecting, reconnect := .connecting (attempts + 1) } := by
  unfold poll
  split
  · next due =>
    cases hr : c.reconnect with
    | retrying attempts deadline =>
      cases deadline with
      | some deadline => exact .inr ⟨attempts, deadline, rfl, due, rfl⟩
      | none => simp [isDue, hr, Reconnect.deadline?] at due
    | _ => simp [isDue, hr, Reconnect.deadline?] at due
  · exact .inl rfl

theorem isConnected_beginConnect (address : Text) :
    (c.beginConnect address).isConnected = c.isConnected := by
  unfold beginConnect
  split
  · next connected =>
    rw [connected]
    rfl
  · next alone =>
    rw [Bool.not_eq_true] at alone
    rw [alone]
    rfl

theorem isConnected_connectFailed (error : Text) :
    (c.connectFailed error).isConnected = c.isConnected := by
  cases hs : c.server <;> simp [connectFailed, isConnected, hs]

end Connection

namespace Session

/-- Whether an event is the loss of the server that is connected. -/
def losesServer (event : Event) (s : Session) : Bool :=
  match event.body with
  | .connectionLost _ => s.route event.serverAddr = .active ∧ s.connection.isConnected
  | _ => false

/-- Whether a result is the success of a join, unless it is stale. -/
def bringsIntoVoice (p : Pending) (error : Text) (s : Session) : Bool :=
  match p.command with
  | .joinVoice _ => error = "" ∧ s.isStale p = false
  | _ => false

/-- What a move makes of the connection. -/
inductive Moved (settings : Settings) (s : Session) : Move → Connection → Prop where
  | unchanged (m : Move) : Moved settings s m s.connection
  | kicked (event : Event) (now : Int) :
    Moved settings s (.receive event now) (s.connection.kicked settings)
  | lost (event : Event) (now : Int) (loses : s.losesServer event = true) (reconnect : Reconnect)
    (reconnectReason : Text) :
    Moved settings s (.receive event now)
      { s.connection with server := .disconnected, voice := .idle, reconnect, reconnectReason }
  | fired (now : Int) {attempts : Nat} {deadline : Int}
    (due : s.connection.reconnect = .retrying attempts (some deadline)) :
    Moved settings s (.tick now)
      { s.connection with server := .connecting, reconnect := .connecting (attempts + 1) }
  | cancelled : Moved settings s .cancelReconnect s.connection.cancelReconnect
  | prepared (command : Command) :
    Moved settings s (.prepare command) (s.prepare command).connection
  | concluded {p : Pending} {error : Text} {now : Int} {c : Connection}
    (result : Concluded settings s p error now c) : Moved settings s (.conclude p error now) c

variable {settings : Settings} {s : Session}

theorem losesServer_iff {event : Event} :
    s.losesServer event = true ↔ ∃ reason, event.body = .connectionLost reason ∧
      s.route event.serverAddr = .active ∧ s.connection.isConnected = true := by
  cases hb : event.body <;> simp [losesServer, hb]

/-- The loss of the server that is connected ends the voice connection with it. -/
theorem receive_loss (settings : Settings) {event : Event} (loses : s.losesServer event = true)
    (now : Int) :
    ∃ reconnect reconnectReason, (s.receive settings now event).connection =
      { s.connection with
        server := .disconnected, voice := .idle, reconnect, reconnectReason } := by
  obtain ⟨reason, body, active, connected⟩ := losesServer_iff.1 loses
  simp only [receive, active, body]
  exact Connection.lose_eq settings s.connection now connected reason

theorem moved_receive (event : Event) (now : Int) :
    Moved settings s (.receive event now) (s.receive settings now event).connection := by
  cases hr : s.route event.serverAddr with
  | active =>
    cases hb : event.body with
    | kicked =>
      simp only [receive, hr, hb]
      exact .kicked event now
    | connectionLost reason =>
      cases connected : s.connection.isConnected with
      | true =>
        have loses : s.losesServer event = true := losesServer_iff.2 ⟨reason, hb, hr, connected⟩
        obtain ⟨_, _, lost⟩ := receive_loss settings loses now
        rw [lost]
        exact .lost event now loses _ _
      | false =>
        have still := Connection.lose_of_not_connected settings now connected reason
        simp only [receive, hr, hb, receiveActive, still]
        exact .unchanged _
    | _ =>
      simp only [receive, hr, hb]
      exact .unchanged _
  | staged | nowhere =>
    simp only [receive, hr]
    exact .unchanged _

theorem moved (s : Session) (m : Move) : Moved settings s m (s.move settings m).connection := by
  cases m with
  | receive event now => exact moved_receive event now
  | view channel => exact .unchanged _
  | tick now =>
    simp only [move, tick]
    obtain still | ⟨_, _, due, -, fired⟩ := Connection.poll_eq s.connection now
    · rw [still]
      exact .unchanged _
    · rw [fired]
      exact .fired now due
  | cancelReconnect => exact .cancelled
  | prepare command => exact .prepared command
  | conclude p error now => exact .concluded (concluded settings error now s p)

/-! ## Connected -/

/-- Only a success that decides about the connection connects. -/
theorem connected_of_move {m : Move} (h : (s.move settings m).connection.isConnected = true) :
    s.connection.isConnected = true ∨
    ∃ p now, m = .conclude p "" now ∧ s.decidesConnection p = true := by
  generalize hc : (s.move settings m).connection = c at h
  have shape : Moved settings s m c := hc ▸ moved s m
  cases shape with
  | unchanged => exact .inl h
  | kicked | lost | fired => cases h
  | cancelled =>
    unfold Connection.cancelReconnect at h
    split at h
    · cases h
    · exact .inl h
  | prepared command =>
    cases command with
    | connect address username =>
      exact .inl (s.connection.isConnected_beginConnect address ▸ h)
    | disconnect => cases h
    | _ => exact .inl h
  | concluded result =>
    cases result with
    | connected decides success => exact .inr ⟨_, _, by rw [success], decides⟩
    | connectFailed => exact .inl (s.connection.isConnected_connectFailed _ ▸ h)
    | reconnectFailed =>
      rcases Connection.reconnectFailed_eq settings s.connection _ _ with still | ⟨_, _, _, failed⟩
      · exact .inl (still ▸ h)
      · rw [failed] at h
        cases h
    | _ => exact .inl h

/-! ## In a voice channel -/

/-- Only the success of a join that is not stale brings the user into a voice channel. -/
theorem joined_of_move {m : Move} (h : (s.move settings m).connection.voice.isJoined = true) :
    s.connection.voice.isJoined = true ∨
    ∃ p error now, m = .conclude p error now ∧ s.bringsIntoVoice p error = true := by
  generalize hc : (s.move settings m).connection = c at h
  have shape : Moved settings s m c := hc ▸ moved s m
  cases shape with
  | unchanged | fired => exact .inl h
  | kicked | lost => cases h
  | cancelled =>
    unfold Connection.cancelReconnect at h
    split at h <;> exact .inl h
  | prepared command =>
    cases command with
    | disconnect | joinVoice | leaveVoice => cases h
    | _ => exact .inl h
  | concluded result =>
    cases result with
    | joined command fresh success =>
      exact .inr ⟨_, _, _, rfl, by simp [bringsIntoVoice, command, fresh, success]⟩
    | joinFailed => cases h
    | reconnectFailed =>
      rcases Connection.reconnectFailed_eq settings s.connection _ _ with still | ⟨_, _, _, failed⟩
      · exact .inl (still ▸ h)
      · rw [failed] at h
        exact .inl h
    | _ => exact .inl h

theorem joined_of_bringsIntoVoice {p : Pending} {error : Text}
    (h : s.bringsIntoVoice p error = true) (now : Int) :
    (s.conclude settings now p error).1.connection.voice.isJoined = true := by
  cases hc : p.command with
  | joinVoice channel =>
    simp only [bringsIntoVoice, hc, decide_eq_true_eq] at h
    simp [conclude, hc, h, concludeJoin, Connection.joined, Voice.isJoined]
  | _ => simp [bringsIntoVoice, hc] at h

/-! ## The attempts to reconnect -/

/-- What a move makes of the attempts to reconnect. -/
inductive Retried (settings : Settings) (s : Session) : Move → Reconnect → Prop where
  | unchanged (m : Move) : Retried settings s m s.connection.reconnect
  | stopped (m : Move) : Retried settings s m .inactive
  | started (event : Event) (now : Int) :
    Retried settings s (.receive event now) (Connection.waiting settings 0 now)
  | fired (now : Int) {attempts : Nat} {deadline : Int}
    (waiting : s.connection.reconnect = .retrying attempts (some deadline))
    (due : s.connection.isDue now = true) :
    Retried settings s (.tick now) (.connecting (attempts + 1))
  | failed (p : Pending) (error : Text) (now : Int) {attempt : Nat}
    (outstanding : s.connection.reconnect = .connecting attempt) :
    Retried settings s (.conclude p error now) (Connection.waiting settings attempt now)

theorem retried_receive (event : Event) (now : Int) :
    Retried settings s (.receive event now)
      (s.receive settings now event).connection.reconnect := by
  unfold receive
  split
  · cases event.body with
    | kicked => exact .stopped _
    | connectionLost reason =>
      simp only [receiveActive, Connection.lose, Connection.startReconnect]
      split
      · split
        · exact .unchanged _
        · rw [Connection.schedule_eq]
          exact .started event now
      · exact .unchanged _
    | _ => exact .unchanged _
  · exact .unchanged _
  · exact .unchanged _

theorem retried_conclude (p : Pending) (error : Text) (now : Int) :
    Retried settings s (.conclude p error now)
      (s.conclude settings now p error).1.connection.reconnect := by
  have shape := concluded settings error now s p
  generalize (s.conclude settings now p error).1.connection = c at shape ⊢
  cases shape with
  | connected => exact .stopped _
  | reconnectFailed =>
    unfold Connection.reconnectFailed
    split
    · next attempt outstanding =>
      rw [Connection.schedule_eq]
      exact .failed p error now outstanding
    · exact .unchanged _
  | _ => exact .unchanged _

theorem retried (settings : Settings) (s : Session) (m : Move) :
    Retried settings s m (s.move settings m).connection.reconnect := by
  cases m with
  | receive event now => exact retried_receive event now
  | view channel => exact .unchanged _
  | tick now =>
    simp only [move, tick]
    obtain still | ⟨_, _, waiting, due, fired⟩ := Connection.poll_eq s.connection now
    · rw [still]
      exact .unchanged _
    · rw [fired]
      exact .fired now waiting due
  | cancelReconnect =>
    simp only [move, cancelReconnect, Connection.cancelReconnect]
    split <;> exact .stopped _
  | prepare command =>
    cases command with
    | disconnect => exact .stopped _
    | _ => exact .unchanged _
  | conclude p error now => exact retried_conclude p error now

/-! ## Counting down to an attempt to reconnect -/

/-- A countdown under way was so before, and for the same server, unless that server has
just been lost. -/
theorem reconnecting_of_move {m : Move}
    (h : (s.move settings m).connection.reconnect.isActive = true) :
    (s.connection.reconnect.isActive = true ∧
      (s.move settings m).connection.address = s.connection.address) ∨
    ∃ event now, m = .receive event now ∧ s.losesServer event = true := by
  generalize hc : (s.move settings m).connection = c at h ⊢
  have shape : Moved settings s m c := hc ▸ moved s m
  cases shape with
  | unchanged => exact .inl ⟨h, rfl⟩
  | kicked => cases h
  | lost event now loses => exact .inr ⟨event, now, rfl, loses⟩
  | fired now due =>
    refine .inl ⟨?_, rfl⟩
    rw [due]
    rfl
  | cancelled =>
    unfold Connection.cancelReconnect at h
    split at h <;> cases h
  | prepared command =>
    cases command with
    | disconnect => cases h
    | _ => exact .inl ⟨h, rfl⟩
  | concluded result =>
    cases result with
    | connected => cases h
    | reconnectFailed =>
      rcases Connection.reconnectFailed_eq settings s.connection _ _ with
        still | ⟨attempt, _, trying, failed⟩
      · rw [still] at h ⊢
        exact .inl ⟨h, rfl⟩
      · rw [failed, trying]
        exact .inl ⟨rfl, rfl⟩
    | _ => exact .inl ⟨h, rfl⟩

end Session

end VoiceChat
