import VoiceChat.Proofs.Moves

/-!
# What moves do to the connection

Only results of connects and reconnects that are not stale give the connection
another address (`Concluded.address`), only a disconnect changes the generation
(`generation_move`), and while a server is connected nobody is counting down to
an attempt to reconnect (`Reachable.quiet`).
-/

namespace VoiceChat

/-- Whether the result of a command counts only until the next disconnect. -/
def Command.isBound : Command → Bool
  | .connect .. => true
  | .reconnect => true
  | .joinVoice _ => true
  | _ => false

namespace Connection

variable (settings : Settings) (c : Connection) (now : Int)

/-- The server connected to last, that of a connect in flight, and the number of
disconnects: what the reconnecting leaves alone. -/
def servers (c : Connection) : Text × Text × Nat := (c.address, c.pendingAddress, c.generation)

theorem servers_schedule (attempts : Nat) :
    (c.schedule settings attempts now).1.servers = c.servers := by
  unfold schedule
  split <;> rfl

theorem servers_startReconnect (reason : Text) :
    (c.startReconnect settings reason now).1.servers = c.servers := by
  unfold startReconnect
  split
  · rfl
  · exact servers_schedule settings _ now 0

theorem servers_lose (reason : Text) : (c.lose settings reason now).1.servers = c.servers := by
  unfold lose
  split
  · exact servers_startReconnect settings _ now reason
  · rfl

theorem servers_poll : (c.poll now).1.servers = c.servers := by
  unfold poll
  split <;> rfl

theorem servers_reconnectFailed (error : Text) :
    (c.reconnectFailed settings error now).1.servers = c.servers := by
  unfold reconnectFailed
  split
  · exact servers_schedule settings _ now _
  · rfl

theorem servers_cancelReconnect : c.cancelReconnect.servers = c.servers := by
  unfold cancelReconnect
  split <;> rfl

/-! ## Nobody reconnects to a server that is connected -/

/-- Whether no attempt to reconnect is due or under way while a server is connected. -/
def Quiet (c : Connection) : Prop := c.server = .connected → c.reconnect = .inactive

variable {c}

theorem quiet_schedule (attempts : Nat) (h : c.server ≠ .connected) :
    (c.schedule settings attempts now).1.Quiet := by
  unfold schedule
  split <;> exact fun connected => absurd connected h

theorem quiet_lose (h : c.Quiet) (reason : Text) : (c.lose settings reason now).1.Quiet := by
  unfold lose startReconnect
  split
  · split
    · exact nofun
    · exact quiet_schedule settings now 0 nofun
  · exact h

theorem quiet_poll (h : c.Quiet) : (c.poll now).1.Quiet := by
  unfold poll
  split
  · exact nofun
  · exact h

theorem quiet_reconnectFailed (h : c.Quiet) (error : Text) :
    (c.reconnectFailed settings error now).1.Quiet := by
  unfold reconnectFailed
  split
  · exact quiet_schedule settings now _ nofun
  · exact h

theorem quiet_cancelReconnect : c.cancelReconnect.Quiet := by
  unfold cancelReconnect
  split <;> exact fun _ => rfl

theorem quiet_beginConnect (h : c.Quiet) (address : Text) : (c.beginConnect address).Quiet := by
  intro connected
  refine h ?_
  by_cases hc : c.isConnected = true
  · simpa [isConnected] using hc
  · simp [beginConnect, hc] at connected

theorem quiet_connectFailed (h : c.Quiet) (error : Text) : (c.connectFailed error).Quiet := by
  intro connected
  refine h ?_
  simp only [connectFailed] at connected
  split at connected
  · simp at connected
  · exact connected

/-- When nothing is counted down to, a tick does nothing. -/
theorem poll_of_inactive (h : c.reconnect = .inactive) : (c.poll now).1 = c := by
  simp [poll, isDue, h, Reconnect.deadline?]

theorem cancelReconnect_of_inactive (h : c.reconnect = .inactive) : c.cancelReconnect = c := by
  simp only [cancelReconnect, h, stopReconnect]
  rw [← h]

/-- Without a server there is nothing to lose. -/
theorem lose_of_not_connected (h : c.isConnected = false) (reason : Text) :
    (c.lose settings reason now).1 = c := by
  simp [lose, h]

end Connection

namespace Session

variable (settings : Settings) {s : Session} {p : Pending} (error : Text) (now : Int)

theorem servers_receive (event : Event) :
    (s.receive settings now event).connection.servers = s.connection.servers := by
  unfold receive
  split
  · cases event.body with
    | connectionLost reason => exact Connection.servers_lose settings _ now reason
    | _ => rfl
  · rfl
  · rfl

/-! ## Results -/

/-- Whether a result decides about the connection: that of a connect or a reconnect,
unless it is stale. -/
def decidesConnection (p : Pending) (s : Session) : Bool :=
  match p.command with
  | .connect .. => !s.isStale p
  | .reconnect => !s.isStale p
  | _ => false

/-- A success that decides about the connection connects. -/
theorem conclude_success (h : s.decidesConnection p = true) :
    (s.conclude settings now p "").1.connection = s.connection.connectSucceeded p.address := by
  cases hc : p.command with
  | connect =>
    simp only [decidesConnection, hc, Bool.not_eq_true'] at h
    simp only [conclude, hc, concludeConnect, h]
    cases p.switching <;> rfl
  | reconnect =>
    simp only [decidesConnection, hc, Bool.not_eq_true'] at h
    simp [conclude, hc, concludeReconnect, h]
  | _ => simp [decidesConnection, hc] at h

/-- What the result of a command makes of the connection. -/
inductive Concluded (settings : Settings) (s : Session) (p : Pending) (error : Text)
    (now : Int) : Connection → Prop where
  | stale (bound : p.command.isBound = true) (stale : s.isStale p = true) :
    Concluded settings s p error now s.connection
  | accepted (free : p.command.isBound = false) (success : error = "") :
    Concluded settings s p error now s.connection
  | refused (free : p.command.isBound = false) (failure : error ≠ "") :
    Concluded settings s p error now (s.connection.setError error)
  | connected (decides : s.decidesConnection p = true) (success : error = "") :
    Concluded settings s p error now (s.connection.connectSucceeded p.address)
  | connectFailed {address username : Text} (command : p.command = .connect address username)
    (fresh : s.isStale p = false) (failure : error ≠ "") :
    Concluded settings s p error now (s.connection.connectFailed error)
  | reconnectFailed (command : p.command = .reconnect)
    (fresh : s.isStale p = false) (failure : error ≠ "") :
    Concluded settings s p error now (s.connection.reconnectFailed settings error now).1
  | joined {channel : Int} (command : p.command = .joinVoice channel)
    (fresh : s.isStale p = false) (success : error = "") :
    Concluded settings s p error now (s.connection.joined channel)
  | joinFailed {channel : Int} (command : p.command = .joinVoice channel)
    (fresh : s.isStale p = false) (failure : error ≠ "") :
    Concluded settings s p error now (s.connection.joinFailed error)

theorem concluded (s : Session) (p : Pending) :
    Concluded settings s p error now (s.conclude settings now p error).1.connection := by
  cases hc : p.command with
  | connect address username =>
    cases fresh : s.isStale p with
    | true =>
      simp only [conclude, hc, fresh, if_true]
      exact .stale (by rw [hc]; rfl) fresh
    | false =>
      have decides : s.decidesConnection p = true := by simp [decidesConnection, hc, fresh]
      by_cases success : error = ""
      · rw [success, conclude_success settings now decides]
        exact .connected decides rfl
      · simp only [conclude, hc, fresh, concludeConnect, success]
        exact .connectFailed hc fresh success
  | reconnect =>
    cases fresh : s.isStale p with
    | true =>
      simp only [conclude, hc, fresh, if_true]
      exact .stale (by rw [hc]; rfl) fresh
    | false =>
      have decides : s.decidesConnection p = true := by simp [decidesConnection, hc, fresh]
      by_cases success : error = ""
      · rw [success, conclude_success settings now decides]
        exact .connected decides rfl
      · simp only [conclude, hc, fresh, concludeReconnect, success]
        exact .reconnectFailed hc fresh success
  | joinVoice channel =>
    cases fresh : s.isStale p with
    | true =>
      simp only [conclude, hc, fresh, if_true]
      exact .stale (by rw [hc]; rfl) fresh
    | false =>
      by_cases success : error = ""
      · simp only [conclude, hc, fresh, concludeJoin, success]
        exact .joined hc fresh rfl
      · simp only [conclude, hc, fresh, concludeJoin, success]
        exact .joinFailed hc fresh success
  | _ =>
    simp only [conclude, hc]
    split
    · next success => exact .accepted (by rw [hc]; rfl) success
    · next failure => exact .refused (by rw [hc]; rfl) failure

variable {settings error now} {c : Connection}

/-- Only a success that decides about the connection changes the address. -/
theorem Concluded.address (hc : Concluded settings s p error now c)
    (h : ¬(error = "" ∧ s.decidesConnection p = true)) : c.address = s.connection.address := by
  cases hc with
  | connected decides success => exact absurd ⟨success, decides⟩ h
  | reconnectFailed =>
    exact congrArg Prod.fst (Connection.servers_reconnectFailed settings s.connection now error)
  | _ => rfl

theorem Concluded.generation (hc : Concluded settings s p error now c) :
    c.generation = s.connection.generation := by
  cases hc with
  | reconnectFailed =>
    exact congrArg (·.2.2) (Connection.servers_reconnectFailed settings s.connection now error)
  | _ => rfl

theorem Concluded.quiet (hc : Concluded settings s p error now c) (h : s.connection.Quiet) :
    c.Quiet := by
  cases hc with
  | stale | accepted => exact h
  | connected => exact fun _ => rfl
  | connectFailed => exact Connection.quiet_connectFailed h error
  | reconnectFailed => exact Connection.quiet_reconnectFailed settings now h error
  | refused | joined | joinFailed => exact h

/-! ## Moves -/

variable (settings)

/-- Whether a move is the issue of a disconnect. -/
def Move.isDisconnect : Move → Bool := Move.prepares (· = .disconnect)

/-- A disconnect starts another generation, and nothing else does. -/
theorem generation_move (m : Move) :
    (s.move settings m).connection.generation =
      s.connection.generation + if m.isDisconnect then 1 else 0 := by
  cases m with
  | receive event now => exact congrArg (·.2.2) (servers_receive settings now event)
  | view channel => rfl
  | tick now => exact congrArg (·.2.2) (Connection.servers_poll s.connection now)
  | cancelReconnect => exact congrArg (·.2.2) (Connection.servers_cancelReconnect s.connection)
  | prepare command => cases command <;> rfl
  | conclude p error now => exact (concluded settings error now s p).generation

/-- Whether a move issues a connect or a disconnect, or is the result of a connect or a
reconnect. -/
def Move.steers : Move → Bool
  | .prepare (.connect ..) => true
  | .prepare .disconnect => true
  | .conclude p _ _ =>
    match p.command with
    | .connect .. => true
    | .reconnect => true
    | _ => false
  | _ => false

/-- No other move changes the server connected to last or the pending address. -/
theorem servers_move {m : Move} (h : m.steers = false) :
    (s.move settings m).connection.servers = s.connection.servers := by
  cases m with
  | receive event now => exact servers_receive settings now event
  | view channel => rfl
  | tick now => exact Connection.servers_poll s.connection now
  | cancelReconnect => exact Connection.servers_cancelReconnect s.connection
  | prepare command =>
    cases command with
    | connect | disconnect => cases h
    | _ => rfl
  | conclude p error now =>
    have shape := concluded settings error now s p
    show (s.conclude settings now p error).1.connection.servers = _
    generalize (s.conclude settings now p error).1.connection = c at shape ⊢
    cases shape with
    | connected decides =>
      cases hc : p.command with
      | connect | reconnect => simp [Move.steers, hc] at h
      | _ => simp [decidesConnection, hc] at decides
    | connectFailed command => simp [Move.steers, command] at h
    | reconnectFailed command => simp [Move.steers, command] at h
    | _ => rfl

theorem generation_foldl (moves : List Move) (s : Session) :
    (moves.foldl (move settings) s).connection.generation =
      s.connection.generation + moves.countP Move.isDisconnect := by
  induction moves generalizing s with
  | nil => rfl
  | cons m moves ih =>
    rw [List.foldl_cons, ih, generation_move, List.countP_cons]
    omega

theorem generation_step (s : Session) (a : Action) :
    (s.step settings a).connection.generation =
      s.connection.generation + if a.issues (· = .disconnect) then 1 else 0 := by
  rw [step_eq_moves, generation_foldl, Move.isDisconnect, countP_moves]
  rfl

theorem quiet_receive (h : s.connection.Quiet) (event : Event) (now : Int) :
    (s.receive settings now event).connection.Quiet := by
  unfold receive
  split
  · cases event.body with
    | kicked => exact nofun
    | connectionLost reason => exact Connection.quiet_lose settings now h reason
    | _ => exact h
  · exact h
  · exact h

theorem quiet_move (h : s.connection.Quiet) (m : Move) : (s.move settings m).connection.Quiet := by
  cases m with
  | receive event now => exact quiet_receive settings h event now
  | view channel => exact h
  | tick now => exact Connection.quiet_poll now h
  | cancelReconnect => exact Connection.quiet_cancelReconnect
  | prepare command =>
    cases command with
    | connect address username => exact Connection.quiet_beginConnect h address
    | disconnect => exact nofun
    | _ => exact h
  | conclude p error now => exact (concluded settings error now s p).quiet h

/-- While a server is connected, no attempt to reconnect is due or under way. -/
theorem Reachable.quiet {settings : Settings} (h : Reachable settings s) : s.connection.Quiet :=
  h.keeps (P := fun s => s.connection.Quiet) nofun (fun _ _ _ hs => hs)
    fun _ m hs => quiet_move settings hs m

theorem generation_le_step (s : Session) (a : Action) :
    s.connection.generation ≤ (s.step settings a).connection.generation :=
  generation_step settings s a ▸ Nat.le_add_right _ _

/-- No command in flight is ahead of the generation. -/
theorem Reachable.generation_le {settings : Settings} (h : Reachable settings s) :
    ∀ p ∈ s.inFlight, p.generation ≤ s.connection.generation := by
  refine h.of_step (P := fun s => ∀ p ∈ s.inFlight, p.generation ≤ s.connection.generation)
    (by simp [inFlight]) fun s a hs p hp => ?_
  rcases mem_inFlight_step settings hp with before | new
  · exact Nat.le_trans (hs p before) (generation_le_step settings s a)
  · cases a with
    | issue command =>
      obtain rfl := List.mem_singleton.1 new
      exact Nat.le_refl _
    | _ => exact absurd new List.not_mem_nil

end Session

end VoiceChat
