import VoiceChat.Proofs.ConnectionMoves
import VoiceChat.Proofs.Ledger

/-!
# Disconnecting is final

Once the user has disconnected, nothing but another connect, reconnect, join or
disconnect gets the session out of it. Results of commands issued before are
stale, so that they tell of an error at most (`conclude_late`), events have no
staged store to go to, and there is no countdown. The store on show starts over
and takes in what arrives from then on (`disconnect_is_final`).
-/

namespace VoiceChat.Session

/-- Whether an action issues a command that connects, joins or disconnects. -/
def Action.restarts : Action → Bool
  | .issue command => command.isBound ∨ command = .disconnect
  | _ => false

/-- Whether an action ends commands, and does nothing else. -/
def Action.ends : Action → Bool
  | .resolve .. => true
  | .cancel .. => true
  | _ => false

/-- What arrives during a run at a store that every event goes to, with the channel
on screen at its arrival. -/
def arrivals (viewed : Int) : List Action → List Intake
  | [] => []
  | .event event now :: as => .event event true viewed now :: arrivals viewed as
  | .view channel :: as => .viewed channel :: arrivals channel as
  | _ :: as => arrivals viewed as

/-- No server, no voice channel, no countdown, and no store that fills up. -/
structure Gone (s : Session) : Prop where
  server : s.connection.server = .disconnected
  address : s.connection.address = ""
  pendingAddress : s.connection.pendingAddress = ""
  voice : s.connection.voice = .idle
  reconnect : s.connection.reconnect = .inactive
  staged : s.staged = .empty

/-- Whether every command in flight that could bring a server back is stale. -/
def Latecomers (s : Session) : Prop :=
  ∀ p ∈ s.inFlight, p.command.isBound = true → p.generation < s.connection.generation

variable {settings : Settings} {s : Session}

/-! ## Results that come late -/

/-- The result of a command that is stale, or of one that never is, tells of an error
at most. -/
theorem conclude_late (settings : Settings) {p : Pending}
    (h : p.command.isBound = true → s.isStale p = true) (error : Text) (now : Int) :
    ∃ e, (s.conclude settings now p error).1 =
      { s with connection := s.connection.setError e } := by
  cases hc : p.command with
  | connect | reconnect | joinVoice =>
    have stale := h (by rw [hc]; rfl)
    refine ⟨s.connection.error, ?_⟩
    simp only [conclude, hc, stale, if_true]
    rfl
  | _ =>
    simp only [conclude, hc]
    split
    · exact ⟨s.connection.error, rfl⟩
    · exact ⟨error, rfl⟩

/-- What is left when only an error is told. -/
structure Undisturbed (before after : Session) : Prop where
  store : after.store = before.store
  staged : after.staged = before.staged
  viewed : after.viewed = before.viewed
  connection : ∃ e, after.connection = before.connection.setError e

theorem Undisturbed.replay {t : Session} (h : Undisturbed s t) (as : List Action) :
    t.store.replay settings (arrivals t.viewed as) =
      s.store.replay settings (arrivals s.viewed as) := by
  rw [h.store, h.viewed]

theorem conclude_of_mem_moves {a : Action} (h : a.ends = true) {m : Move} (hm : m ∈ s.moves a) :
    ∃ p error now, m = .conclude p error now := by
  cases a with
  | resolve | cancel =>
    obtain ⟨r, -, rfl⟩ := List.mem_map.1 hm
    exact ⟨_, _, _, rfl⟩
  | _ => cases h

/-- Results that come late leave everything as it is but the error. -/
theorem Latecomers.undisturbed (late : s.Latecomers) {a : Action} (h : a.ends = true) :
    Undisturbed s (s.step settings a) := by
  refine step_keeps settings (P := Undisturbed s)
    (fun _ _ _ same => ⟨same.store, same.staged, same.viewed, same.connection⟩)
    (fun m hm t same => ?_) ⟨rfl, rfl, rfl, s.connection.error, rfl⟩
  obtain ⟨p, error, now, rfl⟩ := conclude_of_mem_moves h hm
  obtain ⟨e, connection⟩ := same.connection
  have stale : p.command.isBound = true → t.isStale p = true := by
    intro bound
    have behind := late p (mem_inFlight_of_conclude hm) bound
    have generation : t.connection.generation = s.connection.generation := by rw [connection]; rfl
    simp only [isStale, generation, decide_eq_true_eq]
    omega
  obtain ⟨e', concluded⟩ := conclude_late settings stale error now
  refine ⟨?_, ?_, ?_, e', ?_⟩ <;> simp only [move, concluded]
  · exact same.store
  · exact same.staged
  · exact same.viewed
  · rw [connection]
    rfl

/-! ## Nothing else brings the server back -/

theorem Gone.route (hs : s.Gone) (server : Text) : s.route server = .active := by
  simp [Session.route, hs.staged, hs.address, Table.contains]

/-- An error that is told does not bring the server back. -/
theorem Gone.of_setError {t : Session} (hs : s.Gone) {e : Text}
    (connection : t.connection = s.connection.setError e) (staged : t.staged = s.staged) :
    t.Gone := by
  refine ⟨?_, ?_, ?_, ?_, ?_, staged.trans hs.staged⟩ <;> rw [connection]
  · exact hs.server
  · exact hs.address
  · exact hs.pendingAddress
  · exact hs.voice
  · exact hs.reconnect

theorem Gone.of_eq {t : Session} (hs : s.Gone) (connection : t.connection = s.connection)
    (staged : t.staged = s.staged) : t.Gone :=
  have same : t.connection = s.connection.setError s.connection.error := connection
  hs.of_setError same staged

theorem Undisturbed.gone {t : Session} (h : Undisturbed s t) (hs : s.Gone) : t.Gone := by
  obtain ⟨e, connection⟩ := h.connection
  exact hs.of_setError connection h.staged

theorem Gone.receive_eq (hs : s.Gone) (event : Event) (now : Int) :
    s.receive settings now event = s.receiveActive settings now event.body := by
  simp only [receive, hs.route]

/-- The store on show takes in the event. -/
theorem Gone.store_receive (hs : s.Gone) (event : Event) (now : Int) :
    (s.receive settings now event).store =
      s.store.receiveLive settings s.viewed now event.body := by
  rw [hs.receive_eq, receiveActive_store]

theorem gone_receive (hs : s.Gone) (event : Event) (now : Int) :
    (s.receive settings now event).Gone := by
  rw [hs.receive_eq]
  cases event.body with
  | kicked => exact ⟨rfl, hs.address, hs.pendingAddress, rfl, rfl, hs.staged⟩
  | connectionLost reason =>
    have alone : s.connection.isConnected = false := by simp [Connection.isConnected, hs.server]
    exact hs.of_eq (Connection.lose_of_not_connected settings now alone reason) rfl
  | _ => exact hs.of_eq rfl rfl

theorem gone_step (hs : s.Gone) (late : s.Latecomers) {a : Action} (quiet : a.restarts = false) :
    (s.step settings a).Gone := by
  cases a with
  | event event now => exact gone_receive hs event now
  | view channel => exact hs.of_eq rfl rfl
  | tick now => exact hs.of_eq (Connection.poll_of_inactive now hs.reconnect) rfl
  | cancelReconnect => exact hs.of_eq (Connection.cancelReconnect_of_inactive hs.reconnect) rfl
  | issue command =>
    cases command with
    | connect | reconnect | disconnect | joinVoice => cases quiet
    | leaveVoice => exact ⟨hs.server, hs.address, hs.pendingAddress, rfl, hs.reconnect, hs.staged⟩
    | _ => exact hs.of_eq rfl rfl
  | resolve | cancel => exact (late.undisturbed rfl).gone hs

theorem latecomers_step (late : s.Latecomers) {a : Action} (quiet : a.restarts = false) :
    (s.step settings a).Latecomers := by
  intro p hp bound
  rcases mem_inFlight_step settings hp with before | new
  · exact Nat.lt_of_lt_of_le (late p before bound) (generation_le_step settings s a)
  · cases a with
    | issue command =>
      obtain rfl := List.mem_singleton.1 new
      have free : command.isBound = false := by
        simp only [Action.restarts, Bool.decide_or, Bool.or_eq_false_iff] at quiet
        simpa using quiet.1
      exact absurd bound (by simp [note, free])
    | _ => exact absurd new List.not_mem_nil

/-- The store on show takes in what arrives. -/
theorem replay_step (hs : s.Gone) (late : s.Latecomers) {a : Action} (quiet : a.restarts = false)
    (as : List Action) :
    (s.step settings a).store.replay settings (arrivals (s.step settings a).viewed as) =
      s.store.replay settings (arrivals s.viewed (a :: as)) := by
  cases a with
  | event event now =>
    have received : s.step settings (.event event now) = _ := hs.receive_eq event now
    rw [received, receiveActive_store, receiveActive_viewed]
    rfl
  | view | tick | cancelReconnect => rfl
  | issue command =>
    cases command with
    | disconnect => cases quiet
    | _ => rfl
  | resolve | cancel => exact (late.undisturbed rfl).replay as

theorem gone_run (hs : s.Gone) (late : s.Latecomers) {actions : List Action}
    (quiet : ∀ a ∈ actions, a.restarts = false) :
    (run settings actions s).Gone ∧
    (run settings actions s).store = s.store.replay settings (arrivals s.viewed actions) := by
  induction actions generalizing s with
  | nil => exact ⟨hs, rfl⟩
  | cons a actions ih =>
    have first := quiet a List.mem_cons_self
    obtain ⟨gone, store⟩ := ih (gone_step hs late first) (latecomers_step late first)
      fun b hb => quiet b (List.mem_cons_of_mem _ hb)
    exact ⟨gone, store.trans (replay_step hs late first actions)⟩

theorem latecomers_disconnect (h : Reachable settings s) :
    (s.step settings (.issue .disconnect)).Latecomers := by
  intro p hp bound
  rcases mem_inFlight_step settings hp with before | new
  · exact Nat.lt_succ_of_le (h.generation_le p before)
  · obtain rfl := List.mem_singleton.1 new
    cases bound

/-- After a disconnect, whatever was in flight, nothing is left of the server as long as
nobody connects, joins or disconnects again, and the store on show holds what has
arrived since. -/
theorem disconnect_is_final (reachable : Reachable settings s) {actions : List Action}
    (quiet : ∀ a ∈ actions, a.restarts = false) :
    let left := run settings actions (s.step settings (.issue .disconnect))
    left.Gone ∧ left.store = ({} : Store).replay settings (arrivals s.viewed actions) :=
  gone_run ⟨rfl, rfl, rfl, rfl, rfl, rfl⟩ (latecomers_disconnect reachable) quiet

/-- The connect that was in flight succeeds too late, and events keep arriving. -/
theorem disconnected_despite_late_connect :
    let s := run {} [.issue (.connect "a:1" "me")] {}
    let actions := [.resolve 0 (.answered "") 5, .view 3, .event ⟨"a:1", .serverNamed "A"⟩ 7]
    let left := run {} actions (s.step {} (.issue .disconnect))
    left.Gone ∧ left.store = ({} : Store).replay {} (arrivals s.viewed actions) :=
  disconnect_is_final ⟨[.issue (.connect "a:1" "me")], rfl⟩ (by decide)

end VoiceChat.Session
