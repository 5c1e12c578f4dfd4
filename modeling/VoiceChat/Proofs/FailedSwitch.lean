import VoiceChat.Proofs.ConnectionMoves
import VoiceChat.Proofs.ResultOrder

/-!
# A failed switch leaves no trace

While a connect to another server is in flight, the session goes on as if there
were none: what that server sends goes to its staged store, and the rest goes
where it went before. `Shadows` relates the session that tries to switch with
the one that does not, and every event, look and tick keeps it (`shadows_step`).
When the connect fails, the stage is dropped, and only the error remains
(`failed_switch_leaves_no_trace`).
-/

namespace VoiceChat

/-- Whether an event ends the connection of its server. -/
def Event.Body.isEnd : Event.Body → Bool
  | .kicked => true
  | .connectionLost _ => true
  | _ => false

namespace Session

/-- Whether an action is an event, a look or a tick that leaves the connection to the
server at `address` alone. -/
def Action.isHarmless (address : Text) : Action → Bool
  | .event e _ => e.body.isEnd = true → e.serverAddr ≠ "" ∧ e.serverAddr ≠ address
  | .view _ => true
  | .tick _ => true
  | _ => false

/-- A server is connected, and nothing else is under way. -/
structure Calm (s : Session) : Prop where
  connected : s.connection.server = .connected
  address : s.connection.address ≠ ""
  pendingAddress : s.connection.pendingAddress = ""
  staged : s.staged = .empty
  calling : s.calling = []
  waiting : s.queue.waiting = []

/-- A connection to a server, with another one to switch to. -/
structure Switchable (c : Connection) (target : Text) : Prop where
  connected : c.server = .connected
  inactive : c.reconnect = .inactive
  address_ne : c.address ≠ ""
  target_ne : target ≠ ""
  other : target ≠ c.address

/-- What a session that tries to switch to `target` has in common with one that does not
and whose connection stays as it is. -/
structure Shadows (c : Connection) (target : Text) (x y : Session) : Prop where
  store : x.store = y.store
  viewed : x.viewed = y.viewed
  trying : x.connection = { c with pendingAddress := target }
  plain : y.connection = c
  staged : x.staged.keys = [target]
  unstaged : y.staged = .empty

variable {settings : Settings} {s x y : Session} {c : Connection} {target : Text}

/-! ## Where events go meanwhile -/

theorem receiveActive_of_not_isEnd {body : Event.Body} (h : body.isEnd = false) (now : Int) :
    s.receiveActive settings now body =
      { s with store := s.store.receive settings s.viewed now body } := by
  cases body with
  | kicked | connectionLost => cases h
  | _ => rfl

theorem route_of_connected (h : s.connection.server = .connected) (server : Text) :
    s.route server =
      if server = "" then .active
      else if s.staged.contains server then .staged server
      else if s.connection.address ≠ "" ∧ server ≠ s.connection.address then .nowhere
      else .active := by
  simp [route, Connection.isConnected, h]

theorem Shadows.contains (h : Shadows c target x y) (server : Text) :
    x.staged.contains server = true ↔ server = target := by
  rw [Table.contains, Table.get?_isSome_iff, h.staged, List.mem_singleton]

theorem Shadows.route (h : Shadows c target x y) (hc : Switchable c target) (server : Text) :
    (x.route server = .active ∧ y.route server = .active ∧ (server = "" ∨ server = c.address)) ∨
    (x.route server = .staged target ∧ y.route server = .nowhere) ∨
    (x.route server = .nowhere ∧ y.route server = .nowhere) := by
  rw [route_of_connected (by rw [h.trying]; exact hc.connected),
    route_of_connected (by rw [h.plain]; exact hc.connected), h.trying, h.plain, h.unstaged]
  by_cases untagged : server = ""
  · simp [untagged]
  · by_cases toTarget : server = target
    · subst toTarget
      simp [untagged, (h.contains server).2 rfl, hc.address_ne, hc.other]
    · have elsewhere : x.staged.contains server = false := by
        rw [← Bool.not_eq_true, h.contains]
        exact toTarget
      by_cases active : server = c.address
      · simp [← active, elsewhere]
      · simp [untagged, elsewhere, hc.address_ne, active]

theorem shadows_receive (h : Shadows c target x y) (hc : Switchable c target) {event : Event}
    (harmless : event.body.isEnd = true → event.serverAddr ≠ "" ∧ event.serverAddr ≠ c.address)
    (now : Int) :
    Shadows c target (x.receive settings now event) (y.receive settings now event) := by
  obtain ⟨routeX, routeY, live⟩ | ⟨routeX, routeY⟩ | ⟨routeX, routeY⟩ :=
    h.route hc event.serverAddr
  · have lively : event.body.isEnd = false := by
      cases ends : event.body.isEnd with
      | true =>
        obtain ⟨tagged, foreign⟩ := harmless ends
        exact absurd live (by simp [tagged, foreign])
      | false => rfl
    simp only [receive, routeX, routeY, receiveActive_of_not_isEnd lively]
    exact { h with store := by rw [h.store, h.viewed] }
  · simp only [receive, routeX, routeY]
    exact { h with staged := by rw [Table.keys_modify, h.staged] }
  · simpa only [receive, routeX, routeY] using h

theorem shadows_step (h : Shadows c target x y) (hc : Switchable c target) {a : Action}
    (harmless : a.isHarmless c.address = true) :
    Shadows c target (x.step settings a) (y.step settings a) := by
  cases a with
  | event event now => exact shadows_receive h hc (of_decide_eq_true harmless) now
  | view channel =>
    exact { h with store := congrArg (Store.resetUnread channel) h.store, viewed := rfl }
  | tick now =>
    have stillX : (x.connection.poll now).1 = x.connection :=
      Connection.poll_of_inactive now (by rw [h.trying]; exact hc.inactive)
    have stillY : (y.connection.poll now).1 = y.connection :=
      Connection.poll_of_inactive now (by rw [h.plain]; exact hc.inactive)
    exact { h with trying := stillX.trans h.trying, plain := stillY.trans h.plain }
  | _ => cases harmless

theorem shadows_run (h : Shadows c target x y) (hc : Switchable c target) {actions : List Action}
    (harmless : ∀ a ∈ actions, a.isHarmless c.address = true) :
    Shadows c target (run settings actions x) (run settings actions y) := by
  induction actions generalizing x y with
  | nil => exact h
  | cons a actions ih =>
    exact ih (shadows_step h hc (harmless a List.mem_cons_self))
      fun b hb => harmless b (List.mem_cons_of_mem _ hb)

/-- Nothing that is in flight ends meanwhile. -/
theorem flight_run {address : Text} {actions : List Action}
    (harmless : ∀ a ∈ actions, a.isHarmless address = true) :
    (run settings actions s).calling = s.calling ∧ (run settings actions s).queue = s.queue := by
  refine flight_run_inputs settings fun a ha => ?_
  have first := harmless a ha
  cases a with
  | event | view | tick => rfl
  | _ => cases first

/-! ## The attempt -/

theorem Calm.switchable (hs : s.Calm) (reachable : Reachable settings s) (named : target ≠ "")
    (other : target ≠ s.connection.address) : Switchable s.connection target :=
  ⟨hs.connected, reachable.quiet hs.connected, hs.address, named, other⟩

theorem shadows_issue (hs : s.Calm) (other : target ≠ s.connection.address) (username : Text) :
    Shadows s.connection target (s.step settings (.issue (.connect target username))) s where
  store := rfl
  viewed := rfl
  trying := by
    simp [step, perform, issue, prepare, Connection.beginConnect, Connection.isConnected,
      hs.connected]
  plain := rfl
  staged := by
    simp [step, perform, issue, prepare, Connection.switches, other, hs.staged, Table.keys_insert]
  unstaged := hs.staged

/-- A failed connect gives the connection back as it was, and tells the error. -/
theorem connectFailed_of_connected (connected : c.server = .connected)
    (pending : c.pendingAddress = "") (target error : Text) :
    { c with pendingAddress := target : Connection }.connectFailed error = { c with error } := by
  simp [Connection.connectFailed, connected, pending]

/-- A switch that failed, and whose stage is dropped. -/
theorem conclude_failed_switch {p : Pending} {address username error : Text}
    (command : p.command = .connect address username) (switching : p.switching = true)
    (fresh : s.isStale p = false) (failed : error ≠ "") (now : Int) :
    s.conclude settings now p error =
      ({ s with
          connection := s.connection.connectFailed error
          staged := s.staged.erase p.address }, none) := by
  simp [conclude, command, concludeConnect, switching, fresh, failed]

/-- Once the attempt is undone, only the error sets the two sessions apart. -/
theorem Shadows.undone (h : Shadows c target x y) (connected : c.server = .connected)
    (pending : c.pendingAddress = "") (error : Text) :
    x.connection.connectFailed error = { y.connection with error } ∧
    x.staged.erase target = .empty := by
  refine ⟨?_, Table.eq_empty_of_keys ?_⟩
  · rw [h.trying, h.plain]
    exact connectFailed_of_connected connected pending target error
  · simp [Table.keys_erase, h.staged]

/-- The result of the attempt finds nothing else in flight. -/
theorem resolve_attempt (reachable : Reachable settings s) (hs : s.Calm) (command : Command)
    (hx : x.calling = s.calling ++ [s.note command s.queue.next] ∧ x.queue = s.queue.issue.1)
    (reply : Reply) (now : Int) :
    x.resolve settings now s.queue.next reply =
      let concluded := (x.withFlight [] x.queue.advance).conclude settings now
        (s.note command s.queue.next) (command.errorOf reply)
      (concluded.1, [(s.queue.next,
        outcomeOf (s.note command s.queue.next) (command.errorOf reply) concluded.2)]) :=
  resolve_only settings reachable.inTurn hs.calling hs.waiting command hx reply now

/-- From a calm session, a connect to another server that fails is invisible: until its
result comes, store, screen and connection are as without it, apart from the pending
address, and afterwards apart from the error. -/
theorem failed_switch_leaves_no_trace (reachable : Reachable settings s) (hs : s.Calm)
    (named : target ≠ "") (other : target ≠ s.connection.address) (username : Text)
    {actions : List Action} (harmless : ∀ a ∈ actions, a.isHarmless s.connection.address = true)
    {reply : Reply} (failed : (Command.connect target username).errorOf reply ≠ "") (now : Int) :
    let trying := s.step settings (.issue (.connect target username))
    (∀ before, before <+: actions →
      let x := run settings before trying
      let y := run settings before s
      x.store = y.store ∧ x.viewed = y.viewed ∧
        x.connection = { y.connection with pendingAddress := target }) ∧
    let error := (Command.connect target username).errorOf reply
    let y := run settings actions s
    let result := (run settings actions trying).perform settings (.resolve s.queue.next reply now)
    result.1.store = y.store ∧ result.1.viewed = y.viewed ∧
      result.1.connection = { y.connection with error } ∧
      result.1.staged = .empty ∧ result.2 = [(s.queue.next, .returned error)] := by
  intro trying
  have switchable := hs.switchable reachable named other
  have start : Shadows s.connection target trying s := shadows_issue hs other username
  constructor
  · intro before pre x y
    have shadows : Shadows s.connection target x y :=
      shadows_run start switchable fun a ha => harmless a (pre.subset ha)
    exact ⟨shadows.store, shadows.viewed, by rw [shadows.trying, shadows.plain]⟩
  · intro error y result
    have shadows : Shadows s.connection target (run settings actions trying) y :=
      shadows_run start switchable harmless
    have attempt : result = _ := resolve_attempt reachable hs (.connect target username)
      (flight_run harmless) reply now
    have fresh : ((run settings actions trying).withFlight []
        (run settings actions trying).queue.advance).isStale
          (s.note (.connect target username) s.queue.next) = false := by
      simp [isStale, withFlight, shadows.trying, note, prepare, Connection.beginConnect]
    have switching : (s.note (.connect target username) s.queue.next).switching = true := by
      simp [note, Connection.switches, other]
    rw [conclude_failed_switch rfl switching fresh failed] at attempt
    obtain ⟨connection, staged⟩ := shadows.undone hs.connected hs.pendingAddress error
    rw [attempt]
    exact ⟨shadows.store, shadows.viewed, connection, staged, rfl⟩

/-- The other server throws the user out meanwhile, and the one connected is renamed. -/
theorem refused_switch_leaves_no_trace :
    let s := run {} [.issue (.connect "a:1" "me"), .resolve 0 (.answered "") 0] {}
    let actions := [.event ⟨"b:2", .kicked⟩ 1, .event ⟨"", .serverNamed "A"⟩ 2, .view 3, .tick 4]
    let trying := s.step {} (.issue (.connect "b:2" "me"))
    let result := (run {} actions trying).perform {} (.resolve s.queue.next (.raised "refused") 5)
    result.1.store = (run {} actions s).store ∧
      result.1.connection = { (run {} actions s).connection with error := "refused" } := by
  intro s actions trying result
  have calm : s.Calm :=
    ⟨by decide, by decide, by decide, by decide +kernel, by decide +kernel, by decide +kernel⟩
  have harmless : ∀ a ∈ actions, a.isHarmless s.connection.address = true := by decide
  have failed : (Command.connect "b:2" "me").errorOf (.raised "refused") ≠ "" := by decide
  obtain ⟨-, store, -, connection, -⟩ := failed_switch_leaves_no_trace ⟨_, rfl⟩ calm
    (by decide : ("b:2" : Text) ≠ "") (by decide) "me" harmless failed 5
  exact ⟨store, connection⟩

end Session

end VoiceChat
