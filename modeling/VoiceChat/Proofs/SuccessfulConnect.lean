import VoiceChat.Proofs.FailedSwitch
import VoiceChat.Proofs.Ledger

/-!
# A successful connect shows what its server sent

While a connect is in flight, the events of its server go to the staged store, and
so do untagged events as long as no server is connected. Nothing else reaches that
store, whatever happens to the old server meanwhile: `Filling` says what the store
has taken in, and every event, look, tick and cancelled countdown keeps it
(`filling_step`). When the connect succeeds, that store is put on show
(`successful_connect_shows_its_events`).
-/

namespace VoiceChat

namespace Session

/-- Whether an event that arrives now is for the server at `target`, whose connect is in
flight: it comes from there, or is untagged while no server is connected. -/
def isFor (target : Text) (event : Event) (s : Session) : Bool :=
  event.serverAddr = target ∨ (event.serverAddr = "" ∧ s.connection.isConnected = false)

/-- What an action brings for the server at `target`. -/
def brings (target : Text) (s : Session) : Action → List Intake
  | .event event now => if s.isFor target event then [.event event false s.viewed now] else []
  | _ => []

/-- What a run brings for the server at `target`, in order of arrival, with the channel
on screen and the clock reading at that time. -/
def intakesFor (settings : Settings) (target : Text) : List Action → Session → List Intake
  | [], _ => []
  | a :: as, s => s.brings target a ++ intakesFor settings target as (s.step settings a)

/-- A connect to `target` is in flight, and its store has taken in `intakes`. -/
structure Filling (settings : Settings) (target : Text) (intakes : List Intake)
    (s : Session) : Prop where
  pendingAddress : s.connection.pendingAddress = target
  staged : s.staged.get? target = some (({} : Store).replay settings intakes)

variable {settings : Settings} {s : Session} {target : Text} {intakes : List Intake}

/-! ## What the staged store takes in -/

theorem Filling.route_iff (h : Filling settings target intakes s) (named : target ≠ "")
    (event : Event) : s.route event.serverAddr = .staged target ↔ s.isFor target event = true := by
  have contains : s.staged.contains target = true := by
    rw [Table.contains, h.staged]
    rfl
  by_cases untagged : event.serverAddr = ""
  · cases connected : s.connection.isConnected <;>
      simp [route, isFor, untagged, connected, h.pendingAddress, contains, Ne.symm named]
  · by_cases own : event.serverAddr = target
    · simp [route, isFor, own, named, contains]
    · simp only [route, isFor, untagged, own, if_false, false_and, or_self, decide_false]
      split
      · simp [own]
      · split <;> simp

theorem filling_receive (h : Filling settings target intakes s) (named : target ≠ "")
    (event : Event) (now : Int) :
    (s.receive settings now event).staged.get? target =
      some (({} : Store).replay settings (intakes ++ s.brings target (.event event now))) := by
  have routed := h.route_iff named event
  cases hr : s.route event.serverAddr with
  | active =>
    have other : s.isFor target event = false := by simpa [hr] using routed
    simpa [receive, hr, receiveActive_staged, brings, other] using h.staged
  | nowhere =>
    have other : s.isFor target event = false := by simpa [hr] using routed
    simpa [receive, hr, brings, other] using h.staged
  | staged address =>
    by_cases same : address = target
    · subst same
      have own : s.isFor address event = true := routed.1 hr
      simp only [receive, hr, brings, own, if_true]
      rw [Table.get?_modify, if_pos rfl, h.staged, Store.replay_concat]
      rfl
    · have other : s.isFor target event = false := by simpa [hr, same] using routed
      simp only [receive, hr, brings, other, List.append_nil, Bool.false_eq_true, if_false]
      rw [Table.get?_modify, if_neg (Ne.symm same)]
      exact h.staged

/-- Events, looks, ticks and cancelled countdowns neither connect nor disconnect. -/
theorem servers_step (settings : Settings) (s : Session) {a : Action}
    (input : a.isCommand = false) :
    (s.step settings a).connection.servers = s.connection.servers := by
  cases a with
  | event event now => exact servers_receive settings now event
  | view channel => rfl
  | tick now => exact Connection.servers_poll s.connection now
  | cancelReconnect => exact Connection.servers_cancelReconnect s.connection
  | _ => cases input

theorem servers_run {actions : List Action} (inputs : ∀ a ∈ actions, a.isCommand = false) :
    (run settings actions s).connection.servers = s.connection.servers := by
  induction actions generalizing s with
  | nil => rfl
  | cons a actions ih =>
    have rest := ih (s := s.step settings a) fun b hb => inputs b (List.mem_cons_of_mem _ hb)
    exact rest.trans (servers_step settings s (inputs a List.mem_cons_self))

theorem filling_step (h : Filling settings target intakes s) (named : target ≠ "") {a : Action}
    (input : a.isCommand = false) :
    Filling settings target (intakes ++ s.brings target a) (s.step settings a) := by
  have pending := congrArg (·.2.1) (servers_step settings s input)
  refine ⟨Eq.trans pending h.pendingAddress, ?_⟩
  cases a with
  | event event now => exact filling_receive h named event now
  | view | tick | cancelReconnect =>
    simp only [brings, List.append_nil]
    exact h.staged
  | _ => cases input

theorem filling_run (h : Filling settings target intakes s) (named : target ≠ "")
    {actions : List Action} (inputs : ∀ a ∈ actions, a.isCommand = false) :
    Filling settings target (intakes ++ intakesFor settings target actions s)
      (run settings actions s) := by
  induction actions generalizing s intakes with
  | nil => simpa [intakesFor] using h
  | cons a actions ih =>
    have first := filling_step h named (inputs a List.mem_cons_self)
    have rest := ih first fun b hb => inputs b (List.mem_cons_of_mem _ hb)
    rw [List.append_assoc] at rest
    exact rest

/-- A kick or a loss at the server to connect to changes nothing at all. -/
theorem Filling.receive_end (h : Filling settings target intakes s) (named : target ≠ "")
    {event : Event} (own : s.isFor target event = true) (ends : event.body.isEnd = true)
    (now : Int) : s.receive settings now event = s := by
  have still : ∀ store : Store, store.receive settings s.viewed now event.body = store := by
    intro store
    cases hb : event.body with
    | kicked | connectionLost => rfl
    | _ => simp [hb, Event.Body.isEnd] at ends
  simp only [receive, (h.route_iff named event).2 own]
  rw [Table.modify_eq_self still]

/-! ## What the store on show held before does not matter -/

theorem step_withStore (settings : Settings) (s : Session) (former : Store) {a : Action}
    (input : a.isCommand = false) :
    ∃ store, { s with store := former }.step settings a = { s.step settings a with store } := by
  cases a with
  | event event now =>
    have same : { s with store := former }.route event.serverAddr = s.route event.serverAddr := rfl
    simp only [step, perform, receive, same]
    cases s.route event.serverAddr with
    | active => cases event.body <;> exact ⟨_, rfl⟩
    | staged | nowhere => exact ⟨_, rfl⟩
  | view | tick | cancelReconnect => exact ⟨_, rfl⟩
  | _ => cases input

theorem intakesFor_withStore (former : Store) {actions : List Action}
    (inputs : ∀ a ∈ actions, a.isCommand = false) :
    intakesFor settings target actions { s with store := former } =
      intakesFor settings target actions s := by
  induction actions generalizing s former with
  | nil => rfl
  | cons a actions ih =>
    obtain ⟨store, stepped⟩ := step_withStore settings s former (inputs a List.mem_cons_self)
    have brought : ({ s with store := former } : Session).brings target a = s.brings target a := by
      cases a <;> rfl
    rw [intakesFor, intakesFor, stepped, brought,
      ih store fun b hb => inputs b (List.mem_cons_of_mem _ hb)]

/-! ## The result -/

theorem filling_issue (other : target ≠ s.connection.address) (username : Text) :
    Filling settings target [] (s.step settings (.issue (.connect target username))) where
  pendingAddress := rfl
  staged := by
    simp [step, perform, issue, prepare, Connection.switches, other]
    rfl

/-- A switch that succeeded, and whose store is put on show. -/
theorem conclude_successful_switch {p : Pending} {address username : Text}
    (command : p.command = .connect address username) (switching : p.switching = true)
    (fresh : s.isStale p = false) (now : Int) :
    s.conclude settings now p "" =
      ({ s with connection := s.connection.connectSucceeded p.address }.promote p.address,
        none) := by
  simp [conclude, command, concludeConnect, switching, fresh]

theorem resolve_successful_connect (hs : s.InTurn) (calling : s.calling = [])
    (waiting : s.queue.waiting = []) (named : target ≠ "") (other : target ≠ s.connection.address)
    (username : Text) {actions : List Action} (inputs : ∀ a ∈ actions, a.isCommand = false)
    {reply : Reply} (success : (Command.connect target username).errorOf reply = "") (now : Int) :
    let trying := s.step settings (.issue (.connect target username))
    let tried := run settings actions trying
    let result := tried.resolve settings now s.queue.next reply
    result.1.store = ({} : Store).replay settings (intakesFor settings target actions trying) ∧
      result.1.connection = tried.connection.connectSucceeded target ∧
      result.2 = [(s.queue.next, .returned "")] := by
  intro trying tried result
  have filling : Filling settings target (intakesFor settings target actions trying) tried :=
    filling_run (filling_issue other username) named inputs
  have attempt : result = _ := resolve_only settings hs calling waiting (.connect target username)
    (flight_run_inputs settings inputs) reply now
  have fresh : (tried.withFlight [] tried.queue.advance).isStale
      (s.note (.connect target username) s.queue.next) = false := by
    have generation : tried.connection.generation = trying.connection.generation :=
      congrArg (·.2.2) (servers_run inputs)
    simp only [isStale, withFlight, generation]
    simp [trying, step, perform, issue, note, prepare, Connection.beginConnect]
  have switching : (s.note (.connect target username) s.queue.next).switching = true := by
    simp [note, Connection.switches, other]
  rw [success, conclude_successful_switch rfl switching fresh] at attempt
  rw [attempt]
  refine ⟨?_, rfl, rfl⟩
  have promoted : tried.staged.get? target = _ := filling.staged
  simp only [promote, withFlight, note, promoted, Option.getD_some]

/-- When nothing is in flight, a connect to another server that succeeds puts a store on
show that holds, whatever was on show before, exactly what has arrived for that server
since the connect was issued. Kicks and losses at that server change nothing
meanwhile. -/
theorem successful_connect_shows_its_events (reachable : Reachable settings s)
    (calling : s.calling = []) (waiting : s.queue.waiting = []) (named : target ≠ "")
    (other : target ≠ s.connection.address) (username : Text)
    {actions : List Action} (inputs : ∀ a ∈ actions, a.isCommand = false)
    {reply : Reply} (success : (Command.connect target username).errorOf reply = "") (now : Int) :
    let trying := s.step settings (.issue (.connect target username))
    let result := (run settings actions trying).perform settings (.resolve s.queue.next reply now)
    result.1.store = ({} : Store).replay settings (intakesFor settings target actions trying) ∧
      (∀ former : Store,
        let trying' := { s with store := former }.step settings (.issue (.connect target username))
        let result' :=
          (run settings actions trying').perform settings (.resolve s.queue.next reply now)
        result'.1.store = result.1.store) ∧
      (∀ before event arrival after, actions = before ++ .event event arrival :: after →
        let meanwhile := run settings before trying
        meanwhile.isFor target event = true → event.body.isEnd = true →
        meanwhile.step settings (.event event arrival) = meanwhile) ∧
      result.1.connection.server = .connected ∧ result.1.connection.address = target ∧
      result.2 = [(s.queue.next, .returned "")] := by
  intro trying result
  have inTurn : s.InTurn := reachable.inTurn
  obtain ⟨store, connection, reports⟩ := resolve_successful_connect inTurn calling waiting named
    other username inputs success now
  refine ⟨store, ?_, ?_, ?_, ?_, reports⟩
  · intro former trying' result'
    have inTurn' : ({ s with store := former } : Session).InTurn := ⟨inTurn.orderly, inTurn.rested⟩
    obtain ⟨store', -, -⟩ := resolve_successful_connect inTurn' calling waiting named other
      username inputs success now
    have unchanged : intakesFor settings target actions trying' =
        intakesFor settings target actions trying :=
      intakesFor_withStore (s := trying) former inputs
    rw [unchanged] at store'
    exact store'.trans store.symm
  · rintro before event arrival after rfl meanwhile own ends
    have filling : Filling settings target _ meanwhile :=
      filling_run (filling_issue other username) named fun a ha =>
        inputs a (List.mem_append_left _ ha)
    exact filling.receive_end named own ends arrival
  · exact congrArg Connection.server connection
  · exact congrArg Connection.address connection

/-- The old server is lost on the way, so that untagged events turn to the new one, which
throws the user out before the connect has succeeded. -/
theorem shows_new_server_after_loss :
    let s := run {} [.issue (.connect "a:1" "me"), .resolve 0 (.answered "") 0] {}
    let actions := [.event ⟨"", .serverNamed "A"⟩ 1, .event ⟨"a:1", .connectionLost ""⟩ 2,
      .event ⟨"", .serverNamed "B"⟩ 3, .view 4, .tick 2000, .event ⟨"b:2", .kicked⟩ 2001,
      .event ⟨"a:1", .serverNamed "A"⟩ 2002, .cancelReconnect]
    let trying := s.step {} (.issue (.connect "b:2" "me"))
    let result := (run {} actions trying).perform {} (.resolve s.queue.next .silent 2003)
    result.1.store = ({} : Store).replay {} (intakesFor {} "b:2" actions trying) ∧
      result.1.store.serverName = "B" ∧ result.1.connection.address = "b:2" := by
  intro s actions trying result
  have reachable : Reachable {} s := ⟨_, rfl⟩
  have inputs : ∀ a ∈ actions, a.isCommand = false := by decide
  have success : (Command.connect "b:2" "me").errorOf .silent = "" := by decide
  obtain ⟨store, -, -, -, address, -⟩ := successful_connect_shows_its_events reachable
    (by decide +kernel) (by decide +kernel) (by decide : ("b:2" : Text) ≠ "") (by decide +kernel) "me"
    inputs success 2003
  have named : (({} : Store).replay {} (intakesFor {} "b:2" actions trying)).serverName = "B" := by
    decide +kernel
  dsimp only [result, trying]
  exact ⟨store, (congrArg Store.serverName store).trans named, address⟩

end Session

end VoiceChat
