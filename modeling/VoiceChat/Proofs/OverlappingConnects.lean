import VoiceChat.Proofs.ActiveServer
import VoiceChat.Proofs.FailedSwitch
import VoiceChat.Proofs.Flags

/-!
# Connects that overlap

Any number of connects can be in flight at once, but the connection keeps the address of
one only. While nothing is connected it should be that of the connect issued last. It is,
up to the first failure of a connect while a later one is awaited: the failure takes the
later one's address away. `last_pursued_iff` says that nothing else does, in runs without
cancelled commands, reconnects, kicks and losses.
-/

namespace VoiceChat

/-! ## Where a connection is heading -/

/-- What a connect that is under way goes by. -/
def Connection.bearings (c : Connection) : ServerPhase × Text × Text × Reconnect :=
  (c.server, c.address, c.pendingAddress, c.reconnect)

namespace Session

/-- Whether a result decides about a connect: that of a connect, unless it is stale. -/
def decidesConnect (p : Pending) (s : Session) : Bool :=
  match p.command with
  | .connect .. => !s.isStale p
  | _ => false

/-- Whether a session is on its way to the server at `address`, so that events without a
tag are taken for that server's. -/
structure Pursues (s : Session) (address : Text) : Prop where
  connecting : s.connection.server = .connecting
  pending : s.connection.pendingAddress = address
  untagged : address ≠ "" → s.route "" = .staged address

/-- Whether a connect to `address` is under way, and has a store to fill. -/
structure HoldsTo (s : Session) (address : Text) : Prop where
  connecting : s.connection.server = .connecting
  pending : s.connection.pendingAddress = address
  staged : address ≠ "" → s.staged.contains address = true

/-- Whether a move is neither an event that ends a connection nor the result of a reconnect. -/
def Move.isPlain : Move → Bool
  | .receive event _ => !event.body.isEnd
  | .conclude p _ _ => p.command ≠ .reconnect
  | _ => true

/-- Whether an action is neither an event that ends a connection nor a reconnect, and
cancels no command. -/
def Action.isPlain : Action → Bool
  | .event arrived _ => !arrived.body.isEnd
  | .issue command => command ≠ .reconnect
  | .cancel .. => false
  | _ => true

variable {settings : Settings} {s : Session}

theorem isPlain_of_mem_journal {actions : List Action} (plain : ∀ a ∈ actions, a.isPlain = true)
    {m : Move} (made : m ∈ journal settings actions {}) : m.isPlain = true := by
  cases m with
  | receive event now =>
    obtain ⟨before, a, after, rfl, received⟩ := mem_journal settings made
    obtain rfl := event_of_receive received
    exact plain _ (List.mem_append_right _ List.mem_cons_self)
  | conclude p error now =>
    rcases issued_of_conclude settings made with old | ⟨before, after, rfl, -⟩
    · cases old
    · exact plain (.issue p.command) (List.mem_append_right _ List.mem_cons_self)
  | _ => rfl

theorem decidesConnect_congr {t : Session}
    (generation : t.connection.generation = s.connection.generation) (p : Pending) :
    t.decidesConnect p = s.decidesConnect p := by
  unfold decidesConnect isStale
  rw [generation]

theorem generation_of_decidesConnect {p : Pending} (h : s.decidesConnect p = true) :
    p.generation = s.connection.generation := by
  cases hc : p.command with
  | connect => simpa [decidesConnect, hc, isStale] using h
  | _ => simp [decidesConnect, hc] at h

/-! ## What leaves the bearings alone -/

theorem HoldsTo.pursues {address : Text} (h : s.HoldsTo address) : s.Pursues address := by
  refine ⟨h.connecting, h.pending, ?_⟩
  intro named
  have offline : s.connection.isConnected = false := by
    simp [Connection.isConnected, h.connecting]
  simp [route, offline, h.pending, h.staged named]

theorem connection_receive {event : Event} (lively : event.body.isEnd = false) (now : Int) :
    (s.receive settings now event).connection = s.connection := by
  cases hr : s.route event.serverAddr with
  | active => simp only [receive, hr, receiveActive_of_not_isEnd lively]
  | staged | nowhere => simp only [receive, hr]

theorem contains_receive (event : Event) (now : Int) (address : Text) :
    (s.receive settings now event).staged.contains address = s.staged.contains address := by
  cases hr : s.route event.serverAddr with
  | active => simp only [receive, hr, receiveActive_staged]
  | staged => simp only [receive, hr, Table.contains_modify]
  | nowhere => simp only [receive, hr]

theorem not_decidesSwitch_of_not_decidesConnect {p : Pending} (h : s.decidesConnect p = false) :
    s.decidesSwitch p = false := by
  cases hc : p.command with
  | connect =>
    simp only [decidesConnect, hc] at h
    simp [decidesSwitch, hc, h]
  | _ => simp [decidesSwitch, hc]

theorem decidesConnection_of_decidesConnect {p : Pending} (h : s.decidesConnect p = true) :
    s.decidesConnection p = true := by
  cases hc : p.command with
  | connect =>
    simp only [decidesConnect, hc] at h
    simp only [decidesConnection, hc, h]
  | _ => simp [decidesConnect, hc] at h

theorem conclude_failure {p : Pending} (h : s.decidesConnect p = true) {error : Text}
    (failed : error ≠ "") (now : Int) :
    (s.conclude settings now p error).1.connection = s.connection.connectFailed error := by
  cases hc : p.command with
  | connect =>
    simp only [decidesConnect, hc, Bool.not_eq_true'] at h
    simp [conclude, hc, concludeConnect, h, failed]
  | _ => simp [decidesConnect, hc] at h

theorem bearings_conclude {p : Pending} (free : s.decidesConnect p = false)
    (plain : p.command ≠ .reconnect) (error : Text) (now : Int) :
    (s.conclude settings now p error).1.connection.bearings = s.connection.bearings := by
  have shape := concluded settings error now s p
  generalize (s.conclude settings now p error).1.connection = c at shape ⊢
  cases shape with
  | connected decides =>
    cases hc : p.command with
    | reconnect => exact absurd hc plain
    | _ => simp_all [decidesConnect, decidesConnection]
  | connectFailed command fresh => simp [decidesConnect, command, fresh] at free
  | reconnectFailed command => exact absurd command plain
  | _ => rfl

end Session

open Session (Move Action)

/-- A session, and the connects that are awaited in it. -/
structure Attempts where
  session : Session := {}
  /-- How many commands have been issued. -/
  issued : Int := 0
  /-- The connects issued since the last disconnect whose results have not come, in their
  order of issue. -/
  awaited : List Pending := []

namespace Attempts

/-- The connects that are awaited after a move. -/
def outstanding (x : Attempts) : Move → List Pending
  | .prepare (.connect address username) =>
    x.awaited ++ [x.session.note (.connect address username) x.issued]
  | .prepare .disconnect => []
  | .conclude p _ _ => x.awaited.filter (· ≠ p)
  | _ => x.awaited

/-- The attempts after a move. -/
def move (settings : Settings) (x : Attempts) (m : Move) : Attempts where
  session := x.session.move settings m
  issued := if m.isPrepare then x.issued + 1 else x.issued
  awaited := x.outstanding m

/-- The attempts of a fresh session after `moves`. -/
def after (settings : Settings) (moves : List Move) : Attempts := moves.foldl (move settings) {}

/-- Whether the session is on its way to the server of the awaited connect that was issued
last, unless a server is connected. -/
def LastPursued (x : Attempts) : Prop :=
  x.session.connection.isConnected = false →
    ∀ p ∈ x.awaited.getLast?, x.session.Pursues p.address

/-- Whether a move is the failure of a connect, with nothing connected, while another
connect is awaited. -/
def Forgets (x : Attempts) : Move → Prop
  | .conclude p error _ =>
    error ≠ "" ∧ x.session.decidesConnect p = true ∧
      x.session.connection.isConnected = false ∧ x.awaited.filter (· ≠ p) ≠ []
  | _ => False

variable (settings : Settings) {x : Attempts}

theorem session_foldl (moves : List Move) (x : Attempts) :
    (moves.foldl (move settings) x).session = moves.foldl (Session.move settings) x.session :=
  (List.foldl_hom session fun _ _ => rfl).symm

/-! ## The connects that are awaited -/

/-- Awaited connects are not stale, and they stand in their order of issue. -/
structure InOrder (x : Attempts) : Prop where
  decides : ∀ p ∈ x.awaited, x.session.decidesConnect p = true
  ascending : x.awaited.Pairwise (·.ticket < ·.ticket)
  issued : ∀ p ∈ x.awaited, p.ticket < x.issued

theorem InOrder.of_nil (none : x.awaited = []) : x.InOrder := by
  constructor <;> simp [none]

/-- A move that issues no connect, and makes none stale that stays awaited. -/
theorem InOrder.of_sublist {y : Attempts} (hx : x.InOrder) (awaited : y.awaited.Sublist x.awaited)
    (generation : y.session.connection.generation = x.session.connection.generation)
    (issued : x.issued ≤ y.issued) : y.InOrder where
  decides p hp := by
    rw [Session.decidesConnect_congr generation]
    exact hx.decides p (awaited.subset hp)
  ascending := hx.ascending.sublist awaited
  issued p hp := Int.lt_of_lt_of_le (hx.issued p (awaited.subset hp)) issued

theorem inOrder_connect (hx : x.InOrder) (address username : Text) :
    (x.move settings (.prepare (.connect address username))).InOrder where
  decides p hp := by
    rcases List.mem_append.1 hp with before | new
    · exact hx.decides p before
    · obtain rfl := List.mem_singleton.1 new
      simp [move, Session.move, Session.decidesConnect, Session.note, Session.isStale]
  ascending := by
    apply List.pairwise_append.2
    refine ⟨hx.ascending, List.pairwise_singleton _ _, ?_⟩
    intro p hp q hq
    obtain rfl := List.mem_singleton.1 hq
    exact hx.issued p hp
  issued p hp := by
    have more : (x.move settings (.prepare (.connect address username))).issued = x.issued + 1 :=
      rfl
    rw [more]
    rcases List.mem_append.1 hp with before | new
    · have := hx.issued p before
      omega
    · obtain rfl := List.mem_singleton.1 new
      exact Int.lt_succ x.issued

theorem inOrder_move (hx : x.InOrder) (m : Move) : (x.move settings m).InOrder := by
  have more : x.issued ≤ (x.move settings m).issued := by
    simp only [move]
    split <;> omega
  have generation (other : m.isDisconnect = false) :
      (x.move settings m).session.connection.generation = x.session.connection.generation := by
    have counted := Session.generation_move settings (s := x.session) m
    rwa [other] at counted
  cases m with
  | prepare command =>
    cases command with
    | connect address username => exact inOrder_connect settings hx address username
    | disconnect => exact .of_nil rfl
    | _ => exact hx.of_sublist (List.Sublist.refl _) (generation rfl) more
  | conclude p error now => exact hx.of_sublist List.filter_sublist (generation rfl) more
  | _ => exact hx.of_sublist (List.Sublist.refl _) (generation rfl) more

theorem inOrder_after (moves : List Move) : (after settings moves).InOrder :=
  List.foldlRecOn moves (move settings) (.of_nil rfl) fun _ hx m _ =>
    inOrder_move settings hx m

/-! ## The connect issued last -/

/-- The invariant behind `LastPursued`, in runs of plain moves. -/
structure Heading (x : Attempts) : Prop where
  inOrder : x.InOrder
  inactive : x.session.connection.reconnect = .inactive
  unnamed : x.session.connection.isConnected = false → x.session.connection.address = ""
  last : x.session.connection.isConnected = false →
    ∀ p ∈ x.awaited.getLast?, x.session.HoldsTo p.address

variable {settings}

theorem Heading.lastPursued (hx : x.Heading) : x.LastPursued := by
  intro offline p latest
  exact (hx.last offline p latest).pursues

/-- A move that leaves the bearings, the stages and the awaited connects alone. -/
theorem Heading.of_bearings {y : Attempts} (hx : x.Heading) (inOrder : y.InOrder)
    (bearings : y.session.connection.bearings = x.session.connection.bearings)
    (staged : ∀ address, y.session.staged.contains address = x.session.staged.contains address)
    (awaited : y.awaited = x.awaited) : y.Heading := by
  obtain ⟨server, address, pending, reconnect⟩ : _ ∧ _ ∧ _ ∧ _ := by
    simpa only [Connection.bearings, Prod.mk.injEq] using bearings
  have same : y.session.connection.isConnected = x.session.connection.isConnected := by
    rw [Connection.isConnected, server, Connection.isConnected]
  refine ⟨inOrder, reconnect.trans hx.inactive, ?_, ?_⟩
  · intro offline
    exact address.trans (hx.unnamed (same ▸ offline))
  · intro offline p latest
    rw [awaited] at latest
    have held := hx.last (same ▸ offline) p latest
    refine ⟨server.trans held.connecting, pending.trans held.pending, ?_⟩
    intro named
    exact (staged p.address).trans (held.staged named)

/-- Where nothing is awaited, or a server is connected, there is nothing to head for. -/
theorem Heading.of_idle {y : Attempts} (inOrder : y.InOrder)
    (inactive : y.session.connection.reconnect = .inactive)
    (unnamed : y.session.connection.isConnected = false → y.session.connection.address = "")
    (idle : y.session.connection.isConnected = false → y.awaited = []) : y.Heading := by
  refine ⟨inOrder, inactive, unnamed, ?_⟩
  intro offline p latest
  rw [idle offline] at latest
  cases latest

/-- A connect is the one to go by as soon as it is issued. -/
theorem heading_connect (hx : x.Heading) (address username : Text) :
    (x.move settings (.prepare (.connect address username))).Heading := by
  have inOrder := inOrder_connect settings hx.inOrder address username
  have same := x.session.connection.isConnected_beginConnect address
  refine ⟨inOrder, hx.inactive, ?_, ?_⟩
  · intro offline
    exact hx.unnamed (same ▸ offline)
  · intro offline p latest
    have newest : (x.move settings (.prepare (.connect address username))).awaited.getLast? =
        some (x.session.note (.connect address username) x.issued) := List.getLast?_concat
    rw [newest] at latest
    obtain rfl := Option.some.inj latest
    have before : x.session.connection.isConnected = false := same ▸ offline
    refine ⟨?_, rfl, ?_⟩
    · simp [move, Session.move, Session.prepare, Connection.beginConnect, before]
    · intro (named : address ≠ "")
      -- without an address of its own, the connection switches to any server that has one
      have switches : x.session.connection.switches address = true := by
        simp [Connection.switches, hx.unnamed before, named]
      simp [move, Session.move, Session.prepare, Session.note, switches, Table.contains]

/-- A result that decides about no connect. -/
theorem heading_bystander (hx : x.Heading) {p : Pending} (free : x.session.decidesConnect p = false)
    (plain : p.command ≠ .reconnect) (error : Text) (now : Int) :
    (x.move settings (.conclude p error now)).Heading := by
  have others : ∀ q ∈ x.awaited, q ≠ p := by
    rintro q hq rfl
    rw [hx.inOrder.decides q hq] at free
    cases free
  have awaited : x.awaited.filter (· ≠ p) = x.awaited :=
    List.filter_eq_self.2 fun q hq => decide_eq_true (others q hq)
  have staged := (Session.conclude_of_not_decidesSwitch settings error now
    (Session.not_decidesSwitch_of_not_decidesConnect free)).2
  apply hx.of_bearings
  · exact inOrder_move settings hx.inOrder (.conclude p error now)
  · exact Session.bearings_conclude free plain error now
  · intro address
    exact congrArg (·.contains address) staged
  · exact awaited

theorem heading_success (hx : x.Heading) {p : Pending} (decides : x.session.decidesConnect p = true)
    (now : Int) : (x.move settings (.conclude p "" now)).Heading := by
  have connected : (x.move settings (.conclude p "" now)).session.connection = _ :=
    Session.conclude_success settings now (Session.decidesConnection_of_decidesConnect decides)
  have inOrder := inOrder_move settings hx.inOrder (.conclude p "" now)
  refine .of_idle inOrder ?_ ?_ ?_ <;> rw [connected]
  · rfl
  · exact nofun
  · exact nofun

/-- A failure does no harm when no other connect is awaited. -/
theorem heading_failure (hx : x.Heading) {p : Pending} (decides : x.session.decidesConnect p = true)
    {error : Text} (failed : error ≠ "") (now : Int)
    (alone : x.session.connection.isConnected = false → x.awaited.filter (· ≠ p) = []) :
    (x.move settings (.conclude p error now)).Heading := by
  have connection : (x.move settings (.conclude p error now)).session.connection = _ :=
    Session.conclude_failure decides failed now
  have same := x.session.connection.isConnected_connectFailed error
  have inOrder := inOrder_move settings hx.inOrder (.conclude p error now)
  refine .of_idle inOrder ?_ ?_ ?_ <;> rw [connection]
  · exact hx.inactive
  · intro offline
    exact hx.unnamed (same ▸ offline)
  · intro offline
    exact alone (same ▸ offline)

theorem heading_conclude (hx : x.Heading) {p : Pending} {error : Text} {now : Int}
    (plain : p.command ≠ .reconnect) (h : ¬x.Forgets (.conclude p error now)) :
    (x.move settings (.conclude p error now)).Heading := by
  cases decides : x.session.decidesConnect p with
  | false => exact heading_bystander hx decides plain error now
  | true =>
    by_cases success : error = ""
    · subst success
      exact heading_success hx decides now
    · apply heading_failure hx decides success now
      intro offline
      by_contra more
      exact h ⟨success, decides, offline, more⟩

theorem heading_move (hx : x.Heading) {m : Move} (plain : m.isPlain = true)
    (h : ¬x.Forgets m) : (x.move settings m).Heading := by
  have inOrder := inOrder_move settings hx.inOrder m
  cases m with
  | receive event now =>
    have lively : event.body.isEnd = false := by simpa [Move.isPlain] using plain
    exact hx.of_bearings inOrder (congrArg _ (Session.connection_receive lively now))
      (Session.contains_receive event now) rfl
  | view channel => exact hx.of_bearings inOrder rfl (fun _ => rfl) rfl
  | tick now =>
    exact hx.of_bearings inOrder (congrArg _ (Connection.poll_of_inactive now hx.inactive))
      (fun _ => rfl) rfl
  | cancelReconnect =>
    exact hx.of_bearings inOrder (congrArg _ (Connection.cancelReconnect_of_inactive hx.inactive))
      (fun _ => rfl) rfl
  | prepare command =>
    cases command with
    | connect address username => exact heading_connect hx address username
    | disconnect => exact .of_idle inOrder rfl (fun _ => rfl) (fun _ => rfl)
    | _ => exact hx.of_bearings inOrder rfl (fun _ => rfl) rfl
  | conclude p error now => exact heading_conclude hx (by simpa [Move.isPlain] using plain) h

/-- The failure leaves the session on its way to nowhere. -/
theorem not_lastPursued_of_forgets {m : Move} (h : x.Forgets m) :
    ¬(x.move settings m).LastPursued := by
  cases m with
  | conclude p error now =>
    obtain ⟨failed, decides, offline, more⟩ := h
    have connection : (x.move settings (.conclude p error now)).session.connection = _ :=
      Session.conclude_failure decides failed now
    have last := List.getLast?_eq_some_getLast more
    intro pursued
    have stillOffline := (x.session.connection.isConnected_connectFailed error).trans offline
    have connecting := (pursued (connection ▸ stillOffline) _ last).connecting
    rw [connection] at connecting
    cases hs : x.session.connection.server <;> simp [Connection.connectFailed, hs] at connecting
  | _ => exact h.elim

/-! ## The connects in flight -/

/-- What the attempts have to do with the commands in flight. -/
structure Accounts (s : Session) (x : Attempts) : Prop where
  session : s = x.session.withFlight s.calling s.queue
  issued : x.issued = s.queue.next
  mem_iff : ∀ p, p ∈ x.awaited ↔ p ∈ s.inFlight ∧ s.decidesConnect p = true

theorem foldl_awaited {moves : List Move} (quiet : ∀ m ∈ moves, m.isPrepare = false)
    (x : Attempts) :
    (moves.foldl (move settings) x).issued = x.issued ∧
    ∀ p, p ∈ (moves.foldl (move settings) x).awaited ↔
      p ∈ x.awaited ∧ ¬∃ error now, .conclude p error now ∈ moves := by
  induction moves generalizing x with
  | nil => simp
  | cons m moves ih =>
    have first := quiet m List.mem_cons_self
    obtain ⟨issued, mem_iff⟩ := ih (fun m hm => quiet m (List.mem_cons_of_mem _ hm))
      (x.move settings m)
    refine ⟨issued.trans (by simp [move, first]), ?_⟩
    intro p
    rw [List.foldl_cons, mem_iff]
    cases m with
    | prepare command => cases first
    | conclude q error now =>
      by_cases same : p = q
      · subst same
        have made : ∃ error' now', Move.conclude p error' now' ∈ .conclude p error now :: moves :=
          ⟨error, now, List.mem_cons_self⟩
        simp only [move, outstanding, made]
        simp
      · simp [move, outstanding, same]
    | _ => simp [move, outstanding]

variable {s : Session}

theorem Accounts.session_step (hx : Accounts s x) (a : Action) :
    s.step settings a =
      ((s.moves a).foldl (move settings) x).session.withFlight (s.step settings a).calling
        (s.step settings a).queue := by
  obtain ⟨calling, queue⟩ := Session.flight_step settings s a
  have register : s.register a = x.session.withFlight (s.flight a).calling (s.flight a).queue :=
    (congrArg (Session.withFlight (s.flight a).calling (s.flight a).queue) hx.session).trans rfl
  rw [calling, queue, session_foldl, Session.step_eq_moves, register, Session.foldl_withFlight]

theorem Accounts.note (hx : Accounts s x) (command : Command) :
    x.session.note command x.issued = s.note command s.queue.next := by
  rw [hx.issued, hx.session]
  cases command <;> rfl

theorem accounts_issue (hx : Accounts s x) (reachable : Session.Reachable settings s)
    (command : Command) :
    Accounts (s.step settings (.issue command)) (x.move settings (.prepare command)) := by
  have queue := (Session.flight_step settings s (.issue command)).2
  have issued : x.issued + 1 = (s.step settings (.issue command)).queue.next := by
    rw [hx.issued, queue]
    rfl
  refine ⟨hx.session_step (.issue command), issued, ?_⟩
  intro p
  have inFlight : p ∈ (s.step settings (.issue command)).inFlight ↔
      p ∈ s.inFlight ∨ p = s.note command s.queue.next := by
    simp [reachable.inTurn.mem_inFlight_step_iff settings, Session.issued, Session.cancels,
      Session.moves]
  rw [inFlight]
  have generation := Session.generation_step settings s (.issue command)
  cases command with
  | connect address username =>
    have own : s.decidesConnect (s.note (.connect address username) s.queue.next) = true := by
      simp [Session.decidesConnect, Session.note, Session.isStale, Session.prepare,
        Connection.beginConnect]
    rw [Session.decidesConnect_congr generation]
    simp only [move, outstanding, hx.note, List.mem_append, List.mem_singleton, hx.mem_iff]
    constructor
    · rintro (⟨before, decides⟩ | rfl)
      · exact ⟨.inl before, decides⟩
      · exact ⟨.inr rfl, own⟩
    · rintro ⟨before | rfl, decides⟩
      · exact .inl ⟨before, decides⟩
      · exact .inr rfl
  | disconnect =>
    refine iff_of_false List.not_mem_nil ?_
    rintro ⟨before | rfl, decides⟩
    · have behind := reachable.generation_le p before
      have current := Session.generation_of_decidesConnect decides
      have later : (s.step settings (.issue .disconnect)).connection.generation =
          s.connection.generation + 1 := generation
      omega
    · cases decides
  | _ =>
    rw [Session.decidesConnect_congr generation]
    refine (hx.mem_iff p).trans ⟨And.imp_left Or.inl, ?_⟩
    rintro ⟨before | rfl, decides⟩
    · exact ⟨before, decides⟩
    · cases decides

theorem accounts_step (hx : Accounts s x) (reachable : Session.Reachable settings s) {a : Action}
    (plain : a.isPlain = true) :
    Accounts (s.step settings a) ((s.moves a).foldl (move settings) x) := by
  by_cases issue : ∃ command, a = .issue command
  · obtain ⟨command, rfl⟩ := issue
    exact accounts_issue hx reachable command
  · have quiet : ∀ m ∈ s.moves a, m.isPrepare = false := by
      intro m hm
      cases m with
      | prepare command => exact absurd ⟨command, Session.issue_of_prepare hm⟩ issue
      | _ => rfl
    obtain ⟨none, uncancelled, unnumbered, other⟩ : s.issued a = [] ∧ s.cancels a = [] ∧
        s.issues a = [] ∧ a.issues (· = .disconnect) = false := by
      cases a with
      | issue command => exact absurd ⟨command, rfl⟩ issue
      | cancel => cases plain
      | _ => exact ⟨rfl, rfl, rfl, rfl⟩
    have next : (s.step settings a).queue.next = s.queue.next := by
      rw [(Session.flight_step settings s a).2, (reachable.inTurn.sequenced a).next_eq, unnumbered]
      exact Int.add_zero _
    have generation := Session.generation_step settings s a
    rw [other] at generation
    obtain ⟨issued, mem_iff⟩ := foldl_awaited quiet x
    refine ⟨hx.session_step a, issued.trans (hx.issued.trans next.symm), ?_⟩
    intro p
    rw [mem_iff, hx.mem_iff, Session.decidesConnect_congr generation,
      reachable.inTurn.mem_inFlight_step_iff settings, none, uncancelled]
    simp [and_right_comm]

theorem accounts_run (hx : Accounts s x) (reachable : Session.Reachable settings s)
    {actions : List Action} (plain : ∀ a ∈ actions, a.isPlain = true) :
    Accounts (Session.run settings actions s)
      ((Session.journal settings actions s).foldl (move settings) x) := by
  induction actions generalizing s x with
  | nil => exact hx
  | cons a actions ih =>
    rw [Session.run_cons, Session.journal, List.foldl_append]
    apply ih
    · exact accounts_step hx reachable (plain a List.mem_cons_self)
    · exact reachable.step a
    · intro b hb
      exact plain b (List.mem_cons_of_mem _ hb)

/-- In every run without cancelled commands, reconnects, kicks and losses, a session that is
not connected is on its way to the server of the awaited connect issued last, as long as no
connect fails while another one is awaited, and such a failure takes it off its way. The
awaited connects are those in flight that are not stale. -/
theorem last_pursued_iff {settings : Settings} {actions : List Action}
    (plain : ∀ a ∈ actions, a.isPlain = true) :
    let moves := Session.journal settings actions {}
    let s := Session.run settings actions {}
    s = (after settings moves).session.withFlight s.calling s.queue ∧
    (∀ p, p ∈ (after settings moves).awaited ↔ p ∈ s.inFlight ∧ s.decidesConnect p = true) ∧
    (∀ front, front <+: moves → (after settings front).awaited.Pairwise (·.ticket < ·.ticket)) ∧
    ((∀ front, front <+: moves → (after settings front).LastPursued) ↔
      ∀ front m, front ++ [m] <+: moves → ¬(after settings front).Forgets m) := by
  intro moves s
  have accounts : Accounts s (after settings moves) :=
    accounts_run ⟨rfl, rfl, fun p => by simp [Session.inFlight]⟩ ⟨[], rfl⟩ plain
  refine ⟨accounts.session, accounts.mem_iff, ?_, ?_⟩
  · intro front _
    exact (inOrder_after settings front).ascending
  · apply Session.foldl_throughout_iff_of_mem (I := Heading)
    · intro x hx
      exact hx.lastPursued
    · intro m made x hx h
      exact heading_move hx (Session.isPlain_of_mem_journal plain made) h
    · intro m _ x _ forgets
      exact not_lastPursued_of_forgets forgets
    · exact .of_idle (.of_nil rfl) rfl (fun _ => rfl) (fun _ => rfl)

/-- Two connects in flight after a disconnect, and no failure. -/
theorem pursues_second_connect :
    let actions := [.issue (.connect "a:1" "me"), .resolve 0 (.answered "") 0,
      .issue .disconnect, .issue (.connect "b:2" "me"), .issue (.connect "c:3" "me")]
    let moves := Session.journal {} actions {}
    (∀ a ∈ actions, a.isPlain = true) ∧
    (after {} moves).awaited.map Pending.address = (["b:2", "c:3"] : List Text) ∧
    ∀ front, front <+: moves → (after {} front).LastPursued := by
  intro actions moves
  have plain : ∀ a ∈ actions, a.isPlain = true := by decide +kernel
  obtain ⟨-, -, -, pursued⟩ := @last_pursued_iff {} actions plain
  have listed : moves = [.prepare (.connect "a:1" "me"),
      .conclude (({} : Session).note (.connect "a:1" "me") 0) "" 0, .prepare .disconnect,
      .prepare (.connect "b:2" "me"), .prepare (.connect "c:3" "me")] := rfl
  refine ⟨plain, by decide +kernel, ?_⟩
  apply pursued.2
  intro front m pre forgets
  have made : m ∈ moves := pre.subset (List.mem_append_right _ List.mem_cons_self)
  cases m with
  | conclude p error now =>
    have success : error = "" := by
      simp only [listed, List.mem_cons, reduceCtorEq, Move.conclude.injEq, List.not_mem_nil,
        or_false, false_or] at made
      exact made.2.1
    exact forgets.1 success
  | _ => exact forgets

/-- Of two connects in flight, the one issued first fails. -/
theorem second_connect_forgotten :
    let actions := [.issue (.connect "a:1" "me"), .issue (.connect "b:2" "me"),
      .resolve 0 (.answered "refused") 0]
    let s := Session.run {} actions {}
    (∀ a ∈ actions, a.isPlain = true) ∧
    s.inFlight.map (fun p => (p.command, s.decidesConnect p)) =
      [(.connect "b:2" "me", true)] ∧
    s.connection.server = .disconnected ∧ s.connection.pendingAddress = "" ∧
    s.route "" = .active ∧ s.staged.contains "b:2" = true := by
  decide +kernel

end Attempts

end VoiceChat
