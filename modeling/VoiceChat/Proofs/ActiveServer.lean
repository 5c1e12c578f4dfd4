import VoiceChat.Proofs.ConnectionMoves
import VoiceChat.Proofs.Ledger

/-!
# Whose store is on show

While a server is connected, the events taken in by the store on show should all
have come from it. They do as long as every result that connects also puts the
store of its server on show. The result of a reconnect never does, nor does that
of a connect to the server that was active when it was issued, and another one
may have become active meanwhile. `owned_iff_no_drift` says that the store on
show and the address drift apart at such a result and at no other.
-/

namespace VoiceChat

/-- Whether all tagged intakes came from the server at `address`. -/
def OnlyFrom (address : Text) (intakes : List Intake) : Prop :=
  ∀ intake ∈ intakes, intake.tag = "" ∨ intake.tag = address

instance (address : Text) (intakes : List Intake) : Decidable (OnlyFrom address intakes) :=
  inferInstanceAs (Decidable (∀ intake ∈ intakes, intake.tag = "" ∨ intake.tag = address))

theorem onlyFrom_nil (address : Text) : OnlyFrom address [] :=
  fun _ mem => absurd mem List.not_mem_nil

theorem OnlyFrom.concat {address : Text} {intakes : List Intake} {intake : Intake}
    (h : OnlyFrom address intakes) (hi : intake.tag = "" ∨ intake.tag = address) :
    OnlyFrom address (intakes ++ [intake]) := by
  intro i mem
  rcases List.mem_append.1 mem with before | new
  · exact h i before
  · rw [List.mem_singleton] at new
    exact new ▸ hi

namespace Session

variable {settings : Settings} {s : Session} {p : Pending}

/-! ## Where events go -/

theorem route_active {server : Text} (h : s.route server = .active)
    (ha : s.connection.address ≠ "") : server = "" ∨ server = s.connection.address := by
  by_cases untagged : server = ""
  · exact .inl untagged
  · simp only [route, untagged, if_false] at h
    split at h
    · simp at h
    · split at h
      · simp at h
      · next same =>
        simp only [ne_eq, not_and, Decidable.not_not] at same
        exact .inr (same ha)

theorem route_staged {server address : Text} (h : s.route server = .staged address) :
    server = "" ∨ server = address := by
  by_cases untagged : server = ""
  · exact .inl untagged
  · simp only [route, untagged, if_false] at h
    split at h
    · exact .inr (Route.staged.inj h)
    · split at h <;> simp at h

theorem decidesConnection_of_decidesSwitch (h : s.decidesSwitch p = true) :
    s.decidesConnection p = true := by
  cases hc : p.command with
  | connect => simp_all [decidesSwitch, decidesConnection]
  | _ => simp [decidesSwitch, hc] at h

end Session

namespace Account

/-- Whether what is shown came from the server that is connected. -/
def Owned (x : Account) : Prop :=
  x.session.connection.server = .connected → x.session.connection.address ≠ "" →
    OnlyFrom x.session.connection.address x.ledger.shown

instance (x : Account) : Decidable x.Owned :=
  inferInstanceAs (Decidable (x.session.connection.server = .connected →
    x.session.connection.address ≠ "" → OnlyFrom x.session.connection.address x.ledger.shown))

/-- Whether a move is a result that connects without putting another store on show,
while events of another server are shown. -/
def Drifts (x : Account) : Session.Move → Prop
  | .conclude p error _ =>
    error = "" ∧ x.session.decidesConnection p = true ∧ x.session.decidesSwitch p = false ∧
      p.address ≠ "" ∧ ¬OnlyFrom p.address x.ledger.shown
  | _ => False

/-- The invariant behind `Owned`: every store holds events of its own server only. -/
structure Attributed (x : Account) : Prop where
  shown : x.session.connection.address ≠ "" →
    OnlyFrom x.session.connection.address x.ledger.shown
  staged : ∀ address intakes, x.ledger.staged.get? address = some intakes →
    OnlyFrom address intakes

variable {settings : Settings} {x : Account}

theorem Attributed.owned (hx : x.Attributed) : x.Owned := fun _ => hx.shown

/-- A move that keeps the address and the ledger. -/
theorem Attributed.of_eq {y : Account} (hx : x.Attributed)
    (address : y.session.connection.address = x.session.connection.address)
    (ledger : y.ledger = x.ledger) : y.Attributed := by
  refine ⟨?_, ?_⟩
  · rw [address, ledger]
    exact hx.shown
  · rw [ledger]
    exact hx.staged

theorem attributed_receive (hx : x.Attributed) (event : Event) (now : Int) :
    (x.move settings (.receive event now)).Attributed := by
  have address := congrArg Prod.fst (Session.servers_receive settings now event (s := x.session))
  cases hr : x.session.route event.serverAddr with
  | active =>
    refine ⟨fun ha => ?_, ?_⟩
    · simp only [move, record, hr, Session.move] at ha ⊢
      rw [show (x.session.receive settings now event).connection.address = _ from address] at ha ⊢
      exact (hx.shown ha).concat (Session.route_active hr ha)
    · simp only [move, record, hr]
      exact hx.staged
  | staged target =>
    refine ⟨fun ha => ?_, fun key intakes found => ?_⟩
    · simp only [move, record, hr, Session.move] at ha ⊢
      rw [show (x.session.receive settings now event).connection.address = _ from address] at ha ⊢
      exact hx.shown ha
    · simp only [move, record, hr, Table.get?_modify] at found
      split at found
      · next same =>
        subst same
        obtain ⟨before, hb, rfl⟩ := Option.map_eq_some_iff.1 found
        exact (hx.staged _ before hb).concat (Session.route_staged hr)
      · exact hx.staged key intakes found
  | nowhere =>
    refine hx.of_eq address ?_
    simp only [move, record, hr]

theorem attributed_prepare (hx : x.Attributed) (command : Command) :
    (x.move settings (.prepare command)).Attributed := by
  cases command with
  | connect address username =>
    cases switches : x.session.connection.switches address with
    | true =>
      simp only [move, record, switches, if_true]
      refine ⟨hx.shown, fun key intakes found => ?_⟩
      rw [Table.get?_insert] at found
      split at found
      · cases found
        exact onlyFrom_nil key
      · exact hx.staged key intakes found
    | false =>
      refine hx.of_eq rfl ?_
      simp only [move, record, switches]
      rfl
  | disconnect => exact ⟨fun ha => absurd rfl ha, fun _ _ found => by cases found⟩
  | _ => exact hx.of_eq rfl rfl

/-- The result of a switch: the stage is taken, and put on show if the switch succeeded. -/
theorem attributed_switch (hx : x.Attributed) {p : Pending} {error : Text} {now : Int}
    (decides : x.session.decidesSwitch p = true) :
    (x.move settings (.conclude p error now)).Attributed := by
  have ledger : (x.move settings (.conclude p error now)).ledger =
      { shown := if error = "" then (x.ledger.staged.get? p.address).getD [] else x.ledger.shown
        staged := x.ledger.staged.erase p.address } := by
    simp only [move, record, decides, if_true]
  refine ⟨?_, fun address intakes found => ?_⟩
  · rw [ledger]
    by_cases success : error = ""
    · subst success
      have connected : (x.move settings (.conclude p "" now)).session.connection = _ :=
        Session.conclude_success settings now (Session.decidesConnection_of_decidesSwitch decides)
      rw [connected, if_pos rfl]
      intro _
      cases found : x.ledger.staged.get? p.address with
      | some intakes => exact hx.staged p.address intakes found
      | none => exact onlyFrom_nil _
    · have same : (x.move settings (.conclude p error now)).session.connection.address = _ :=
        (Session.concluded settings error now x.session p).address fun h => success h.1
      rw [same, if_neg success]
      exact hx.shown
  · rw [ledger, Table.get?_erase] at found
    split at found
    · cases found
    · exact hx.staged address intakes found

theorem ledger_of_not_decidesSwitch (settings : Settings) {p : Pending} (error : Text) (now : Int)
    (h : x.session.decidesSwitch p = false) :
    (x.move settings (.conclude p error now)).ledger = x.ledger := by
  simp only [move, record, h]
  rfl

theorem attributed_conclude (hx : x.Attributed) {p : Pending} {error : Text} {now : Int}
    (h : ¬x.Drifts (.conclude p error now)) :
    (x.move settings (.conclude p error now)).Attributed := by
  cases decides : x.session.decidesSwitch p with
  | true => exact attributed_switch hx decides
  | false =>
    have kept := ledger_of_not_decidesSwitch settings error now decides
    by_cases connects : error = "" ∧ x.session.decidesConnection p = true
    · obtain ⟨rfl, connects⟩ := connects
      have connected : (x.move settings (.conclude p "" now)).session.connection = _ :=
        Session.conclude_success settings now connects
      refine ⟨?_, kept ▸ hx.staged⟩
      rw [connected, kept]
      exact fun named => Decidable.not_not.1 fun other => h ⟨rfl, connects, decides, named, other⟩
    · exact hx.of_eq ((Session.concluded settings error now x.session p).address connects) kept

theorem attributed_move (hx : x.Attributed) {m : Session.Move} (h : ¬x.Drifts m) :
    (x.move settings m).Attributed := by
  cases m with
  | receive event now => exact attributed_receive hx event now
  | view channel =>
    exact ⟨fun ha => (hx.shown ha).concat (.inl rfl), hx.staged⟩
  | tick now =>
    exact hx.of_eq (congrArg Prod.fst (Connection.servers_poll x.session.connection now)) rfl
  | cancelReconnect =>
    exact hx.of_eq (congrArg Prod.fst (Connection.servers_cancelReconnect x.session.connection)) rfl
  | prepare command => exact attributed_prepare hx command
  | conclude p error now => exact attributed_conclude hx h

/-- A move that drifts makes a server the active one while events of another are shown. -/
theorem not_owned_of_drifts (settings : Settings) {m : Session.Move} (h : x.Drifts m) :
    ¬(x.move settings m).Owned := by
  cases m with
  | conclude p error now =>
    obtain ⟨rfl, connects, direct, named, other⟩ := h
    have connected : (x.move settings (.conclude p "" now)).session.connection = _ :=
      Session.conclude_success settings now connects
    rw [Owned, connected, ledger_of_not_decidesSwitch settings "" now direct]
    exact fun owned => other (owned rfl named)
  | _ => exact h.elim

theorem attributed_foldl {moves : List Session.Move} (hx : x.Attributed)
    (h : ∀ before m, before ++ [m] <+: moves → ¬(before.foldl (move settings) x).Drifts m) :
    (moves.foldl (move settings) x).Attributed :=
  Session.foldl_unbroken (I := Attributed) (fun _ _ hx h => attributed_move hx h) hx h

/-- In every run, the store on show and the address of the connection drift apart at a
result that connects without putting another store on show, and nowhere else. The
ledger accounts for the stores all along. -/
theorem owned_iff_no_drift (settings : Settings) (actions : List Session.Action) :
    let moves := Session.journal settings actions {}
    let s := Session.run settings actions {}
    s = (after settings moves).session.withFlight s.calling s.queue ∧
    (∀ before, before <+: moves → (after settings before).Faithful settings) ∧
    ((∀ before, before <+: moves → (after settings before).Owned) ↔
      ∀ before m, before ++ [m] <+: moves → ¬(after settings before).Drifts m) := by
  intro moves s
  refine ⟨?_, fun before _ => faithful_after before, fun owned before m pre drifts => ?_,
    fun steady before pre => ?_⟩
  · rw [session_after]
    exact Session.run_eq_journal settings actions {}
  · refine not_owned_of_drifts settings drifts ?_
    rw [← after_concat]
    exact owned _ pre
  · have fresh : ({} : Account).Attributed :=
      ⟨fun named => absurd rfl named, fun _ _ found => by cases found⟩
    exact (attributed_foldl fresh fun front m h => steady front m (h.trans pre)).owned

/-- Two connects in flight: when the second was issued, its server was the active one,
and when its result comes, the first has made another server the active one. -/
def overtaken : List Session.Action :=
  [.issue (.connect "a:1" "me"), .resolve 0 (.answered "") 0,
    .issue (.connect "b:2" "me"), .issue (.connect "a:1" "me"),
    .event ⟨"b:2", .serverNamed "B"⟩ 0,
    .resolve 1 (.answered "") 0, .resolve 2 (.answered "") 0]

theorem not_owned_overtaken :
    let s := Session.run {} overtaken {}
    s.connection.server = .connected ∧ s.connection.address = "a:1" ∧ s.store.serverName = "B" ∧
    ¬(after {} (Session.journal {} overtaken {})).Owned := by
  decide +kernel

end Account

end VoiceChat
