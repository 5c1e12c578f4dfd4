import VoiceChat.Proofs.Moves

/-!
# What the stores have taken in

A ledger holds, for the store on show and for every staged store, the events and
the looks at channels that the store has taken in since it was empty, each with
the channel on screen and the clock reading at its arrival. It is kept beside
the session, move by move, and it accounts for the stores: replaying it on
empty stores gives them back (`faithful_after`).
-/

namespace VoiceChat

/-- Something that a store takes in. -/
inductive Intake where
  /-- An event; `live` tells whether it came for the store on show. -/
  | event (event : Event) (live : Bool) (viewed now : Int)
  /-- A look at a channel. -/
  | viewed (channel : Int)

/-- The server that an intake is tagged with, empty for an untagged one. -/
def Intake.tag : Intake → Text
  | .event arrived _ _ _ => arrived.serverAddr
  | .viewed _ => ""

namespace Store

/-- What an event does to the store on show, where a kick is announced. -/
def receiveLive (settings : Settings) (viewed now : Int) (body : Event.Body) (s : Store) : Store :=
  match body with
  | .kicked => s.announce settings now settings.kickedReason
  | body => s.receive settings viewed now body

/-- What an intake does to a store. -/
def take (settings : Settings) (s : Store) : Intake → Store
  | .event event live viewed now =>
    if live then s.receiveLive settings viewed now event.body
    else s.receive settings viewed now event.body
  | .viewed channel => s.resetUnread channel

/-- The store after taking in `intakes`, in order. -/
def replay (settings : Settings) (intakes : List Intake) (s : Store) : Store :=
  intakes.foldl (take settings) s

theorem replay_concat (settings : Settings) (intakes : List Intake) (intake : Intake) (s : Store) :
    s.replay settings (intakes ++ [intake]) = (s.replay settings intakes).take settings intake := by
  simp [replay]

end Store

namespace Session

theorem receiveActive_store (settings : Settings) (now : Int) (body : Event.Body) (s : Session) :
    (s.receiveActive settings now body).store = s.store.receiveLive settings s.viewed now body := by
  cases body <;> rfl

theorem receiveActive_staged (settings : Settings) (now : Int) (body : Event.Body) (s : Session) :
    (s.receiveActive settings now body).staged = s.staged := by
  cases body <;> rfl

theorem receiveActive_viewed (settings : Settings) (now : Int) (body : Event.Body) (s : Session) :
    (s.receiveActive settings now body).viewed = s.viewed := by
  cases body <;> rfl

/-- Whether a result decides about a staged store: that of a connect to another
server, unless it is stale. -/
def decidesSwitch (p : Pending) (s : Session) : Bool :=
  match p.command with
  | .connect .. => !s.isStale p && p.switching
  | _ => false

variable (settings : Settings) {p : Pending} {s : Session} (error : Text) (now : Int)

theorem conclude_of_decidesSwitch (h : s.decidesSwitch p = true) :
    (s.conclude settings now p error).1.store =
      (if error = "" then (s.staged.get? p.address).getD {} else s.store) ∧
    (s.conclude settings now p error).1.staged = s.staged.erase p.address := by
  cases hc : p.command with
  | connect =>
    simp only [decidesSwitch, hc, Bool.and_eq_true, Bool.not_eq_true'] at h
    simp only [conclude, hc, concludeConnect, h]
    by_cases he : error = "" <;> simp [he, promote]
  | _ => simp [decidesSwitch, hc] at h

/-- No other result touches the stores. -/
theorem conclude_of_not_decidesSwitch (h : s.decidesSwitch p = false) :
    (s.conclude settings now p error).1.store = s.store ∧
    (s.conclude settings now p error).1.staged = s.staged := by
  cases hc : p.command with
  | connect =>
    simp only [decidesSwitch, hc, Bool.and_eq_false_iff, Bool.not_eq_false'] at h
    simp only [conclude, hc, concludeConnect]
    split
    · exact ⟨rfl, rfl⟩
    · next fresh =>
      have direct : p.switching = false := h.resolve_left fresh
      split <;> simp [direct]
  | reconnect =>
    simp only [conclude, hc, concludeReconnect]
    split
    · exact ⟨rfl, rfl⟩
    · split <;> exact ⟨rfl, rfl⟩
  | joinVoice =>
    simp only [conclude, hc]
    split <;> exact ⟨rfl, rfl⟩
  | _ =>
    simp only [conclude, hc]
    split <;> exact ⟨rfl, rfl⟩

end Session

/-- What the store on show and the staged stores have taken in. -/
structure Ledger where
  shown : List Intake := []
  staged : Table Text (List Intake) := .empty

/-- A session and the ledger of its stores. -/
structure Account where
  session : Session := {}
  ledger : Ledger := {}

namespace Account

/-- The ledger after a move, made in the session of the account. -/
def record (x : Account) : Session.Move → Ledger
  | .receive event now =>
    match x.session.route event.serverAddr with
    | .active =>
      { x.ledger with shown := x.ledger.shown ++ [.event event true x.session.viewed now] }
    | .staged address =>
      { x.ledger with
        staged := x.ledger.staged.modify address
          (· ++ [.event event false x.session.viewed now]) }
    | .nowhere => x.ledger
  | .view channel => { x.ledger with shown := x.ledger.shown ++ [.viewed channel] }
  | .prepare (.connect address _) =>
    if x.session.connection.switches address then
      { x.ledger with staged := x.ledger.staged.insert address [] }
    else x.ledger
  | .prepare .disconnect => {}
  | .conclude p error _ =>
    if x.session.decidesSwitch p then
      { shown := if error = "" then (x.ledger.staged.get? p.address).getD [] else x.ledger.shown
        staged := x.ledger.staged.erase p.address }
    else x.ledger
  | _ => x.ledger

/-- The account after a move. -/
def move (settings : Settings) (x : Account) (m : Session.Move) : Account where
  session := x.session.move settings m
  ledger := x.record m

/-- The account of a fresh session after `moves`. -/
def after (settings : Settings) (moves : List Session.Move) : Account :=
  moves.foldl (move settings) {}

variable (settings : Settings)

theorem after_concat (moves : List Session.Move) (m : Session.Move) :
    after settings (moves ++ [m]) = (after settings moves).move settings m := by
  simp [after]

theorem session_after (moves : List Session.Move) :
    (after settings moves).session = moves.foldl (Session.move settings) {} :=
  (List.foldl_hom session fun _ _ => rfl).symm

/-- The ledger gives back the stores. -/
structure Faithful (x : Account) : Prop where
  store : x.session.store = ({} : Store).replay settings x.ledger.shown
  staged : x.session.staged =
    x.ledger.staged.mapValues fun _ intakes => ({} : Store).replay settings intakes

variable {settings} {x : Account}

theorem Faithful.get? (hx : x.Faithful settings) (address : Text) :
    (x.session.staged.get? address).getD {} =
      ({} : Store).replay settings ((x.ledger.staged.get? address).getD []) := by
  rw [hx.staged, Table.get?_mapValues]
  cases x.ledger.staged.get? address <;> rfl

theorem Faithful.erase (hx : x.Faithful settings) (address : Text) :
    x.session.staged.erase address =
      (x.ledger.staged.erase address).mapValues fun _ intakes =>
        ({} : Store).replay settings intakes := by
  rw [hx.staged]
  exact (Table.mapValues_erase _ _ _).symm

theorem faithful_receive (hx : x.Faithful settings) (event : Event) (now : Int) :
    (x.move settings (.receive event now)).Faithful settings := by
  obtain ⟨store, staged⟩ := hx
  cases hr : x.session.route event.serverAddr with
  | active =>
    constructor
    · simp only [move, record, Session.move, Session.receive, hr]
      rw [Session.receiveActive_store, Store.replay_concat, store]
      rfl
    · simp only [move, record, Session.move, Session.receive, hr]
      rw [Session.receiveActive_staged, staged]
  | staged address =>
    constructor
    · simpa only [move, record, Session.move, Session.receive, hr] using store
    · simp only [move, record, Session.move, Session.receive, hr, staged]
      refine (Table.mapValues_modify (fun intakes => ?_) _ _).symm
      simp [Store.replay_concat, Store.take]
  | nowhere =>
    constructor
    · simpa only [move, record, Session.move, Session.receive, hr] using store
    · simpa only [move, record, Session.move, Session.receive, hr] using staged

theorem faithful_prepare (hx : x.Faithful settings) (command : Command) :
    (x.move settings (.prepare command)).Faithful settings := by
  obtain ⟨store, staged⟩ := hx
  cases command with
  | connect address username =>
    by_cases switches : x.session.connection.switches address = true
    · constructor
      · simpa only [move, record, Session.move, Session.prepare, switches, if_true] using store
      · simp only [move, record, Session.move, Session.prepare, switches, if_true, staged]
        exact (Table.mapValues_insert (fun intakes => ({} : Store).replay settings intakes)
          x.ledger.staged address []).symm
    · rw [Bool.not_eq_true] at switches
      simp only [move, record, Session.move, Session.prepare, switches]
      exact ⟨store, staged⟩
  | disconnect => exact ⟨rfl, rfl⟩
  | _ => exact ⟨store, staged⟩

theorem faithful_conclude (hx : x.Faithful settings) (p : Pending) (error : Text) (now : Int) :
    (x.move settings (.conclude p error now)).Faithful settings := by
  cases decides : x.session.decidesSwitch p with
  | true =>
    obtain ⟨store, staged⟩ := Session.conclude_of_decidesSwitch settings error now decides
    constructor
    · simp only [move, record, Session.move, store, decides, if_true]
      split
      · exact hx.get? p.address
      · exact hx.store
    · simp only [move, record, Session.move, staged, decides, if_true]
      exact hx.erase p.address
  | false =>
    obtain ⟨store, staged⟩ := Session.conclude_of_not_decidesSwitch settings error now decides
    constructor
    · simp only [move, record, Session.move, store, decides]
      exact hx.store
    · simp only [move, record, Session.move, staged, decides]
      exact hx.staged

theorem faithful_move (hx : x.Faithful settings) (m : Session.Move) :
    (x.move settings m).Faithful settings := by
  cases m with
  | receive event now => exact faithful_receive hx event now
  | view channel =>
    refine ⟨?_, hx.staged⟩
    simp only [move, record, Session.move, Session.view, Store.replay_concat, hx.store]
    rfl
  | tick now => exact ⟨hx.store, hx.staged⟩
  | cancelReconnect => exact ⟨hx.store, hx.staged⟩
  | prepare command => exact faithful_prepare hx command
  | conclude p error now => exact faithful_conclude hx p error now

/-- Replaying the ledger of a session gives its stores. -/
theorem faithful_after (moves : List Session.Move) : (after settings moves).Faithful settings :=
  List.foldlRecOn moves (move settings) ⟨rfl, rfl⟩ fun _ hx m _ => faithful_move hx m

end Account

end VoiceChat
