import VoiceChat.Proofs.Addressing
import VoiceChat.Proofs.Ledger

/-!
# The stores of a session

An event delivers a message to the log of its store, amends one, narrates, or leaves the
log alone (`received`). Events and looks at channels fill the store on show and the staged
ones; connects and disconnects put stores on show, drop them and start empty ones. So what
holds of an empty store and is kept by events and looks holds of all stores of a session
(`allStores_move`), and what holds of an empty log and is kept by events holds of all logs
(`allStores_run`). In particular the logs are consistent, as long as the messages that are
posted have natural ids (`consistent_session`).
-/

namespace VoiceChat

namespace Event.Body

/-- The id of the message that an event posts. -/
def postedId? : Event.Body → Option Int
  | .chatPosted post => some post.msgId
  | _ => none

/-- The change to a message that an event asks for. -/
def change? : Event.Body → Option Store.Change
  | .chatEdited msgId text ts => some (.edit msgId text ts)
  | .chatDeleted msgId => some (.delete msgId)
  | .reactionAdded msgId emoji userId => some (.react msgId emoji userId)
  | .reactionRemoved msgId emoji userId => some (.unreact msgId emoji userId)
  | .messagePinned msgId _ _ => some (.pin msgId true)
  | .messageUnpinned msgId => some (.pin msgId false)
  | .linkPreviewed msgId _ preview => some (.attachPreview msgId preview)
  | _ => none

/-- The message that an event amends, and what becomes of it. -/
def amendment? (body : Event.Body) : Option (Int × (Message → Message)) :=
  body.change?.bind Store.Change.amendment?

/-- The id of the message that an event amends. -/
def amendedId? (body : Event.Body) : Option Int := body.amendment?.map Prod.fst

/-- The id of the message that a chat event is about, posted or amended. -/
def about? (body : Event.Body) : Option Int := body.postedId?.or body.amendedId?

variable {body : Event.Body} {id : Int} {f : Message → Message}

theorem amendment?_keeps (h : body.amendment? = some (id, f)) (m : Message) :
    (f m).msgId = m.msgId ∧ (f m).channelId = m.channelId := by
  obtain ⟨change, -, amends⟩ := Option.bind_eq_some_iff.1 h
  exact Store.amendment?_keeps amends m

theorem about?_of_amendment? (h : body.amendment? = some (id, f)) : body.about? = some id := by
  cases body <;> cases h <;> rfl

theorem postedId?_of_amendment? (h : body.amendment? = some (id, f)) :
    body.postedId? = none := by
  cases body <;> cases h <;> rfl

theorem postedId?_of_about? (h : body.about? = none) : body.postedId? = none :=
  (Option.or_eq_none_iff.1 h).1

end Event.Body

namespace Store

/-! ## What an event does to the log -/

/-- What an event makes of the log of its store. -/
inductive Received (settings : Settings) (log : MessageLog) (now : Int) :
    Event.Body → MessageLog → Prop where
  | posted (post : Post) : Received settings log now (.chatPosted post)
      (log.deliver settings.maxMessagesPerChannel post.toMessage).1
  | amended {body : Event.Body} {id : Int} {f : Message → Message}
      (amends : body.amendment? = some (id, f)) : Received settings log now body (log.modify id f)
  | narrated {body : Event.Body} (text : Text) (unaddressed : body.about? = none) :
      Received settings log now body
        (log.narrate settings.maxMessagesPerChannel lobby text now)
  | untouched {body : Event.Body} (unaddressed : body.about? = none) :
      Received settings log now body log

variable (settings : Settings) {s : Store} {body : Event.Body}

theorem received_announce (unaddressed : body.about? = none) (now : Int) (text : Text) :
    Received settings s.log now body (s.announce settings now text).log := by
  unfold announce
  split
  · exact .narrated text unaddressed
  · exact .untouched unaddressed

theorem log_post (viewed : Int) (p : Post) : (s.post settings viewed p).log =
    (s.log.deliver settings.maxMessagesPerChannel p.toMessage).1 := by
  simp only [post]
  split <;> rfl

theorem receive_of_amendment? {id : Int} {f : Message → Message}
    (amends : body.amendment? = some (id, f)) (viewed now : Int) :
    s.receive settings viewed now body = s.modifyMessage id f := by
  cases body <;> cases amends <;> rfl

theorem received (s : Store) (viewed now : Int) (body : Event.Body) :
    Received settings s.log now body (s.receive settings viewed now body).log := by
  cases amends : body.amendment? with
  | some amendment =>
    rw [receive_of_amendment? settings amends]
    exact .amended amends
  | none =>
    cases body with
    | chatEdited | chatDeleted | reactionAdded | reactionRemoved | messagePinned
    | messageUnpinned | linkPreviewed => cases amends
    | chatPosted post =>
      rw [receive, log_post]
      exact .posted post
    | userJoined id username role =>
      exact received_announce settings (s := s.upsertUser { id, username, role }) rfl now _
    | userLeft id =>
      simp only [receive, leave]
      split
      · exact received_announce settings (s := s.removeUser id) rfl now _
      · exact .untouched rfl
    | typingSignalled userId username channelId =>
      simp only [receive, noteSignal]
      split <;> exact .untouched rfl
    | videoChanged userId active screenShare =>
      simp only [receive, setVideo]
      split <;> exact .untouched rfl
    | recordingChanged channelId recording startedBy =>
      simp only [receive, setRecording]
      split <;> exact .untouched rfl
    | _ => exact .untouched rfl

theorem receivedLive (s : Store) (viewed now : Int) (body : Event.Body) :
    Received settings s.log now body (s.receiveLive settings viewed now body).log := by
  cases body with
  | kicked => exact received_announce settings rfl now _
  | _ => exact received settings s viewed now _

section

variable {settings} {log after : MessageLog} {now : Int}

theorem Received.sound (h : Received settings log now body after) (hl : log.Sound) :
    after.Sound := by
  cases h with
  | posted post => exact hl.deliver _ _
  | amended amends => exact hl.modify fun m _ => Event.Body.amendment?_keeps amends m
  | narrated text => exact hl.narrate _ lobby text now
  | untouched => exact hl

theorem Received.consistent (h : Received settings log now body after) (hl : log.Consistent)
    (natural : ∀ id ∈ body.postedId?, 0 ≤ id) : after.Consistent := by
  cases h with
  | posted post => exact hl.deliver _ (natural _ rfl)
  | amended amends => exact hl.modify fun m _ => Event.Body.amendment?_keeps amends m
  | narrated text => exact hl.narrate _ lobby text now
  | untouched => exact hl

end

end Store

namespace Session

/-- Whether `P` holds of the store on show and of every staged one. -/
structure AllStores (P : Store → Prop) (s : Session) : Prop where
  shown : P s.store
  staged : ∀ address store, s.staged.get? address = some store → P store

variable (settings : Settings) {P : Store → Prop} {s : Session}

theorem allStores_start (start : P {}) : AllStores P {} := ⟨start, nofun⟩

/-- The store that an event of a server goes to. -/
def receiver? (s : Session) (server : Text) : Option Store :=
  match s.route server with
  | .active => some s.store
  | .staged address => s.staged.get? address
  | .nowhere => none

theorem AllStores.receiver (hs : s.AllStores P) {server : Text} {store : Store}
    (goes : s.receiver? server = some store) : P store := by
  unfold receiver? at goes
  split at goes
  · cases goes
    exact hs.shown
  · exact hs.staged _ store goes
  · cases goes

theorem allStores_receive (hs : s.AllStores P) {event : Event} {now : Int}
    (received : ∀ store, s.receiver? event.serverAddr = some store → P store →
      P (store.receive settings s.viewed now event.body) ∧
      P (store.receiveLive settings s.viewed now event.body)) :
    (s.receive settings now event).AllStores P := by
  unfold receive
  unfold receiver? at received
  cases route : s.route event.serverAddr with
  | active =>
    rw [route] at received
    constructor
    · rw [receiveActive_store]
      exact (received _ rfl hs.shown).2
    · rw [receiveActive_staged]
      exact hs.staged
  | staged address =>
    rw [route] at received
    refine ⟨hs.shown, fun other store found => ?_⟩
    rw [Table.get?_modify] at found
    split at found
    · next same =>
      obtain ⟨before, known, rfl⟩ := Option.map_eq_some_iff.1 found
      exact (received _ (same ▸ known) (hs.staged other before known)).1
    · exact hs.staged other store found
  | nowhere => exact hs

/-- The store that an event goes to takes it in, as the store on show or as a staged one. -/
theorem received_of_allStores {event : Event} {now : Int}
    (h : (s.receive settings now event).AllStores P) {store : Store}
    (goes : s.receiver? event.serverAddr = some store) :
    P (store.receive settings s.viewed now event.body) ∨
      P (store.receiveLive settings s.viewed now event.body) := by
  cases route : s.route event.serverAddr with
  | active =>
    simp only [receive, receiver?, route] at h goes
    cases goes
    exact .inr (receiveActive_store settings now event.body s ▸ h.shown)
  | staged address =>
    simp only [receive, receiver?, route] at h goes
    have taken := Table.get?_modify s.staged address
      (fun store => store.receive settings s.viewed now event.body) address
    rw [if_pos rfl, goes] at taken
    exact .inl (h.staged address _ taken)
  | nowhere =>
    simp only [receiver?, route] at goes
    cases goes

theorem allStores_prepare (hs : s.AllStores P) (start : P {}) (command : Command) :
    (s.prepare command).AllStores P := by
  cases command with
  | connect address username =>
    refine ⟨hs.shown, fun other store found => ?_⟩
    simp only [prepare] at found
    split at found
    · rw [Table.get?_insert] at found
      split at found
      · exact Option.some.inj found ▸ start
      · exact hs.staged other store found
    · exact hs.staged other store found
  | disconnect => exact ⟨start, fun _ _ found => by cases found⟩
  | _ => exact ⟨hs.shown, hs.staged⟩

theorem allStores_conclude (hs : s.AllStores P) (start : P {}) (p : Pending) (error : Text)
    (now : Int) : (s.conclude settings now p error).1.AllStores P := by
  cases decides : s.decidesSwitch p with
  | true =>
    obtain ⟨store, staged⟩ := conclude_of_decidesSwitch settings error now decides
    constructor
    · rw [store]
      split
      · cases found : s.staged.get? p.address with
        | none => exact start
        | some promoted => exact hs.staged p.address promoted found
      · exact hs.shown
    · intro other store found
      rw [staged, Table.get?_erase] at found
      split at found
      · cases found
      · exact hs.staged other store found
  | false =>
    obtain ⟨store, staged⟩ := conclude_of_not_decidesSwitch settings error now decides
    exact ⟨store ▸ hs.shown, staged ▸ hs.staged⟩

/-- What holds of an empty store and is kept by events and looks holds of all stores. -/
theorem allStores_move (hs : s.AllStores P) {m : Move} (start : P {})
    (received : ∀ event now, m = .receive event now → ∀ store viewed, P store →
      P (store.receive settings viewed now event.body) ∧
      P (store.receiveLive settings viewed now event.body))
    (looked : ∀ store channel, P store → P (store.resetUnread channel)) :
    (s.move settings m).AllStores P := by
  cases m with
  | receive event now =>
    exact allStores_receive settings hs fun store _ h => received event now rfl store s.viewed h
  | view channel => exact ⟨looked _ channel hs.shown, hs.staged⟩
  | tick | cancelReconnect => exact ⟨hs.shown, hs.staged⟩
  | prepare command => exact allStores_prepare hs start command
  | conclude p error now => exact allStores_conclude settings hs start p error now

/-- What holds of an empty log, and is kept by what an event makes of a log, holds of the logs
of all stores after an action. -/
theorem allStores_step {P : MessageLog → Prop} (hs : s.AllStores fun store => P store.log)
    (start : P {}) {a : Action} (received : ∀ event now, a = .event event now → ∀ log after,
      Store.Received settings log now event.body after → P log → P after) :
    (s.step settings a).AllStores fun store => P store.log := by
  refine step_keeps settings (fun _ _ _ h => ⟨h.shown, h.staged⟩) (fun m made s hs => ?_) hs
  refine allStores_move settings hs start (fun event now receives store viewed h => ?_)
    fun _ _ h => h
  subst receives
  have kept := received event now (event_of_receive made) store.log
  exact ⟨kept _ (Store.received settings store viewed now event.body) h,
    kept _ (Store.receivedLive settings store viewed now event.body) h⟩

/-- What holds of an empty log, and is kept by what the events of a run make of a log, holds of
the logs of all stores. -/
theorem allStores_run {P : MessageLog → Prop} (start : P {}) {actions : List Action}
    (received : ∀ event now, .event event now ∈ actions → ∀ log after,
      Store.Received settings log now event.body after → P log → P after) :
    (run settings actions {}).AllStores fun store => P store.log := by
  refine List.foldlRecOn (motive := AllStores _) actions (step settings) (allStores_start start)
    fun s hs a mem => allStores_step settings hs start fun event now same => ?_
  exact received event now (same ▸ mem)

theorem sound_session {actions : List Action} :
    (run settings actions {}).AllStores (·.log.Sound) :=
  allStores_run settings MessageLog.sound_empty fun _ _ _ _ _ received hl => received.sound hl

/-- The id of the message that an action posts. -/
def Action.postedId? : Action → Option Int
  | .event e _ => e.body.postedId?
  | _ => none

/-- The ids of the messages that are posted, in order. -/
def postedIds (actions : List Action) : List Int := actions.filterMap Action.postedId?

/-- The logs of all stores are consistent as long as posted messages have natural ids. -/
theorem consistent_session {actions : List Action} (natural : ∀ id ∈ postedIds actions, 0 ≤ id) :
    (run settings actions {}).AllStores (·.log.Consistent) := by
  refine allStores_run settings MessageLog.consistent_empty
    fun event now mem log after received hl => ?_
  refine received.consistent hl fun id posted => natural id ?_
  exact List.mem_filterMap.2 ⟨_, mem, posted⟩

end Session

end VoiceChat
