import VoiceChat.Proofs.Redelivery

/-!
# Events about different messages

A change to a message and an event that is not about it can be taken in in either order
(`amendment_commutes`). In a log this is so because ids tell lines apart: a change leaves
the lines of other messages alone, and adds, moves and drops no line. So the line that it
is for can be pushed out before or after. In a session the two events have the same
routes in either order, as neither of them concerns the connection.
-/

namespace VoiceChat

/-! ## Changes to the log -/

namespace MessageLog

variable {log : MessageLog} {id other : Int} {f g : Message → Message}

theorem modify_comm (keepsF : ∀ m, m.msgId = id → (f m).msgId = id)
    (keepsG : ∀ m, m.msgId = other → (g m).msgId = other) (apart : other ≠ id) :
    (log.modify id f).modify other g = (log.modify other g).modify id f := by
  simp only [modify_eq, mapLines_mapLines]
  congr 1
  funext line
  -- a line answers to one of the ids at most, and still does after the change
  by_cases first : line.answers id = true
  · have known := (Line.answers_iff.1 first).2
    have changed : (amend id f line).message.msgId = id := by
      rw [amend, if_pos first]
      exact keepsF _ known
    rw [amend_of_ne (changed.trans_ne apart.symm), amend_of_ne (known.trans_ne apart.symm)]
  · have still : (amend other g line).answers id ≠ true := by rwa [answers_amend keepsG]
    rw [amend_of_silent first, amend_of_silent still]

theorem remove_modify (keeps : ∀ m, m.msgId = id → (f m).msgId = id) (other : Int) :
    (log.modify id f).remove other = (log.remove other).modify id f := by
  simp only [modify_eq, remove, mapLines, Table.mapValues, List.map_map, Function.comp_def,
    List.filter_map, answers_amend keeps]

theorem append_modify {message : Message} (apart : message.msgId ≠ id) :
    (log.modify id f).append message = (log.append message).modify id f := by
  have new : amend id f { message := message } = { message := message } := amend_of_ne apart
  simp only [modify_eq, append, linesOf_mapLines]
  simp only [mapLines, Table.mapValues_insert, List.map_append, List.map_singleton, new]

theorem dropOldest_modify (channel : Int) (count : Nat) :
    (log.modify id f).dropOldest channel count = (log.dropOldest channel count).modify id f := by
  simp only [modify_eq, dropOldest, mapLines]
  rw [Table.mapValues_modify fun lines => List.map_drop]

theorem add_modify (limit : Int) {message : Message} (apart : message.msgId ≠ id) :
    (log.modify id f).add limit message = (log.add limit message).modify id f := by
  have length : ((log.modify id f).append message).linesOf message.channelId =
      ((log.append message).linesOf message.channelId).map (amend id f) := by
    rw [append_modify apart, modify_eq, linesOf_mapLines]
  rw [add, length, List.length_map, append_modify apart, dropOldest_modify]
  rfl

theorem find?_modify (keeps : ∀ m, m.msgId = id → (f m).msgId = id) (apart : other ≠ id) :
    (log.modify id f).find? other = log.find? other := by
  have same : (fun line : Line => line.answers other) ∘ amend id f =
      fun line => line.answers other := by
    funext line
    exact answers_amend keeps line other
  rw [find?, modify_eq, lines_mapLines, List.find?_map, same, Option.map_map, find?]
  cases found : log.lines.find? fun line => line.answers other with
  | none => rfl
  | some line =>
    have answers : line.answers other = true := by simpa using List.find?_some found
    have known := (Line.answers_iff.1 answers).2
    simp only [Option.map_some, Function.comp_apply, amend_of_ne (known.trans_ne apart)]

namespace Consistent

theorem deliver_modify (hl : log.Consistent)
    (keeps : ∀ m, (f m).msgId = m.msgId ∧ (f m).channelId = m.channelId) (limit : Int)
    {message : Message} (natural : 0 ≤ message.msgId) (apart : message.msgId ≠ id) :
    (log.modify id f).deliver limit message =
      ((log.deliver limit message).1.modify id f, (log.deliver limit message).2) := by
  have keepsId : ∀ m, m.msgId = id → (f m).msgId = id := fun m known => (keeps m).1.trans known
  have find : (log.modify id f).find? message.msgId = log.find? message.msgId :=
    find?_modify keepsId apart
  cases found : log.find? message.msgId with
  | none =>
    have amended : (log.modify id f).Consistent := hl.modify fun m _ => keeps m
    rw [hl.deliver_fresh limit natural found,
      amended.deliver_fresh limit natural (find.trans found), add_modify limit apart]
  | some known =>
    simp only [MessageLog.deliver, find, found]
    split
    · rw [modify_comm keepsId (fun _ _ => rfl) apart]
    · rw [remove_modify keepsId, append_modify apart]

theorem narrate_modify (hl : log.Consistent)
    (keeps : ∀ m, (f m).msgId = m.msgId ∧ (f m).channelId = m.channelId) (natural : 0 ≤ id)
    (limit channel : Int) (text : Text) (ts : Int) :
    (log.modify id f).narrate limit channel text ts =
      (log.narrate limit channel text ts).modify id f := by
  have amended : (log.modify id f).Consistent := hl.modify fun m _ => keeps m
  have apart : (log.narration channel text ts).msgId ≠ id :=
    Int.ne_of_lt (Int.lt_of_lt_of_le hl.negative natural)
  rw [hl.narrate_fresh, amended.narrate_fresh, ← add_modify limit apart]
  rfl

end Consistent

end MessageLog

/-! ## A change to a message and another event, in one store -/

namespace Store

variable (settings : Settings) {s : Store} {id : Int} {f : Message → Message}

theorem announce_modifyMessage (hs : s.log.Consistent)
    (keeps : ∀ m, (f m).msgId = m.msgId ∧ (f m).channelId = m.channelId) (natural : 0 ≤ id)
    (now : Int) (text : Text) :
    (s.modifyMessage id f).announce settings now text =
      (s.announce settings now text).modifyMessage id f := by
  unfold announce
  split
  · simp only [narrate, modifyMessage, hs.narrate_modify keeps natural]
  · rfl

theorem post_modifyMessage (hs : s.log.Consistent)
    (keeps : ∀ m, (f m).msgId = m.msgId ∧ (f m).channelId = m.channelId) {post : Post}
    (natural : 0 ≤ post.msgId) (apart : post.msgId ≠ id) (viewed : Int) :
    (s.modifyMessage id f).post settings viewed post =
      (s.post settings viewed post).modifyMessage id f := by
  have log : (s.log.modify id f).deliver settings.maxMessagesPerChannel post.toMessage = _ :=
    hs.deliver_modify keeps settings.maxMessagesPerChannel natural apart
  have delivered : (s.modifyMessage id f).deliver settings post.toMessage =
      ((s.deliver settings post.toMessage).1.modifyMessage id f,
        (s.deliver settings post.toMessage).2) := by
    simp only [deliver, modifyMessage, log]
  simp only [Store.post, delivered]
  split <;> rfl

/-- A change to a message can be made before or after an event that is not about it. -/
theorem receive_modifyMessage (hs : s.log.Consistent)
    (keeps : ∀ m, (f m).msgId = m.msgId ∧ (f m).channelId = m.channelId) (natural : 0 ≤ id)
    {body : Event.Body} (other : body.about? ≠ some id) (posted : ∀ i ∈ body.postedId?, 0 ≤ i)
    (viewed now : Int) :
    (s.modifyMessage id f).receive settings viewed now body =
      (s.receive settings viewed now body).modifyMessage id f := by
  cases amends : body.amendment? with
  | some amendment =>
    obtain ⟨target, g⟩ := amendment
    have apart : target ≠ id := fun same =>
      other (same ▸ Event.Body.about?_of_amendment? amends)
    rw [receive_of_amendment? settings amends, receive_of_amendment? settings amends]
    simp only [modifyMessage]
    rw [MessageLog.modify_comm (fun m known => (keeps m).1.trans known)
      (fun m known => (Event.Body.amendment?_keeps amends m).1.trans known) apart]
  | none =>
    cases body with
    | chatEdited | chatDeleted | reactionAdded | reactionRemoved | messagePinned
    | messageUnpinned | linkPreviewed => cases amends
    | chatPosted post =>
      exact post_modifyMessage settings hs keeps (posted _ rfl)
        (fun same => other (congrArg some same)) viewed
    | userJoined id username role =>
      exact announce_modifyMessage settings (s := s.upsertUser { id, username, role }) hs keeps
        natural now _
    | userLeft user =>
      have users : (s.modifyMessage id f).users = s.users := rfl
      simp only [receive, leave, users]
      split
      · exact announce_modifyMessage settings (s := s.removeUser user) hs keeps natural now _
      · rfl
    | typingSignalled userId username channelId =>
      have self : (s.modifyMessage id f).selfId = s.selfId := rfl
      simp only [receive, noteSignal, self]
      split <;> rfl
    | videoChanged userId active screenShare =>
      simp only [receive, setVideo]
      split <;> rfl
    | recordingChanged channelId recording startedBy =>
      simp only [receive, setRecording]
      split <;> rfl
    | _ => rfl

end Store

/-! ## Events for the stores of a session -/

namespace Session

variable (settings : Settings) {s : Session}

/-- Change the store that a route leads to. -/
def updateAt (route : Route) (f : Store → Store) (s : Session) : Session :=
  match route with
  | .active => { s with store := f s.store }
  | .staged address => { s with staged := s.staged.modify address f }
  | .nowhere => s

theorem receive_eq_updateAt {event : Event} (lively : event.body.isEnd = false) (now : Int) :
    s.receive settings now event =
      s.updateAt (s.route event.serverAddr) (·.receive settings s.viewed now event.body) := by
  unfold receive
  cases s.route event.serverAddr with
  | active => exact receiveActive_of_not_isEnd lively now
  | staged | nowhere => rfl

theorem viewed_updateAt (route : Route) (f : Store → Store) :
    (s.updateAt route f).viewed = s.viewed := by
  cases route <;> rfl

theorem route_updateAt (route : Route) (f : Store → Store) (server : Text) :
    (s.updateAt route f).route server = s.route server := by
  cases route with
  | staged address => exact route_modify address f server
  | active | nowhere => rfl

theorem updateAt_comm {f g : Store → Store}
    (h : s.AllStores fun store => g (f store) = f (g store)) (first second : Route) :
    (s.updateAt first f).updateAt second g = (s.updateAt second g).updateAt first f := by
  cases first with
  | active =>
    cases second with
    | active => simp only [updateAt, h.shown]
    | staged | nowhere => rfl
  | staged address =>
    cases second with
    | staged other =>
      simp only [updateAt]
      rw [Table.modify_comm fun _ store found => h.staged address store found]
    | active | nowhere => rfl
  | nowhere => cases second <;> rfl

/-- An edit, a deletion, a reaction, a pin or a link preview does the same before and after an
event that is not about its message and does not end a connection: to the histories, also if
the event pushes the message out of its channel, and to everything else in the session. -/
theorem amendment_commutes (settings : Settings) (actions : List Action)
    (natural : ∀ id ∈ postedIds actions, 0 ≤ id) {amending event : Event} {id : Int}
    (amends : amending.body.amendedId? = some id) (numbered : 0 ≤ id)
    (other : event.body.about? ≠ some id) (posted : ∀ i ∈ event.body.postedId?, 0 ≤ i)
    (lively : event.body.isEnd = false) (now : Int) :
    let s := run settings actions {}
    (s.receive settings now amending).receive settings now event =
      (s.receive settings now event).receive settings now amending := by
  intro s
  obtain ⟨⟨target, f⟩, asks, same⟩ := Option.map_eq_some_iff.1 amends
  obtain rfl : target = id := same
  have harmless : amending.body.isEnd = false := by
    cases body : amending.body with
    | kicked | connectionLost => rw [body] at asks; cases asks
    | _ => rfl
  have stores := consistent_session settings natural
  have commutes (store : Store) (consistent : store.log.Consistent) :=
    Store.receive_modifyMessage settings consistent (Event.Body.amendment?_keeps asks) numbered
      other posted s.viewed now
  simp only [receive_eq_updateAt settings lively, receive_eq_updateAt settings harmless,
    route_updateAt, viewed_updateAt, Store.receive_of_amendment? settings asks]
  apply updateAt_comm
  exact ⟨commutes _ stores.shown, fun address store found =>
    commutes _ (stores.staged address store found)⟩

/-- The edit reaches the message before the post pushes it out, and finds nothing afterwards. -/
theorem edit_commutes_with_eviction :
    let settings : Settings := { maxMessagesPerChannel := 1 }
    let actions : List Action := [.issue (.connect "a:1" "me"), .resolve 0 (.answered "") 0,
      .event ⟨"", .chatPosted { msgId := 5, channelId := 3 }⟩ 1]
    let edit : Event := ⟨"a:1", .chatEdited 5 "late" 2⟩
    let post : Event := ⟨"", .chatPosted { msgId := 6, channelId := 3 }⟩
    let s := run settings actions {}
    (∀ id ∈ postedIds actions, 0 ≤ id) ∧ edit.body.amendedId? = some 5 ∧
    ((s.receive settings 2 edit).store.log.messagesOf 3).map Message.text = [("late" : Text)] ∧
    (((s.receive settings 2 post).receive settings 2 edit).store.log.messagesOf 3).map
      Message.msgId = [6] ∧
    (s.receive settings 2 edit).receive settings 2 post =
      (s.receive settings 2 post).receive settings 2 edit := by
  intro settings actions edit post s
  have natural : ∀ id ∈ postedIds actions, 0 ≤ id := by decide
  have posted : ∀ i ∈ post.body.postedId?, 0 ≤ i := by decide
  have other : post.body.about? ≠ some 5 := by decide
  exact ⟨natural, rfl, by decide +kernel, by decide +kernel,
    amendment_commutes settings actions natural rfl (by decide) other posted rfl 2⟩

end Session

end VoiceChat
