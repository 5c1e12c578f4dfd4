import VoiceChat.Proofs.FailedSwitch
import VoiceChat.Proofs.Flags
import VoiceChat.Proofs.SessionLogs

/-!
# Redelivered events

The transport may deliver an event more than once. A copy that follows at once
changes nothing more, unless the event is narrated each time it comes
(`redelivery_changes_nothing`). For the stores that is because every change they
make is one that does nothing when made again; a post is found where its first copy
put it, as the newest line of a channel is never evicted. A kick and a loss can change
the route of their own second copy, but wherever that goes it finds nothing to do.
-/

namespace VoiceChat

/-! ## Changes to a message, made twice -/

namespace Message

theorem react_react (m : Message) (emoji : Text) (user : Int) :
    (m.react emoji user).react emoji user = m.react emoji user := by
  have known : user ∈ ((m.reactions.get? emoji).getD .empty).insert user :=
    IntSet.mem_insert.2 (.inl rfl)
  simp only [react, Table.get?_insert_self, Option.getD_some, IntSet.insert_of_mem known,
    Table.insert_insert_self]

theorem unreact_unreact (m : Message) (emoji : Text) (user : Int) :
    (m.unreact emoji user).unreact emoji user = m.unreact emoji user := by
  cases found : m.reactions.get? emoji with
  | none => simp only [unreact, found]
  | some users =>
    have gone : user ∉ users.erase user := by simp
    cases empty : (users.erase user).isEmpty with
    | true => simp [unreact, found, empty, Table.get?_erase]
    | false =>
      simp [unreact, found, empty, IntSet.erase_of_notMem gone, Table.insert_insert_self]

end Message

namespace MessageLog

variable {log : MessageLog}

theorem modify_modify {f : Message → Message} (keeps : ∀ m, (f m).msgId = m.msgId) (id : Int)
    (g : Message → Message) :
    (log.modify id f).modify id g = log.modify id fun m => g (f m) := by
  simp only [modify_eq, mapLines_mapLines]
  congr 1
  funext line
  by_cases answers : line.answers id = true
  · have still : (amend id f line).answers id = true :=
      (answers_amend (fun m known => (keeps m).trans known) line id).trans answers
    rw [amend_of_answers still, amend_of_answers answers, amend_of_answers answers]
  · simp only [amend_of_silent answers]

/-! ## A message, delivered twice -/

/-- Writing a message over itself changes nothing. -/
theorem Sound.modify_found (hl : log.Sound) {id : Int} {m : Message}
    (found : log.find? id = some m) : (log.modify id fun _ => m) = log := by
  refine mapLines_eq_self fun line mem => ?_
  split
  · next answers =>
    obtain rfl := Option.some.inj ((find?_of_mem hl.single mem answers).symm.trans found)
    rfl
  · rfl

/-- The newest line of a channel is within every limit. -/
theorem mem_linesOf_add (limit : Int) (message : Message) :
    { message := message } ∈ (log.add limit message).linesOf message.channelId := by
  have length : excess limit ((log.append message).linesOf message.channelId).length ≤
      (log.linesOf message.channelId).length := by
    rw [linesOf_append, if_pos rfl, List.length_append, List.length_singleton, excess]
    split <;> omega
  rw [add, linesOf_dropOldest, if_pos rfl, linesOf_append, if_pos rfl,
    List.drop_append_of_le_length]
  · exact List.mem_append_right _ (List.mem_singleton_self _)
  · rwa [linesOf_append, if_pos rfl] at length

namespace Consistent

/-- A message that has been delivered is found under its id. -/
theorem find?_deliver (hl : log.Consistent) (limit : Int) {message : Message}
    (natural : 0 ≤ message.msgId) :
    (log.deliver limit message).1.find? message.msgId = some message := by
  refine (hl.deliver limit natural).find?_eq_some_iff.2 ⟨rfl, message.channelId, ?_⟩
  cases found : log.find? message.msgId with
  | none =>
    rw [hl.deliver_fresh limit natural found]
    exact mem_messagesOf.2 ⟨_, mem_linesOf_add limit message, rfl⟩
  | some known =>
    obtain ⟨before, after, -, shown⟩ := hl.messagesOf_redeliver limit found
    rw [shown]
    by_cases stays : known.channelId = message.channelId
    · simp [stays]
    · simp [stays, Ne.symm stays]

theorem deliver_deliver (hl : log.Consistent) (limit : Int) {message : Message}
    (natural : 0 ≤ message.msgId) :
    (log.deliver limit message).1.deliver limit message =
      ((log.deliver limit message).1, false) := by
  have found := hl.find?_deliver limit natural
  have same := (hl.deliver limit natural).modify_found found
  generalize (log.deliver limit message).1 = delivered at found same
  simp only [MessageLog.deliver, found, if_true, same]

end Consistent

end MessageLog

namespace Store

variable (settings : Settings) {s : Store}

/-! ## A roster, twice -/

theorem get?_seat (reported seats : Table Int Int) (user : User) (id : Int) :
    (seat reported seats user).get? id =
      if id = user.id then some ((reported.get? id).getD ((seats.get? id).getD lobby))
      else seats.get? id := by
  unfold seat
  by_cases here : id = user.id
  · subst here
    split
    · next channel reports => simp [reports]
    · next silent => simp [silent, Table.get?_insertNew]
  · split
    · simp [here, Table.get?_insert]
    · simp [here, Table.get?_insertNew]

/-- Whether the user has a seat, which is the reported one if there is a report. -/
def IsSeated (reported seats : Table Int Int) (id : Int) : Prop :=
  ∃ channel, seats.get? id = some channel ∧ (reported.get? id).getD channel = channel

theorem seat_of_isSeated {reported seats : Table Int Int} {user : User}
    (h : IsSeated reported seats user.id) : seat reported seats user = seats := by
  obtain ⟨channel, seated, agrees⟩ := h
  unfold seat
  split
  · next other reports =>
    rw [reports, Option.getD_some] at agrees
    exact Table.insert_of_get? (agrees ▸ seated)
  · exact Table.insertNew_of_mem (Table.get?_isSome_iff.1 (by rw [seated]; rfl))

/-- Seating a user leaves everybody seated who was, and the user too. -/
theorem isSeated_seat {reported seats : Table Int Int} {user : User} {id : Int}
    (h : id = user.id ∨ IsSeated reported seats id) :
    IsSeated reported (seat reported seats user) id := by
  simp only [IsSeated, get?_seat]
  by_cases here : id = user.id
  · rw [if_pos here]
    exact ⟨_, rfl, by cases reported.get? id <;> rfl⟩
  · rw [if_neg here]
    exact h.resolve_left here

theorem isSeated_foldl {reported : Table Int Int} {users : List User} {id : Int} :
    ∀ {seats : Table Int Int}, (∃ user ∈ users, user.id = id) ∨ IsSeated reported seats id →
      IsSeated reported (users.foldl (seat reported) seats) id := by
  induction users with
  | nil => exact fun h => h.resolve_left (by simp)
  | cons first users ih =>
    intro seats h
    refine ih ?_
    -- who is listed later gets a seat later, who has one keeps it
    rcases h with ⟨user, mem, rfl⟩ | seated
    · rcases List.mem_cons.1 mem with rfl | later
      · exact .inr (isSeated_seat (.inl rfl))
      · exact .inl ⟨user, later, rfl⟩
    · exact .inr (isSeated_seat (.inr seated))

theorem foldl_seat_of_isSeated {reported seats : Table Int Int} {users : List User}
    (h : ∀ user ∈ users, IsSeated reported seats user.id) :
    users.foldl (seat reported) seats = seats := by
  induction users with
  | nil => rfl
  | cons first users ih =>
    rw [List.foldl_cons, seat_of_isSeated (h first List.mem_cons_self)]
    exact ih fun user mem => h user (List.mem_cons_of_mem _ mem)

theorem replaceUsers_replaceUsers (users : List User) (reported : Table Int Int) :
    (s.replaceUsers users reported).replaceUsers users reported =
      s.replaceUsers users reported := by
  simp only [replaceUsers]
  rw [foldl_seat_of_isSeated fun user mem => isSeated_foldl (.inl ⟨user, mem, rfl⟩)]

/-! ## The other events, twice -/

theorem upsertUser_upsertUser (user : User) :
    (s.upsertUser user).upsertUser user = s.upsertUser user := by
  have seated : user.id ∈ (s.userChannels.insertNew user.id lobby).keys := by
    rw [Table.keys_insertNew]
    split <;> simp [*]
  simp only [upsertUser, Table.insert_insert_self, Table.insertNew_of_mem seated]

theorem leave_of_notMem {id : Int} (user : id ∉ s.users.keys) (seat : id ∉ s.userChannels.keys)
    (now : Int) : s.leave settings now id = s := by
  simp only [leave, Table.get?_eq_none_iff.2 user, removeUser, Table.erase_of_notMem user,
    Table.erase_of_notMem seat]

/-- A user who has left is not narrated again. -/
theorem leave_leave (now id : Int) :
    (s.leave settings now id).leave settings now id = s.leave settings now id := by
  have gone : (s.leave settings now id).users = s.users.erase id ∧
      (s.leave settings now id).userChannels = s.userChannels.erase id := by
    unfold leave announce
    cases s.users.get? id with
    | none => exact ⟨rfl, rfl⟩
    | some user => cases settings.systemMessages <;> exact ⟨rfl, rfl⟩
  apply leave_of_notMem
  · simp [gone.1, Table.keys_erase]
  · simp [gone.2, Table.keys_erase]

theorem modifyMessage_modifyMessage {f : Message → Message} (id : Int)
    (keeps : ∀ m, (f m).msgId = m.msgId) (twice : ∀ m, f (f m) = f m) :
    (s.modifyMessage id f).modifyMessage id f = s.modifyMessage id f := by
  simp only [modifyMessage, MessageLog.modify_modify keeps, twice]

theorem post_of_known {p : Post}
    (known : s.log.deliver settings.maxMessagesPerChannel p.toMessage = (s.log, false))
    (viewed : Int) : s.post settings viewed p = s := by
  simp [post, deliver, known]

/-- A post that has come before is neither new nor counted. -/
theorem post_post (hs : s.log.Consistent) {p : Post} (natural : 0 ≤ p.msgId) (viewed : Int) :
    (s.post settings viewed p).post settings viewed p = s.post settings viewed p := by
  apply post_of_known
  rw [log_post]
  exact hs.deliver_deliver settings.maxMessagesPerChannel natural

theorem noteSignal_noteSignal (now userId : Int) (username : Text) (channelId : Int) :
    (s.noteSignal settings now userId username channelId).noteSignal settings now userId username
      channelId = s.noteSignal settings now userId username channelId := by
  by_cases own : s.selfId = some userId
  · simp only [noteSignal, own, if_true]
  · simp only [noteSignal, own, if_false, noteTyping, Table.insert_insert_self]

theorem setVideo_setVideo (id : Int) (active screenShare : Bool) :
    (s.setVideo id active screenShare none).setVideo id active screenShare none =
      s.setVideo id active screenShare none := by
  cases active with
  | true => simp [setVideo, Table.insert_insert_self]
  | false => simp [setVideo, Table.erase_erase_self]

theorem setRecording_setRecording (channel : Int) (recording : Bool) (startedBy : Text) :
    (s.setRecording channel recording startedBy).setRecording channel recording startedBy =
      s.setRecording channel recording startedBy := by
  cases recording with
  | true => simp [setRecording, Table.insert_insert_self]
  | false => simp [setRecording, Table.erase_erase_self]

/-- An event does nothing to a store that has just taken it in, unless it is narrated. -/
theorem receive_receive (hs : s.log.Consistent) {body : Event.Body}
    (natural : ∀ id ∈ body.postedId?, 0 ≤ id)
    (unnarrated : settings.systemMessages = false ∨ body.kind ≠ .userJoined) (viewed now : Int) :
    (s.receive settings viewed now body).receive settings viewed now body =
      s.receive settings viewed now body := by
  cases body with
  | rosterReplaced users => exact replaceUsers_replaceUsers _ _
  | userJoined id username role =>
    have off : settings.systemMessages = false := unnarrated.resolve_right (· rfl)
    simp only [receive, announce, off]
    exact upsertUser_upsertUser _
  | userLeft id => exact leave_leave settings now id
  | userRenamed | videoLayersOffered =>
    simp only [receive, renameUser, setVideoLayers, Table.modify_modify]
  | serverNamed | ownerChanged | selfIdentified | channelsListed | kicked | connectionLost => rfl
  | chatPosted post => exact post_post settings hs (natural _ rfl) viewed
  | chatEdited | chatDeleted | messagePinned | messageUnpinned | linkPreviewed =>
    exact modifyMessage_modifyMessage _ (fun _ => rfl) fun _ => rfl
  | reactionAdded msgId emoji userId =>
    exact modifyMessage_modifyMessage msgId (fun _ => rfl) fun m => m.react_react emoji userId
  | reactionRemoved msgId emoji userId =>
    have amends : (Change.unreact msgId emoji userId).amendment? =
      some (msgId, (·.unreact emoji userId)) := rfl
    exact modifyMessage_modifyMessage msgId (fun m => (amendment?_keeps amends m).1)
      fun m => m.unreact_unreact emoji userId
  | typingSignalled userId username channelId =>
    exact noteSignal_noteSignal settings now userId username channelId
  | memberMoved | speaking =>
    simp only [receive, moveUser, noteSpeaking, Table.insert_insert_self]
  | videoChanged userId active screenShare => exact setVideo_setVideo userId active screenShare
  | recordingChanged channelId recording startedBy =>
    exact setRecording_setRecording channelId recording startedBy

end Store

theorem Connection.lose_lose (settings : Settings) (c : Connection) (reason : Text) (now : Int) :
    ((c.lose settings reason now).1.lose settings reason now).1 =
      (c.lose settings reason now).1 := by
  apply lose_of_not_connected
  cases connected : c.isConnected with
  | true =>
    obtain ⟨_, _, lost⟩ := lose_eq settings c now connected reason
    rw [lost]
    rfl
  | false => rwa [lose_of_not_connected settings now connected]

namespace Session

variable (settings : Settings) {s : Session}

/-- The end of a connection, on the active server, twice. -/
theorem receiveActive_receiveActive {body : Event.Body} (ends : body.isEnd = true)
    (unnarrated : settings.systemMessages = false ∨ body.kind ≠ .kicked) (now : Int) :
    (s.receiveActive settings now body).receiveActive settings now body =
      s.receiveActive settings now body := by
  cases body with
  | kicked =>
    have off : settings.systemMessages = false := unnarrated.resolve_right (· rfl)
    simp only [receiveActive, Store.announce, off]
    rfl
  | connectionLost reason => simp only [receiveActive, Connection.lose_lose]
  | _ => cases ends

/-- The end of a connection leaves every store but the one on show alone. -/
theorem receive_of_isEnd {body : Event.Body} (ends : body.isEnd = true) (viewed now : Int)
    (store : Store) : store.receive settings viewed now body = store := by
  cases body with
  | kicked | connectionLost => rfl
  | _ => cases ends

theorem route_modify (address : Text) (f : Store → Store) (server : Text) :
    ({ s with staged := s.staged.modify address f } : Session).route server = s.route server := by
  simp only [route, Table.contains_modify]

/-- An event does nothing to a session that has just taken it in, unless it is narrated. -/
theorem receive_receive (hs : s.AllStores (·.log.Consistent)) {event : Event}
    (natural : ∀ id ∈ event.body.postedId?, 0 ≤ id)
    (unnarrated : settings.systemMessages = false ∨
      event.body.kind ≠ .userJoined ∧ event.body.kind ≠ .kicked) (now : Int) :
    (s.receive settings now event).receive settings now event = s.receive settings now event := by
  have twice : ∀ store : Store, store.log.Consistent →
      (store.receive settings s.viewed now event.body).receive settings s.viewed now event.body =
        store.receive settings s.viewed now event.body := fun store consistent =>
    store.receive_receive settings consistent natural (unnarrated.imp_right And.left) s.viewed now
  cases routed : s.route event.serverAddr with
  | active =>
    simp only [receive, routed]
    cases ends : event.body.isEnd with
    | true =>
      -- the server is not connected any more, so that the second copy may go to a stage
      split
      · exact receiveActive_receiveActive settings ends (unnarrated.imp_right And.right) now
      · simp only [receive_of_isEnd settings ends, Table.modify_eq_self fun _ => rfl]
      · rfl
    | false =>
      have still : ({ s with store := s.store.receive settings s.viewed now event.body } :
        Session).route event.serverAddr = .active := routed
      simp only [receiveActive_of_not_isEnd ends, still, twice s.store hs.shown]
  | staged address =>
    simp only [receive, routed, route_modify, Table.modify_modify]
    rw [Table.modify_congr fun store staged => twice store (hs.staged address store staged)]
  | nowhere => simp only [receive, routed]

/-- An event that comes twice in a row does what it does when it comes once, unless it is
narrated: to the store on show, the staged stores and the connection. -/
theorem redelivery_changes_nothing (settings : Settings) (actions : List Action)
    (natural : ∀ id ∈ postedIds actions, 0 ≤ id) (event : Event) (now : Int)
    (posted : ∀ id ∈ event.body.postedId?, 0 ≤ id)
    (unnarrated : settings.systemMessages = false ∨
      event.body.kind ≠ .userJoined ∧ event.body.kind ≠ .kicked) :
    let s := run settings actions {}
    (s.receive settings now event).receive settings now event = s.receive settings now event :=
  receive_receive settings (consistent_session settings natural) posted unnarrated now

/-- A post to a server whose connect is in flight pushes an older one out of its channel.
The second copy is not counted again. -/
theorem redelivery_to_staged_server :
    let settings : Settings := { maxMessagesPerChannel := 1 }
    let actions : List Action := [.issue (.connect "a:1" "me"), .resolve 0 (.answered "") 0,
      .issue (.connect "b:2" "me"), .event ⟨"b:2", .chatPosted { msgId := 5, channelId := 3 }⟩ 1]
    let event : Event := ⟨"b:2", .chatPosted { msgId := 6, channelId := 3 }⟩
    let once := (run settings actions {}).receive settings 2 event
    (∀ id ∈ postedIds actions, 0 ≤ id) ∧
    (once.staged.get? "b:2").map (fun store =>
      ((store.log.messagesOf 3).map Message.msgId, store.unreadOf 3)) = some ([6], 2) ∧
    once.receive settings 2 event = once := by
  intro settings actions event once
  have natural : ∀ id ∈ postedIds actions, 0 ≤ id := by decide
  have posted : ∀ id ∈ event.body.postedId?, 0 ≤ id := by decide
  have unnarrated : event.body.kind ≠ .userJoined ∧ event.body.kind ≠ .kicked := by decide
  exact ⟨natural, by decide +kernel,
    redelivery_changes_nothing settings actions natural event 2 posted (.inr unnarrated)⟩

end Session

end VoiceChat
