import VoiceChat.Proofs.Redelivery

/-!
# Messages that come again after their eviction

The log knows a message by the line that it has in a history. A post that comes again takes
the place of the line in its channel, and nothing is added anywhere. Where the limit has
evicted the line in the meantime, the post is a new one: it goes to the end of the history and
is counted as unread. `redelivery_adds_nothing_iff` says that a post adds nothing in no other
case than the first.
-/

namespace VoiceChat

namespace Store

variable (settings : Settings) {s : Store} {p : Post}

/-- Whether a store has no entry in any history and no unread message beyond those of a
store before it. -/
structure NoMoreThan (s before : Store) : Prop where
  entries : ∀ channel, ((s.log.messagesOf channel).map Message.msgId).Sublist
    ((before.log.messagesOf channel).map Message.msgId)
  unread : ∀ channel, s.unreadOf channel ≤ before.unreadOf channel

theorem NoMoreThan.refl (s : Store) : s.NoMoreThan s :=
  ⟨fun _ => List.Sublist.refl _, fun _ => Nat.le_refl _⟩

/-- After a post its message stands in its channel. -/
theorem posted_mem (hs : s.log.Consistent) (natural : 0 ≤ p.msgId) (viewed : Int) :
    p.toMessage ∈ (s.post settings viewed p).log.messagesOf p.channelId := by
  have natural' : 0 ≤ p.toMessage.msgId := natural
  have consistent := hs.deliver settings.maxMessagesPerChannel natural'
  obtain ⟨-, channel, shown⟩ := consistent.find?_eq_some_iff.1
    (hs.find?_deliver settings.maxMessagesPerChannel natural')
  rw [log_post]
  obtain rfl : p.channelId = channel := consistent.channelId_eq shown
  exact shown

/-- A post of a message that stands in the same channel takes its place. -/
theorem noMoreThan_of_mem (hs : s.log.Consistent) (viewed : Int) {known : Message}
    (shown : known ∈ s.log.messagesOf p.channelId) (same : known.msgId = p.msgId) :
    (s.post settings viewed p).NoMoreThan s := by
  have found : s.log.find? p.msgId = some known :=
    hs.find?_eq_some_iff.2 ⟨same, p.channelId, shown⟩
  have stays : known.channelId = p.channelId := hs.channelId_eq shown
  have delivered : s.log.deliver settings.maxMessagesPerChannel p.toMessage =
      (s.log.modify p.msgId fun _ => p.toMessage, false) := by
    have found : s.log.find? p.toMessage.msgId = some known := found
    have stays : known.channelId = p.toMessage.channelId := stays
    simp only [MessageLog.deliver, found, stays, if_true]
    rfl
  have after : s.post settings viewed p =
      { s with log := s.log.modify p.msgId fun _ => p.toMessage } := by
    simp [post, deliver, delivered]
  constructor
  · intro channel
    have ids : ((s.log.messagesOf channel).map fun m =>
        if m.msgId = p.msgId then p.toMessage else m).map Message.msgId =
          (s.log.messagesOf channel).map Message.msgId := by
      rw [List.map_map]
      refine List.map_congr_left fun m _ => ?_
      rw [Function.comp_apply]
      split
      · next here => exact here.symm
      · rfl
    rw [after, hs.messagesOf_modify, ids]
  · intro channel
    rw [after]
    exact Nat.le_refl _

/-- A post adds nothing to a store exactly if its message stands in the same channel. -/
theorem noMoreThan_post_iff (hs : s.log.Consistent) (natural : 0 ≤ p.msgId) (viewed : Int) :
    (s.post settings viewed p).NoMoreThan s ↔
      ∃ m ∈ s.log.messagesOf p.channelId, m.msgId = p.msgId := by
  constructor
  · intro noMore
    have mem := List.mem_map_of_mem (f := Message.msgId) (posted_mem settings hs natural viewed)
    exact List.mem_map.1 ((noMore.entries p.channelId).subset mem)
  · rintro ⟨known, shown, same⟩
    exact noMoreThan_of_mem settings hs viewed shown same

end Store

namespace Session

variable (settings : Settings) {s : Session}

/-- Whether neither the store on show nor any staged one has more than it had before. -/
structure NoMoreThan (s before : Session) : Prop where
  shown : s.store.NoMoreThan before.store
  staged : ∀ address store, s.staged.get? address = some store →
    ∃ earlier, before.staged.get? address = some earlier ∧ store.NoMoreThan earlier

/-- An event adds nothing exactly if it adds nothing to the store that it goes to. -/
theorem noMoreThan_receive_iff {server : Text} {p : Post} (now : Int) :
    (s.receive settings now ⟨server, .chatPosted p⟩).NoMoreThan s ↔
      ∀ store, s.receiver? server = some store →
        (store.post settings s.viewed p).NoMoreThan store := by
  unfold receive receiver?
  cases s.route server with
  | active =>
    constructor
    · rintro noMore store ⟨⟩
      exact noMore.shown
    · intro adds
      exact ⟨adds s.store rfl, fun address store found => ⟨store, found, .refl store⟩⟩
  | staged address =>
    constructor
    · intro noMore store goes
      have goes : s.staged.get? address = some store := goes
      have taken := Table.get?_modify s.staged address
        (fun store => store.receive settings s.viewed now (.chatPosted p)) address
      rw [if_pos rfl, goes] at taken
      obtain ⟨earlier, known, adds⟩ := noMore.staged address _ taken
      obtain rfl := Option.some.inj (goes.symm.trans known)
      exact adds
    · intro adds
      refine ⟨.refl s.store, fun other store found => ?_⟩
      rw [Table.get?_modify] at found
      split at found
      · next same =>
        subst same
        obtain ⟨earlier, known, rfl⟩ := Option.map_eq_some_iff.1 found
        exact ⟨earlier, known, adds earlier known⟩
      · exact ⟨store, found, .refl store⟩
  | nowhere =>
    refine iff_of_true ⟨.refl s.store, fun address store found => ⟨store, found, .refl store⟩⟩ ?_
    rintro store ⟨⟩

/-- Under every limit and after every run, a post adds an entry to no history and counts in no
channel as unread, exactly if its message stands in the history of its channel at that moment,
in the store that the post goes to. -/
theorem redelivery_adds_nothing_iff (settings : Settings) (actions : List Action)
    (natural : ∀ id ∈ postedIds actions, 0 ≤ id) (server : Text) (p : Post)
    (numbered : 0 ≤ p.msgId) (now : Int) :
    let s := run settings actions {}
    (s.receive settings now ⟨server, .chatPosted p⟩).NoMoreThan s ↔
      ∀ store, s.receiver? server = some store →
        ∃ m ∈ store.log.messagesOf p.channelId, m.msgId = p.msgId := by
  intro s
  have consistent : s.AllStores (·.log.Consistent) := consistent_session settings natural
  rw [noMoreThan_receive_iff]
  refine forall_congr' fun store => forall_congr' fun goes => ?_
  refine store.noMoreThan_post_iff settings ?_ numbered s.viewed
  unfold receiver? at goes
  split at goes
  · exact Option.some.inj goes ▸ consistent.shown
  · exact consistent.staged _ store goes
  · cases goes

/-- With room for two messages the first is still there when it comes again. -/
theorem redelivery_within_limit :
    let settings : Settings := { maxMessagesPerChannel := 2 }
    let post (id : Int) : Event := ⟨"", .chatPosted { msgId := id, channelId := 5 }⟩
    let actions : List Action := [.event (post 1) 1, .event (post 2) 2]
    let s := run settings actions {}
    (∀ id ∈ postedIds actions, 0 ≤ id) ∧ s.store.unreadOf 5 = 2 ∧
    (s.receive settings 3 (post 1)).NoMoreThan s := by
  intro settings post actions s
  have natural : ∀ id ∈ postedIds actions, 0 ≤ id := by decide
  refine ⟨natural, by decide +kernel, ?_⟩
  apply (redelivery_adds_nothing_iff settings actions natural "" _ (by decide) 3).2
  rintro store ⟨⟩
  decide +kernel

/-- With room for one message the second has taken the place of the first when that comes
again. It is counted once more and pushes the second out. -/
theorem evicted_message_counted_again :
    let settings : Settings := { maxMessagesPerChannel := 1 }
    let post (id : Int) : Event := ⟨"", .chatPosted { msgId := id, channelId := 5 }⟩
    let s := run settings [.event (post 1) 1, .event (post 2) 2] {}
    let again := s.receive settings 3 (post 1)
    (s.store.log.messagesOf 5).map Message.msgId = [2] ∧ s.store.unreadOf 5 = 2 ∧
    (again.store.log.messagesOf 5).map Message.msgId = [1] ∧ again.store.unreadOf 5 = 3 ∧
    ¬again.NoMoreThan s := by
  intro settings post s again
  have counted : s.store.unreadOf 5 = 2 ∧ again.store.unreadOf 5 = 3 := by decide +kernel
  refine ⟨by decide +kernel, counted.1, by decide +kernel, counted.2, fun noMore => ?_⟩
  have more := noMore.shown.unread 5
  omega

end Session

end VoiceChat
