import Mathlib.Data.List.Induction
import VoiceChat.Proofs.Disconnect
import VoiceChat.Proofs.HistoryWindow
import VoiceChat.Proofs.SessionLogs
import VoiceChat.Proofs.UnreadOnScreen

/-!
# What the unread counts count

A session that never connects takes in every event, whatever server it names. Without a
limit its log forgets no id, so that a post is new exactly if no post before had its id
(`Consistent.mem_ids_deliver`). The unread count of a channel is then a number that can be
read off the run itself: that of the posts there that were new and came while another
channel was on screen, after the last look at the channel (`unread_eq_count`).
-/

namespace VoiceChat

/-! ## The ids of a log without a limit -/

namespace MessageLog.Consistent

variable {log : MessageLog}

/-- Without a limit a delivery adds its id, and takes no other away. -/
theorem mem_ids_deliver (hl : log.Consistent) {limit : Int} (unlimited : limit ≤ 0)
    {message : Message} (natural : 0 ≤ message.msgId) {id : Int} :
    id ∈ (log.deliver limit message).1.ids ↔ id ∈ log.ids ∨ id = message.msgId := by
  rw [← (hl.deliver limit natural).addressedIds_eq, ← hl.addressedIds_eq,
    mem_addressedIds_deliver unlimited]

end MessageLog.Consistent

namespace Store

variable {settings : Settings} {log after : MessageLog} {now : Int} {body : Event.Body}

/-- Without a limit the natural ids of a log are those that were posted. -/
theorem Received.mem_ids (h : Received settings log now body after) (hl : log.Consistent)
    (unlimited : settings.maxMessagesPerChannel ≤ 0) (natural : ∀ id ∈ body.postedId?, 0 ≤ id)
    {id : Int} (numbered : 0 ≤ id) :
    id ∈ after.ids ↔ id ∈ log.ids ∨ body.postedId? = some id := by
  cases h with
  | posted post =>
    rw [hl.mem_ids_deliver unlimited (natural _ rfl)]
    exact or_congr_right (eq_comm.trans Option.some_inj.symm)
  | amended amends =>
    rw [MessageLog.ids_modify fun m known =>
      (Event.Body.amendment?_keeps amends m).1.trans known,
      Event.Body.postedId?_of_amendment? amends]
    simp
  | narrated text unaddressed =>
    have other : id ≠ log.nextNarrationId :=
      Int.ne_of_gt (Int.lt_of_lt_of_le hl.negative numbered)
    have ids : log.counted.ids = log.ids := rfl
    rw [hl.narrate_fresh, MessageLog.add_of_unlimited unlimited, MessageLog.mem_ids_append, ids,
      Event.Body.postedId?_of_about? unaddressed]
    simp [MessageLog.narration, other]
  | untouched unaddressed =>
    rw [Event.Body.postedId?_of_about? unaddressed]
    simp

theorem deliver_isNew (s : Store) (message : Message) :
    (s.deliver settings message).2 = (s.log.find? message.msgId).isNone := by
  simp only [deliver, MessageLog.deliver]
  cases s.log.find? message.msgId with
  | none => rfl
  | some known =>
    dsimp only
    split <;> rfl

end Store

namespace Session

/-! ## Counting along a run -/

/-- The channel that an action brings on screen. -/
def Action.looked? : Action → Option Int
  | .view channel => some channel
  | _ => none

/-- The channel on screen after a run: the one looked at last, and the lobby at first. -/
def viewedAfter (actions : List Action) : Int :=
  ((actions.filterMap Action.looked?).getLast?).getD lobby

/-- Whether an action is a post in `channel` that comes, after the actions `before`, with a
new id while another channel is on screen. -/
def isNews (channel : Int) (before : List Action) : Action → Bool
  | .event ⟨_, .chatPosted post⟩ _ =>
    post.channelId = channel ∧ viewedAfter before ≠ channel ∧ post.msgId ∉ postedIds before
  | _ => false

/-- Whether the action at position `i` of a run is news in `channel`, and nobody has looked
at the channel after it. -/
def isUnread (channel : Int) (actions : List Action) (i : Nat) : Bool :=
  (actions[i]?.any (isNews channel (actions.take i))) && .view channel ∉ actions.drop (i + 1)

/-- How many posts of a run are unread in `channel` at its end. -/
def unreadAfter (channel : Int) (actions : List Action) : Nat :=
  (List.range actions.length).countP (isUnread channel actions)

theorem viewedAfter_concat (actions : List Action) (a : Action) :
    viewedAfter (actions ++ [a]) = a.looked?.getD (viewedAfter actions) := by
  rw [viewedAfter, List.filterMap_append]
  cases looked : a.looked? <;> simp [looked, viewedAfter]

theorem isUnread_concat_of_lt {actions : List Action} {i : Nat} (h : i < actions.length)
    (channel : Int) (a : Action) :
    isUnread channel (actions ++ [a]) i =
      (isUnread channel actions i && decide (a ≠ .view channel)) := by
  have take : (actions ++ [a]).take i = actions.take i := List.take_append_of_le_length h.le
  have drop : (actions ++ [a]).drop (i + 1) = actions.drop (i + 1) ++ [a] :=
    List.drop_append_of_le_length h
  rw [isUnread, List.getElem?_append_left h, take, drop, isUnread, Bool.and_assoc]
  congr 1
  simp [eq_comm]

theorem isUnread_concat_length (channel : Int) (actions : List Action) (a : Action) :
    isUnread channel (actions ++ [a]) actions.length = isNews channel actions a := by
  simp [isUnread]

/-- A look ends what was unread, and nothing else does. -/
theorem unreadAfter_concat (channel : Int) (actions : List Action) (a : Action) :
    unreadAfter channel (actions ++ [a]) =
      if a = .view channel then 0
      else unreadAfter channel actions + if isNews channel actions a then 1 else 0 := by
  rw [unreadAfter, List.length_append, List.length_singleton, List.range_succ, List.countP_append,
    List.countP_singleton, isUnread_concat_length]
  have before : (List.range actions.length).countP (isUnread channel (actions ++ [a])) =
      (List.range actions.length).countP fun i =>
        isUnread channel actions i && decide (a ≠ .view channel) :=
    List.countP_congr fun i mem => by rw [isUnread_concat_of_lt (List.mem_range.1 mem)]
  rw [before]
  by_cases look : a = .view channel
  · simp [look, isNews]
  · simp [look, unreadAfter]

/-! ## The counts of a session that never connects -/

variable {settings : Settings} {actions : List Action} {s : Session}

/-- What the run so far tells of a session that has not connected. -/
structure Tallies (actions : List Action) (s : Session) : Prop where
  gone : s.Gone
  viewed : s.viewed = viewedAfter actions
  consistent : s.store.log.Consistent
  known : ∀ id, 0 ≤ id → (id ∈ s.store.log.ids ↔ id ∈ postedIds actions)
  unread : ∀ channel, s.store.unreadOf channel = unreadAfter channel actions

theorem tallies_nil : Tallies [] {} where
  gone := ⟨rfl, rfl, rfl, rfl, rfl, rfl⟩
  viewed := rfl
  consistent := MessageLog.consistent_empty
  known _ _ := Iff.rfl
  unread _ := rfl

theorem postedIds_concat (actions : List Action) (a : Action) :
    postedIds (actions ++ [a]) = postedIds actions ++ a.postedId?.toList := by
  cases posted : a.postedId? <;> simp [postedIds, posted]

/-- What neither posts nor looks leaves the tally as it is. -/
theorem Tallies.of_eq (hs : Tallies actions s) {t : Session} {a : Action} (gone : t.Gone)
    (store : t.store = s.store) (viewed : t.viewed = s.viewed) (posts : a.postedId? = none)
    (looks : a.looked? = none) : Tallies (actions ++ [a]) t where
  gone := gone
  viewed := by rw [viewedAfter_concat, looks, viewed, hs.viewed]; rfl
  consistent := store ▸ hs.consistent
  known id numbered := by simp [store, postedIds_concat, posts, hs.known id numbered]
  unread channel := by
    have silent : a ≠ .view channel := by rintro rfl; cases looks
    have old : isNews channel actions a = false := by
      cases a with
      | event e now =>
        obtain ⟨server, body⟩ := e
        cases body <;> first | rfl | cases posts
      | _ => rfl
    rw [store, hs.unread, unreadAfter_concat, if_neg silent, old]
    rfl

theorem tallies_event (hs : Tallies actions s) (unlimited : settings.maxMessagesPerChannel ≤ 0)
    {e : Event} {now : Int} (natural : ∀ id ∈ e.body.postedId?, 0 ≤ id) :
    Tallies (actions ++ [.event e now]) (s.receive settings now e) := by
  have taken : (s.receive settings now e).store =
      s.store.receiveLive settings s.viewed now e.body := hs.gone.store_receive e now
  have received := Store.receivedLive settings s.store s.viewed now e.body
  refine ⟨gone_receive hs.gone e now, ?_, ?_, fun id numbered => ?_, fun channel => ?_⟩
  · rw [hs.gone.receive_eq, receiveActive_viewed, hs.viewed, viewedAfter_concat]
    rfl
  · rw [taken]
    exact received.consistent hs.consistent natural
  · rw [taken, received.mem_ids hs.consistent unlimited natural numbered, postedIds_concat,
      List.mem_append, hs.known id numbered]
    simp [Action.postedId?]
  · have counted : s.store.counts settings channel (.event e true s.viewed now) =
        isNews channel actions (.event e now) := by
      obtain ⟨server, body⟩ := e
      cases body with
      | chatPosted post =>
        have new : (s.store.log.find? post.toMessage.msgId).isNone = true ↔
            post.msgId ∉ postedIds actions := by
          rw [Option.isNone_iff_eq_none, hs.consistent.find?_eq_none_iff]
          exact not_congr (hs.known _ (natural _ rfl))
        simp only [Store.counts, Store.deliver_isNew, new, isNews, ← hs.viewed, decide_eq_decide]
        constructor
        · rintro ⟨fresh, here, away⟩
          exact ⟨here, away.symm, fresh⟩
        · rintro ⟨here, away, fresh⟩
          exact ⟨fresh, here, away.symm⟩
      | _ => rfl
    have count := Store.unreadOf_take_event settings s.store e true s.viewed now channel
    rw [counted, hs.unread] at count
    rw [taken, unreadAfter_concat, if_neg (by simp)]
    exact count

theorem tallies_view (hs : Tallies actions s) (looked : Int) :
    Tallies (actions ++ [.view looked]) (s.view looked) where
  gone := hs.gone.of_eq rfl rfl
  viewed := by rw [viewedAfter_concat]; rfl
  consistent := hs.consistent
  known id numbered := by
    have kept : (s.view looked).store.log = s.store.log := rfl
    simp [kept, hs.known id numbered, postedIds_concat, Action.postedId?]
  unread channel := by
    have reset := Store.unreadOf_take_viewed {} s.store looked channel
    rw [hs.unread] at reset
    rw [unreadAfter_concat]
    refine reset.trans ?_
    by_cases here : channel = looked
    · simp [here]
    · simp [here, Ne.symm here, isNews]

theorem tallies_step (hs : Tallies actions s) (unlimited : settings.maxMessagesPerChannel ≤ 0)
    {a : Action} (input : a.isCommand = false) (natural : ∀ id ∈ a.postedId?, 0 ≤ id) :
    Tallies (actions ++ [a]) (s.step settings a) := by
  cases a with
  | event e now => exact tallies_event hs unlimited natural
  | view looked => exact tallies_view hs looked
  | tick now =>
    have idle := Connection.poll_of_inactive now hs.gone.reconnect
    exact hs.of_eq (hs.gone.of_eq idle rfl) rfl rfl rfl rfl
  | cancelReconnect =>
    have idle := Connection.cancelReconnect_of_inactive hs.gone.reconnect
    exact hs.of_eq (hs.gone.of_eq idle rfl) rfl rfl rfl rfl
  | _ => cases input

/-- In a session that is given no commands and has no limit on its histories, where posts have
natural ids, the unread count of a channel is the number of posts there that came with a new
id, while another channel was on screen, after the last look at the channel. -/
theorem unread_eq_count (settings : Settings) (unlimited : settings.maxMessagesPerChannel ≤ 0)
    (actions : List Action) (inputs : ∀ a ∈ actions, a.isCommand = false)
    (natural : ∀ id ∈ postedIds actions, 0 ≤ id) (channel : Int) :
    (run settings actions {}).store.unreadOf channel = unreadAfter channel actions := by
  suffices tallies : Tallies actions (run settings actions {}) from tallies.unread channel
  induction actions using List.reverseRecOn with
  | nil => exact tallies_nil
  | append_singleton actions a ih =>
    rw [postedIds_concat] at natural
    have before := ih (fun b mem => inputs b (List.mem_append_left _ mem))
      fun id mem => natural id (List.mem_append_left _ mem)
    rw [run_append]
    exact tallies_step before unlimited (inputs a List.mem_concat_self)
      fun id posted => natural id (List.mem_append_right _ (Option.mem_toList.2 posted))

/-- Two posts are left unread in channel `5`: the first post there is moved away when it comes
again, the second comes while the channel is on screen, and the third comes twice. -/
theorem two_posts_unread :
    let post (msgId channelId : Int) : Action := .event ⟨"", .chatPosted { msgId, channelId }⟩ 1
    let actions := [post 1 5, post 1 6, .view 5, post 2 5, .view lobby, post 3 5, post 3 5,
      .event ⟨"", .userJoined 9 "Ada" none⟩ 2, .event ⟨"", .chatEdited 3 "edited" 3⟩ 3, post 4 5]
    let s := run { maxMessagesPerChannel := 0 } actions {}
    (∀ a ∈ actions, a.isCommand = false) ∧ (∀ id ∈ postedIds actions, 0 ≤ id) ∧
    s.store.unreadOf 5 = 2 ∧ s.store.unreadOf 6 = 0 := by
  intro post actions s
  have inputs : ∀ a ∈ actions, a.isCommand = false := by decide
  have natural : ∀ id ∈ postedIds actions, 0 ≤ id := by decide
  have count :=
    unread_eq_count { maxMessagesPerChannel := 0 } (Int.le_refl 0) actions inputs natural
  exact ⟨inputs, natural, (count 5).trans (by decide), (count 6).trans (by decide)⟩

end Session

end VoiceChat
