import VoiceChat.Proofs.DeletedMessages
import VoiceChat.Proofs.MessageContent

/-!
# Reactions

A user reacts to a message with an emoji if the last event that says anything about it adds
the reaction (`Reacts`). The table of a message follows these events (`Tallied`): it has a set
of users for the emojis that are in use, and keeps them in the order in which they came up,
where an emoji that was given up comes up anew. `reactions_of_own_events` says so of every
message that a session shows, by the events since it was last delivered.
-/

namespace VoiceChat

/-- What an event says about the reaction of `user` with `emoji`: that it is there or not. -/
def Event.Body.reaction? (emoji : Text) (user : Int) : Event.Body → Option Bool
  | .reactionAdded _ emoji' user' => if emoji' = emoji ∧ user' = user then some true else none
  | .reactionRemoved _ emoji' user' => if emoji' = emoji ∧ user' = user then some false else none
  | _ => none

/-- Whether the last event about the reaction of `user` with `emoji` adds it. -/
def Reacts (events : List Event.Body) (emoji : Text) (user : Int) : Prop :=
  latest (Event.Body.reaction? emoji user) events = some true

/-- Whether anybody reacts with the emoji. -/
def InUse (events : List Event.Body) (emoji : Text) : Prop := ∃ user, Reacts events emoji user

/-- Whether the event at `i` adds the first of the reactions with the emoji. -/
def ComesUpAt (events : List Event.Body) (emoji : Text) (i : Nat) : Prop :=
  (∃ msgId user, events[i]? = some (.reactionAdded msgId emoji user)) ∧
    ¬InUse (events.take i) emoji

/-- Whether the emoji came up at `i`, and at no later event again. -/
def LastUpAt (events : List Event.Body) (emoji : Text) (i : Nat) : Prop :=
  ComesUpAt events emoji i ∧ ∀ j, i < j → ¬ComesUpAt events emoji j

/-- Whether the one emoji came up last before the other did. -/
def LastUpBefore (events : List Event.Body) (earlier later : Text) : Prop :=
  ∃ i j, i < j ∧ LastUpAt events earlier i ∧ LastUpAt events later j

/-! ## One more event -/

section

variable {events : List Event.Body} {body : Event.Body} {emoji other : Text} {user : Int}

theorem not_reacts_nil : ¬Reacts [] emoji user := nofun

theorem reacts_concat :
    Reacts (events ++ [body]) emoji user ↔
      (body.reaction? emoji user).or (latest (Event.Body.reaction? emoji user) events) =
        some true := by
  rw [Reacts, latest_concat]

theorem reacts_concat_of_none (silent : body.reaction? emoji user = none) :
    Reacts (events ++ [body]) emoji user ↔ Reacts events emoji user := by
  rw [reacts_concat, silent]
  rfl

theorem reacts_add {msgId adds : Int} :
    Reacts (events ++ [.reactionAdded msgId emoji adds]) other user ↔
      (other = emoji ∧ user = adds) ∨ Reacts events other user := by
  rw [reacts_concat, Event.Body.reaction?]
  by_cases same : emoji = other ∧ adds = user
  · simp [same]
  · have others : ¬(other = emoji ∧ user = adds) := fun h => same ⟨h.1.symm, h.2.symm⟩
    rw [if_neg same, or_iff_right others]
    rfl

theorem reacts_remove {msgId removes : Int} :
    Reacts (events ++ [.reactionRemoved msgId emoji removes]) other user ↔
      Reacts events other user ∧ ¬(other = emoji ∧ user = removes) := by
  rw [reacts_concat, Event.Body.reaction?]
  by_cases same : emoji = other ∧ removes = user
  · simp [same]
  · have others : ¬(other = emoji ∧ user = removes) := fun h => same ⟨h.1.symm, h.2.symm⟩
    rw [if_neg same, and_iff_left others]
    rfl

theorem comesUpAt_concat {i : Nat} :
    ComesUpAt (events ++ [body]) emoji i ↔ ComesUpAt events emoji i ∨
      i = events.length ∧ (∃ msgId user, body = .reactionAdded msgId emoji user) ∧
        ¬InUse events emoji := by
  rcases Nat.lt_trichotomy i events.length with before | rfl | after
  · have apart : i ≠ events.length := Nat.ne_of_lt before
    simp [ComesUpAt, List.getElem?_append_left before,
      List.take_append_of_le_length (Nat.le_of_lt before), apart]
  · simp [ComesUpAt]
  · have apart : i ≠ events.length := Nat.ne_of_gt after
    have beyond : (events ++ [body])[i]? = none := by
      rw [List.getElem?_eq_none_iff, List.length_append, List.length_singleton]
      omega
    have beyond' : events[i]? = none := List.getElem?_eq_none (Nat.le_of_lt after)
    simp [ComesUpAt, beyond, beyond', apart]

theorem lt_length_of_comesUpAt {i : Nat} (h : ComesUpAt events emoji i) : i < events.length := by
  obtain ⟨⟨msgId, user, adds⟩, -⟩ := h
  exact (List.getElem?_eq_some_iff.1 adds).1

/-- What is in use does not come up. -/
theorem LastUpAt.concat {i : Nat} (h : LastUpAt events emoji i) (used : InUse events emoji) :
    LastUpAt (events ++ [body]) emoji i := by
  have same (j : Nat) : ComesUpAt (events ++ [body]) emoji j ↔ ComesUpAt events emoji j := by
    rw [comesUpAt_concat, or_iff_left]
    exact fun new => new.2.2 used
  simpa only [LastUpAt, same] using h

theorem lastUpAt_length {msgId : Int} (unused : ¬InUse events emoji) :
    LastUpAt (events ++ [.reactionAdded msgId emoji user]) emoji events.length := by
  constructor
  · exact comesUpAt_concat.2 (.inr ⟨rfl, ⟨msgId, user, rfl⟩, unused⟩)
  · intro j later up
    have bound := lt_length_of_comesUpAt up
    rw [List.length_append, List.length_singleton] at bound
    omega

/-- What is in use has come up. -/
theorem exists_lastUpAt (used : InUse events emoji) :
    ∃ i, i < events.length ∧ LastUpAt events emoji i := by
  induction events using List.reverseRecOn with
  | nil =>
    obtain ⟨user, reacts⟩ := used
    exact absurd reacts not_reacts_nil
  | append_singleton events body ih =>
    rw [List.length_append, List.length_singleton]
    -- an emoji that was in use came up before; one that was not comes up with the last event
    by_cases before : InUse events emoji
    · obtain ⟨i, bound, up⟩ := ih before
      exact ⟨i, Nat.lt_succ_of_lt bound, up.concat before⟩
    · obtain ⟨user, reacts⟩ := used
      cases body with
      | reactionAdded msgId emoji' adds =>
        obtain ⟨rfl, rfl⟩ := (reacts_add.1 reacts).resolve_right fun h => before ⟨user, h⟩
        exact ⟨events.length, Nat.lt_succ_self _, lastUpAt_length before⟩
      | reactionRemoved => exact absurd ⟨user, (reacts_remove.1 reacts).1⟩ before
      | _ => exact absurd ⟨user, (reacts_concat_of_none rfl).1 reacts⟩ before

end

/-! ## The table of a message -/

namespace Message

/-- The users who react with the emoji. -/
def reactors (m : Message) (emoji : Text) : IntSet := (m.reactions.get? emoji).getD .empty

theorem reactors_react (m : Message) (emoji other : Text) (user : Int) :
    (m.react emoji user).reactors other =
      if other = emoji then (m.reactors other).insert user else m.reactors other := by
  unfold reactors react
  rw [Table.get?_insert]
  split
  · next same => rw [same, Option.getD_some]
  · rfl

theorem unreact_of_none {m : Message} {emoji : Text} (unknown : m.reactions.get? emoji = none)
    (user : Int) : m.unreact emoji user = m := by
  unfold unreact
  rw [unknown]

theorem unreact_of_some {m : Message} {emoji : Text} {users : IntSet}
    (known : m.reactions.get? emoji = some users) (user : Int) :
    (m.unreact emoji user).reactions =
      if (users.erase user).isEmpty then m.reactions.erase emoji
      else m.reactions.insert emoji (users.erase user) := by
  unfold unreact
  rw [known]

theorem reactors_unreact (m : Message) (emoji other : Text) (user : Int) :
    (m.unreact emoji user).reactors other =
      if other = emoji then (m.reactors other).erase user else m.reactors other := by
  cases found : m.reactions.get? emoji with
  | none =>
    rw [unreact_of_none found]
    split
    · next same =>
      rw [reactors, same, found]
      exact (IntSet.erase_of_notMem (IntSet.mem_empty user)).symm
    · rfl
  | some users =>
    rw [reactors, reactors, unreact_of_some found]
    by_cases same : other = emoji
    · subst same
      rw [if_pos rfl, found, Option.getD_some]
      split
      · next empty =>
        rw [Table.get?_erase, if_pos rfl]
        refine IntSet.ext_mem fun z => ?_
        exact iff_of_false (IntSet.mem_empty z) (IntSet.isEmpty_iff.1 empty z)
      · rw [Table.get?_insert_self, Option.getD_some]
    · rw [if_neg same]
      split
      · rw [Table.get?_erase, if_neg same]
      · rw [Table.get?_insert_of_ne same]

/-- An emoji stays in its place or is given up. -/
theorem keys_unreact (m : Message) (emoji : Text) (user : Int) :
    (m.unreact emoji user).reactions.keys.Sublist m.reactions.keys := by
  cases found : m.reactions.get? emoji with
  | none => rw [unreact_of_none found]
  | some users =>
    have known : emoji ∈ m.reactions.keys := Table.get?_isSome_iff.1 (by rw [found]; rfl)
    rw [unreact_of_some found]
    split
    · rw [Table.keys_erase]
      exact List.filter_sublist
    · rw [Table.keys_insert, if_pos known]

/-- Whether there are users behind every emoji of the table. -/
def NoneEmpty (m : Message) : Prop :=
  ∀ emoji users, m.reactions.get? emoji = some users → users.isEmpty = false

theorem NoneEmpty.react {m : Message} (h : m.NoneEmpty) (emoji : Text) (user : Int) :
    (m.react emoji user).NoneEmpty := by
  intro other users found
  rw [Message.react, Table.get?_insert] at found
  split at found
  · obtain rfl := Option.some.inj found
    refine Bool.eq_false_iff.2 fun empty => IntSet.isEmpty_iff.1 empty user ?_
    exact IntSet.mem_insert.2 (.inl rfl)
  · exact h other users found

theorem NoneEmpty.unreact {m : Message} (h : m.NoneEmpty) (emoji : Text) (user : Int) :
    (m.unreact emoji user).NoneEmpty := by
  cases known : m.reactions.get? emoji with
  | none =>
    rw [unreact_of_none known]
    exact h
  | some before =>
    intro other users found
    rw [unreact_of_some known] at found
    split at found
    · rw [Table.get?_erase] at found
      split at found
      · cases found
      · exact h other users found
    · next inhabited =>
      rw [Table.get?_insert] at found
      split at found
      · obtain rfl := Option.some.inj found
        exact Bool.eq_false_iff.2 inhabited
      · exact h other users found

/-- A table of reactions that is what the events say. -/
structure Tallied (m : Message) (events : List Event.Body) : Prop where
  reacts : ∀ emoji user, user ∈ m.reactors emoji ↔ Reacts events emoji user
  noneEmpty : m.NoneEmpty
  inOrder : m.reactions.keys.Pairwise (LastUpBefore events)

namespace Tallied

variable {m after : Message} {events : List Event.Body} {body : Event.Body}

theorem of_empty (unreacted : m.reactions = .empty) : m.Tallied [] where
  reacts emoji user := by
    rw [reactors, unreacted]
    exact iff_of_false (IntSet.mem_empty user) not_reacts_nil
  noneEmpty emoji users found := by
    rw [unreacted] at found
    cases found
  inOrder := by
    rw [unreacted]
    exact .nil

/-- The emojis of the table are those in use. -/
theorem mem_keys_iff (h : m.Tallied events) {emoji : Text} :
    emoji ∈ m.reactions.keys ↔ InUse events emoji := by
  rw [InUse, ← Table.get?_isSome_iff]
  simp only [← h.reacts, reactors]
  cases found : m.reactions.get? emoji with
  | none =>
    refine iff_of_false Bool.false_ne_true ?_
    rintro ⟨user, mem⟩
    exact IntSet.mem_empty user mem
  | some users =>
    refine iff_of_true rfl ?_
    by_contra unused
    have empty : users.isEmpty = true := IntSet.isEmpty_iff.2 fun user mem => unused ⟨user, mem⟩
    rw [h.noneEmpty emoji users found] at empty
    cases empty

/-- The emojis that are in use stay in their order. -/
theorem inOrder_concat (h : m.Tallied events) (body : Event.Body) :
    m.reactions.keys.Pairwise (LastUpBefore (events ++ [body])) := by
  refine h.inOrder.imp_of_mem ?_
  rintro earlier later known known' ⟨i, j, before, up, up'⟩
  exact ⟨i, j, before, up.concat (h.mem_keys_iff.1 known), up'.concat (h.mem_keys_iff.1 known')⟩

theorem react (h : m.Tallied events) (msgId : Int) (emoji : Text) (user : Int) :
    (m.react emoji user).Tallied (events ++ [.reactionAdded msgId emoji user]) := by
  refine ⟨fun other user' => ?_, h.noneEmpty.react emoji user, ?_⟩
  · rw [reactors_react, reacts_add, ← h.reacts other user']
    by_cases same : other = emoji <;> simp [same]
  · have keys : (m.react emoji user).reactions.keys =
        if emoji ∈ m.reactions.keys then m.reactions.keys else m.reactions.keys ++ [emoji] :=
      Table.keys_insert _ _ _
    rw [keys]
    split
    · exact h.inOrder_concat _
    · next unknown =>
      -- the emoji comes up with this event, and so after all those that are in use
      refine List.pairwise_append.2 ⟨h.inOrder_concat _, List.pairwise_singleton _ _, ?_⟩
      intro other known last mem
      obtain rfl := List.mem_singleton.1 mem
      have used : InUse events other := h.mem_keys_iff.1 known
      have unused : ¬InUse events last := fun used => unknown (h.mem_keys_iff.2 used)
      obtain ⟨i, bound, up⟩ := exists_lastUpAt used
      exact ⟨i, events.length, bound, up.concat used, lastUpAt_length unused⟩

theorem unreact (h : m.Tallied events) (msgId : Int) (emoji : Text) (user : Int) :
    (m.unreact emoji user).Tallied (events ++ [.reactionRemoved msgId emoji user]) := by
  refine ⟨fun other user' => ?_, h.noneEmpty.unreact emoji user, ?_⟩
  · rw [reactors_unreact, reacts_remove, ← h.reacts other user']
    by_cases same : other = emoji <;> simp [same]
  · exact (h.inOrder_concat _).sublist (keys_unreact m emoji user)

/-- An event that is not about reactions leaves them alone. -/
theorem silent (h : m.Tallied events) (same : after.reactions = m.reactions)
    (silent : ∀ emoji user, body.reaction? emoji user = none) :
    after.Tallied (events ++ [body]) := by
  have reacts (emoji : Text) (user : Int) :
      Reacts (events ++ [body]) emoji user ↔ Reacts events emoji user :=
    reacts_concat_of_none (silent emoji user)
  refine ⟨fun emoji user => ?_, fun emoji users found => ?_, ?_⟩
  · rw [reacts, ← h.reacts, reactors, reactors, same]
  · rw [same] at found
    exact h.noneEmpty emoji users found
  · rw [same]
    exact h.inOrder_concat body

theorem amendedBy (h : m.Tallied events) (body : Event.Body) :
    (m.amendedBy body).Tallied (events ++ [body]) := by
  cases body with
  | reactionAdded msgId emoji user => exact h.react msgId emoji user
  | reactionRemoved msgId emoji user => exact h.unreact msgId emoji user
  | _ => exact h.silent rfl fun _ _ => rfl

theorem foldl_amendedBy (unreacted : m.reactions = .empty) (events : List Event.Body) :
    (events.foldl Message.amendedBy m).Tallied events := by
  induction events using List.reverseRecOn with
  | nil => exact .of_empty unreacted
  | append_singleton events body ih =>
    rw [List.foldl_concat]
    exact ih.amendedBy body

end Tallied

/-! ## The list of reactions -/

section

variable {m : Message}

/-- What is listed are the sets of the table. -/
theorem exists_users_of_mem {reaction : Reaction} (listed : reaction ∈ m.reactionList) :
    ∃ users, m.reactions.get? reaction.emoji = some users ∧
      reaction.userIds = users.elems ∧ reaction.count = users.size := by
  obtain ⟨⟨emoji, users⟩, mem, rfl⟩ := List.mem_map.1 listed
  exact ⟨users, Table.get?_eq_some_iff.2 (List.mem_filter.1 mem).1, rfl, rfl⟩

/-- The emojis are listed in their order. -/
theorem NoneEmpty.listed (h : m.NoneEmpty) :
    m.reactionList.map Reaction.emoji = m.reactions.keys := by
  have all : m.reactions.entries.filter (fun e => !e.2.isEmpty) = m.reactions.entries := by
    refine List.filter_eq_self.2 fun e mem => ?_
    rw [h e.1 e.2 (Table.get?_eq_some_iff.2 mem)]
    rfl
  rw [reactionList, all, List.map_map]
  rfl

end

end Message

/-! ## The messages of a session that is given no commands -/

namespace Session

variable {settings : Settings} {actions : List Action} {s : Session}

/-- The id of the message that the chat event of an action is about. -/
def Action.aboutId? : Action → Option Int
  | .event e _ => e.body.about?
  | _ => none

theorem postedIds_natural (natural : ∀ a ∈ actions, ∀ id ∈ a.aboutId?, 0 ≤ id) :
    ∀ id ∈ postedIds actions, 0 ≤ id := by
  intro id posted
  obtain ⟨a, mem, posts⟩ := List.mem_filterMap.1 posted
  cases a with
  | event e now =>
    have about : e.body.about? = some id := by
      have posts : e.body.postedId? = some id := posts
      rw [Event.Body.about?, posts]
      rfl
    exact natural _ mem id about
  | _ => cases posts

theorem eventsAbout_of_neg (natural : ∀ a ∈ actions, ∀ id ∈ a.aboutId?, 0 ≤ id) {id : Int}
    (negative : id < 0) : eventsAbout id actions = [] := by
  refine List.filterMap_eq_nil_iff.2 fun a mem => ?_
  cases a with
  | event e now =>
    refine if_neg fun about => ?_
    exact absurd (natural _ mem id about) (Int.not_le.2 negative)
  | _ => rfl

/-- Nobody reacts to narration. -/
theorem unreacted_narration (natural : ∀ a ∈ actions, ∀ id ∈ a.aboutId?, 0 ≤ id) :
    (run settings actions {}).AllStores fun store =>
      store.log.Sound ∧ store.log.Every fun m => m.msgId < 0 → m.reactions = .empty := by
  refine allStores_run settings (P := fun log => log.Sound ∧ log.Every _)
    ⟨MessageLog.sound_empty, .empty⟩ fun event now mem log after received h => ?_
  refine ⟨received.sound h.1, received.every h.1 h.2 (fun _ _ => rfl) (fun _ _ => rfl) ?_⟩
  intro id f amends m found _ negative
  have numbered : 0 ≤ id := natural _ mem id (Event.Body.about?_of_amendment? amends)
  rw [(Event.Body.amendment?_keeps amends m).1, MessageLog.msgId_of_find? found] at negative
  omega

/-- The table of every message that is shown is what the events say since it was delivered. -/
theorem tallied_run (unlimited : settings.maxMessagesPerChannel ≤ 0)
    (inputs : ∀ a ∈ actions, a.isCommand = false)
    (natural : ∀ a ∈ actions, ∀ id ∈ a.aboutId?, 0 ≤ id) {channel : Int} {m : Message}
    (shown : m ∈ (run settings actions {}).store.log.messagesOf channel) :
    m.Tallied (sincePost (eventsAbout m.msgId actions)) := by
  -- narration has no reactions, and the ids of the server find what the events made
  by_cases negative : m.msgId < 0
  · obtain ⟨line, home, rfl⟩ := MessageLog.mem_messagesOf.1 shown
    have mem := MessageLog.mem_lines.2 ⟨channel, home⟩
    rw [eventsAbout_of_neg natural negative]
    exact .of_empty ((unreacted_narration natural).shown.2 line mem negative)
  · have numbered : 0 ≤ m.msgId := Int.not_lt.1 negative
    have posted := postedIds_natural natural
    have found : (run settings actions {}).store.log.find? m.msgId = some m :=
      (consistent_session settings posted).shown.find?_eq_some_iff.2 ⟨rfl, channel, shown⟩
    rw [find?_run unlimited inputs posted numbered, foldl_follow] at found
    obtain ⟨post, -, told⟩ := Option.map_eq_some_iff.1 found
    have tallied := Message.Tallied.foldl_amendedBy (m := post.toMessage) rfl
      (sincePost (eventsAbout m.msgId actions))
    rwa [told] at tallied

/-- In a session that is given no commands and has no limit on its histories, a user is among
those who react with an emoji to a message exactly if the last event about it since the message
was delivered adds the reaction. The table has no empty sets. The list of reactions has every
emoji of the table once, those of the table are those that anybody uses, and they come in the
order in which they last came up. The users of each are listed in ascending order and
counted. -/
theorem reactions_of_own_events (settings : Settings)
    (unlimited : settings.maxMessagesPerChannel ≤ 0) (actions : List Action)
    (inputs : ∀ a ∈ actions, a.isCommand = false)
    (natural : ∀ a ∈ actions, ∀ id ∈ a.aboutId?, 0 ≤ id) (channel : Int) (m : Message)
    (shown : m ∈ (run settings actions {}).store.log.messagesOf channel) :
    let since := sincePost (eventsAbout m.msgId actions)
    let listed := m.reactionList.map Reaction.emoji
    (∀ emoji user, user ∈ m.reactors emoji ↔ Reacts since emoji user) ∧
    (∀ emoji users, m.reactions.get? emoji = some users → users.isEmpty = false) ∧
    listed.Nodup ∧
    (∀ emoji, emoji ∈ listed ↔ (m.reactions.get? emoji).isSome) ∧
    (∀ emoji, emoji ∈ listed ↔ InUse since emoji) ∧
    listed.Pairwise (LastUpBefore since) ∧
    ∀ reaction ∈ m.reactionList, reaction.userIds.Pairwise (· < ·) ∧
      reaction.count = reaction.userIds.length ∧
      ∀ user, user ∈ reaction.userIds ↔ user ∈ m.reactors reaction.emoji := by
  intro since listed
  have tallied : m.Tallied since := tallied_run unlimited inputs natural shown
  have keys : listed = m.reactions.keys := tallied.noneEmpty.listed
  rw [keys]
  refine ⟨tallied.reacts, tallied.noneEmpty, m.reactions.nodup,
    fun emoji => Table.get?_isSome_iff.symm, fun emoji => tallied.mem_keys_iff,
    tallied.inOrder, fun reaction mem => ?_⟩
  obtain ⟨users, found, userIds, count⟩ := Message.exists_users_of_mem mem
  rw [userIds, count, Message.reactors, found]
  exact ⟨users.ascending, rfl, fun user => Iff.rfl⟩

/-- The heart of user 9 is gone with the second delivery. Nobody waves for a moment, so that
the wave comes after the heart. -/
theorem reactions_after_redelivery :
    let event (body : Event.Body) : Action := .event ⟨"", body⟩ 1
    let actions := [event (.chatPosted { msgId := 7 }), event (.reactionAdded 7 "heart" 9),
      event (.chatPosted { msgId := 7, channelId := 5 }), event (.userJoined 2 "Ada" none),
      event (.reactionAdded 7 "wave" 3), event (.reactionAdded 7 "heart" 2),
      event (.reactionRemoved 7 "wave" 3), event (.reactionRemoved 7 "heart" 9),
      event (.reactionAdded 8 "smile" 3), event (.reactionAdded 7 "wave" 4),
      event (.reactionAdded 7 "wave" 3), event (.reactionAdded 7 "wave" 4)]
    let since := sincePost (eventsAbout 7 actions)
    (∀ a ∈ actions, a.isCommand = false) ∧ (∀ a ∈ actions, ∀ id ∈ a.aboutId?, 0 ≤ id) ∧
    ∃ m ∈ (run {} actions {}).store.log.messagesOf 5,
      m.reactionList = [⟨"heart", [2], 1⟩, ⟨"wave", [3, 4], 2⟩] ∧
      Reacts since "wave" 3 ∧ ¬Reacts since "heart" 9 ∧ LastUpBefore since "heart" "wave" := by
  intro event actions since
  have inputs : ∀ a ∈ actions, a.isCommand = false := by decide
  have natural : ∀ a ∈ actions, ∀ id ∈ a.aboutId?, 0 ≤ id := by decide
  have reacted : ∃ m ∈ (run {} actions {}).store.log.messagesOf 5, m.msgId = 7 ∧
      m.reactionList = [⟨"heart", [2], 1⟩, ⟨"wave", [3, 4], 2⟩] := by decide +kernel
  obtain ⟨m, shown, id, list⟩ := reacted
  have follows :=
    reactions_of_own_events {} (Int.le_refl 0) actions inputs natural 5 m shown
  rw [id, list] at follows
  obtain ⟨reacts, -, -, -, -, inOrder, users⟩ := follows
  have wave := (users ⟨"wave", [3, 4], 2⟩ (by simp)).2.2
  have heart := (users ⟨"heart", [2], 1⟩ (by simp)).2.2
  refine ⟨inputs, natural, m, shown, list, ?_, ?_, ?_⟩
  · exact (reacts "wave" 3).1 ((wave 3).1 (by decide))
  · exact fun reacts' => absurd ((heart 9).2 ((reacts "heart" 9).2 reacts')) (by decide)
  · exact List.rel_of_pairwise_cons inOrder (by simp)

end Session

end VoiceChat
