import VoiceChat.Proofs.SessionLogs

/-!
# The texts of deleted messages

A deletion takes a message's text away and leaves the message in its place. What is
delivered is not deleted, and no other event than an edit writes a text, so a deleted
message shows none (`Message.Cleared`) unless an edit comes for it, as it does when the
transport delivers an old edit again. `deleted_cleared_iff` says that this happens in no
other way.
-/

namespace VoiceChat

/-- Whether the message shows no text if it is deleted. -/
def Message.Cleared (m : Message) : Prop := m.deleted = true → m.text = ""

/-! ## What holds of every message of a log -/

namespace MessageLog

variable {log : MessageLog} {P : Message → Prop}

/-- Whether every message has the property, those that no event reaches included. -/
def Every (P : Message → Prop) (log : MessageLog) : Prop := ∀ line ∈ log.lines, P line.message

namespace Every

theorem empty : Every P {} := fun _ mem => absurd mem List.not_mem_nil

/-- The property stays if the change keeps it of the message that it reaches. -/
theorem modify (hl : log.Every P) (sound : log.Sound) {id : Int} {f : Message → Message}
    (keeps : ∀ m, log.find? id = some m → P m → P (f m)) : (log.modify id f).Every P := by
  intro line mem
  rw [MessageLog.modify, lines_mapLines] at mem
  obtain ⟨before, source, rfl⟩ := List.mem_map.1 mem
  split
  · next answers => exact keeps _ (find?_of_mem sound.single source answers) (hl before source)
  · exact hl before source

theorem retire (hl : log.Every P) (ids : List Int) : (log.mapLines (retire ids)).Every P := by
  intro line mem
  rw [lines_mapLines] at mem
  obtain ⟨before, source, rfl⟩ := List.mem_map.1 mem
  rw [retire_message]
  exact hl before source

theorem remove (hl : log.Every P) (id : Int) : (log.remove id).Every P := by
  intro line mem
  rw [lines_remove] at mem
  exact hl line (List.mem_filter.1 mem).1

theorem append (hl : log.Every P) {message : Message} (new : P message) :
    (log.append message).Every P := by
  intro line mem
  rcases mem_lines_append.1 mem with before | rfl
  · exact hl line before
  · exact new

theorem evict (hl : log.Every P) (limit channel : Int) : (log.evict limit channel).Every P := by
  rw [evict_eq]
  exact retire (fun line mem => hl line (mem_lines_of_dropOldest mem)) _

theorem deliver (hl : log.Every P) (sound : log.Sound) (limit : Int) {message : Message}
    (new : P message) : (log.deliver limit message).1.Every P := by
  unfold MessageLog.deliver
  cases log.find? message.msgId with
  | none => exact (hl.append new).evict limit message.channelId
  | some known =>
    by_cases stays : known.channelId = message.channelId
    · simp only [stays, if_true]
      exact hl.modify sound fun _ _ _ => new
    · simp only [stays, if_false]
      exact (hl.remove message.msgId).append new

theorem narrate (hl : log.Every P) (limit channel : Int) {text : Text} {ts : Int}
    (new : P (log.narration channel text ts)) :
    (log.narrate limit channel text ts).Every P := by
  have counted : log.counted.Every P := hl
  have withdrawn : (log.counted.withdraw log.nextNarrationId).Every P := by
    rw [withdraw_eq]
    exact counted.retire _
  exact (withdrawn.append new).evict limit channel

end Every

end MessageLog

namespace Store

variable {settings : Settings} {log after : MessageLog} {now : Int} {body : Event.Body}
  {P : Message → Prop}

/-- What holds of new messages and of narration, and is kept by an event's amendment of the
message that it is for, holds of all messages. -/
theorem Received.every (h : Received settings log now body after) (sound : log.Sound)
    (hl : log.Every P) (posted : ∀ post, P (Post.toMessage post))
    (narrated : ∀ text, P (log.narration lobby text now))
    (amended : ∀ id f, body.amendment? = some (id, f) →
      ∀ m, log.find? id = some m → P m → P (f m)) : after.Every P := by
  cases h with
  | posted post => exact hl.deliver sound _ (posted post)
  | amended amends => exact hl.modify sound (amended _ _ amends)
  | narrated text => exact hl.narrate _ lobby (narrated text)
  | untouched => exact hl

end Store

namespace MessageLog

variable {settings : Settings} {log after : MessageLog} {now : Int} {body : Event.Body}

/-- Whether an event gives a deleted message of the log a text. -/
def Unveils (log : MessageLog) : Event.Body → Prop
  | .chatEdited msgId text _ => text ≠ "" ∧ ∃ m, log.find? msgId = some m ∧ m.deleted = true
  | _ => False

/-- The invariant behind cleared texts: an edit then reaches the one message that is found. -/
structure Tidy (log : MessageLog) : Prop where
  sound : log.Sound
  cleared : log.Every Message.Cleared

theorem tidy_empty : Tidy {} := ⟨sound_empty, .empty⟩

theorem cleared_amended (h : ¬log.Unveils body) {id : Int} {f : Message → Message}
    (amends : body.amendment? = some (id, f)) {m : Message} (found : log.find? id = some m)
    (cleared : m.Cleared) : (f m).Cleared := by
  cases body <;> cases amends
  case chatEdited text ts =>
    intro deleted
    by_contra shown
    exact h ⟨shown, m, found, deleted⟩
  case chatDeleted => exact fun _ => rfl
  case reactionRemoved =>
    simp only [Message.unreact]
    split <;> exact cleared
  all_goals exact cleared

theorem Tidy.received (hl : log.Tidy) (h : ¬log.Unveils body)
    (event : Store.Received settings log now body after) : after.Tidy where
  sound := event.sound hl.sound
  cleared := event.every hl.sound hl.cleared (fun _ deleted => Bool.noConfusion deleted)
    (fun _ deleted => Bool.noConfusion deleted)
    fun _ _ amends _ found => cleared_amended h amends found

/-- The deleted message has the text of the edit. -/
theorem not_every_cleared_of_unveils (h : log.Unveils body)
    (event : Store.Received settings log now body after) : ¬after.Every Message.Cleared := by
  cases body with
  | chatEdited msgId text ts =>
    obtain ⟨shown, m, found, deleted⟩ := h
    cases event with
    | amended amends =>
      cases amends
      obtain ⟨line, mem, answers, rfl⟩ := exists_line_of_find? found
      intro cleared
      have edited : ({ line with message := line.message.edit text ts } : Line) ∈
          (log.modify msgId (·.edit text ts)).lines := by
        rw [modify_eq, lines_mapLines]
        exact List.mem_map.2 ⟨line, mem, amend_of_answers answers⟩
      exact shown (cleared _ edited deleted)
    | narrated text unaddressed => cases unaddressed
    | untouched unaddressed => cases unaddressed
  | _ => exact h.elim

end MessageLog

/-! ## The stores of a session -/

namespace Session

variable {settings : Settings} {s : Session}

/-- Whether an action is an event that gives a deleted message a text, in the store that it
goes to. -/
def Unveils (s : Session) : Action → Prop
  | .event e _ => ∃ store, s.receiver? e.serverAddr = some store ∧ store.log.Unveils e.body
  | _ => False

theorem tidy_step (hs : s.AllStores (·.log.Tidy)) {a : Action} (h : ¬s.Unveils a) :
    (s.step settings a).AllStores (·.log.Tidy) := by
  cases a with
  | event e now =>
    refine allStores_receive settings hs fun store goes tidy => ?_
    have calm : ¬store.log.Unveils e.body := fun unveils => h ⟨store, goes, unveils⟩
    exact ⟨tidy.received calm (Store.received settings store s.viewed now e.body),
      tidy.received calm (Store.receivedLive settings store s.viewed now e.body)⟩
  | _ =>
    refine allStores_step settings hs MessageLog.tidy_empty fun event now same => ?_
    cases same

theorem not_cleared_of_unveils {a : Action} (h : s.Unveils a) :
    ¬(s.step settings a).AllStores (·.log.Every Message.Cleared) := by
  cases a with
  | event e now =>
    obtain ⟨store, goes, unveils⟩ := h
    intro cleared
    rcases received_of_allStores settings cleared goes with staged | shown
    · exact MessageLog.not_every_cleared_of_unveils unveils
        (Store.received settings store s.viewed now e.body) staged
    · exact MessageLog.not_every_cleared_of_unveils unveils
        (Store.receivedLive settings store s.viewed now e.body) shown
  | _ => exact h.elim

/-- At every moment of a run no deleted message of any store shows a text, exactly if no edit
of the run gives a text to a message that is deleted when the edit comes. -/
theorem deleted_cleared_iff (settings : Settings) (actions : List Action) :
    (∀ front, front <+: actions →
        (run settings front {}).AllStores (·.log.Every Message.Cleared)) ↔
      ∀ front a, front ++ [a] <+: actions → ¬(run settings front {}).Unveils a := by
  apply foldl_throughout_iff_of_mem (I := AllStores (·.log.Tidy))
    (P := AllStores (·.log.Every Message.Cleared))
  · intro s tidy
    exact ⟨tidy.shown.cleared, fun address store found => (tidy.staged address store found).cleared⟩
  · intro a _ s tidy calm
    exact tidy_step tidy calm
  · intro a _ s _ unveils
    exact not_cleared_of_unveils unveils
  · exact allStores_start MessageLog.tidy_empty

/-- The second copy of an edit comes when its message has been deleted. -/
theorem text_of_deleted_message :
    let edit : Event := ⟨"", .chatEdited 1 "edited" 2⟩
    let s := run {} [.event ⟨"", .chatPosted { msgId := 1, text := "hello" }⟩ 1, .event edit 2,
      .event ⟨"", .chatDeleted 1⟩ 3, .event edit 4] {}
    (∃ m ∈ s.store.log.messagesOf lobby, m.deleted = true ∧ m.text = "edited") ∧
    ¬s.AllStores (·.log.Every Message.Cleared) := by
  intro edit s
  have shown : ∃ m ∈ s.store.log.messagesOf lobby, m.deleted = true ∧ m.text = "edited" := by
    decide +kernel
  refine ⟨shown, fun cleared => ?_⟩
  obtain ⟨m, mem, deleted, text⟩ := shown
  obtain ⟨line, home, rfl⟩ := MessageLog.mem_messagesOf.1 mem
  have empty := cleared.shown line (MessageLog.mem_lines.2 ⟨lobby, home⟩) deleted
  rw [text] at empty
  exact absurd empty (by decide)

end Session

end VoiceChat
