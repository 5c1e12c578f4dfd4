import VoiceChat.Proofs.ArchiveLog

/-!
# What the ids lead to

As long as the server numbers its messages from zero on, the index and the histories of an
archive agree in every run: an id leads to a slot exactly when the slot is shown and holds a
message with that id (`ids_reach_what_is_shown`). So a message that is delivered again is
found where it is shown, a change reaches what is shown, and what is evicted is known no more.
-/

namespace VoiceChat.Archive

open Store (Change deliveredIds)

variable {a : Archive}

/-- The ids of the messages of all channels. -/
def ids (a : Archive) : List Int := a.idsAt a.histories.values.flatten

theorem ids_log : a.log.ids = a.ids := by
  simp [MessageLog.ids, MessageLog.lines, log, ids, idsAt, lineAt, Table.values, Table.mapValues,
    List.map_flatten, Function.comp_def]

/-- In a consistent log every slot that is shown has the index lead to it. -/
theorem Sound.index_eq_some_iff (h : a.Sound) (consistent : a.log.Consistent) {id : Int}
    {slot : Nat} :
    a.index.get? id = some slot ↔
      (a.messageAt slot).msgId = id ∧ ∃ channel, slot ∈ a.slotsOf channel := by
  constructor
  · intro leads
    obtain ⟨same, shown⟩ := h.shows id slot leads
    exact ⟨same, _, shown⟩
  · rintro ⟨rfl, channel, shown⟩
    have reached := consistent.reached (a.lineAt slot) (mem_lines_log.2 ⟨channel, slot, shown, rfl⟩)
    simpa [lineAt] using reached

/-- As long as delivered messages have natural ids, a run never breaks off and keeps the log of
the store. A message stands in its own channel, no id occurs twice, and the index leads from an
id to what is shown under it and to nothing else. A message that is delivered again is found
where the known one is shown, and a change reaches the message that is shown. -/
theorem ids_reach_what_is_shown (settings : Settings) (changes : List Change)
    (natural : ∀ id ∈ deliveredIds changes, 0 ≤ id) :
    ∃ a, run settings changes {} = some a ∧ a.log = (Store.run settings changes {}).log ∧
    (∀ channel, ∀ m ∈ a.messagesOf channel, m.channelId = channel) ∧
    a.ids.Nodup ∧
    (∀ id slot, a.index.get? id = some slot ↔
      (a.messageAt slot).msgId = id ∧ ∃ channel, slot ∈ a.slotsOf channel) ∧
    (∀ id m, a.get? id = some m ↔ m.msgId = id ∧ ∃ channel, m ∈ a.messagesOf channel) ∧
    (∀ id, a.get? id = none ↔ ∀ channel, ∀ m ∈ a.messagesOf channel, m.msgId ≠ id) ∧
    (∀ message known, a.get? message.msgId = some known →
      ∃ before after, a.messagesOf known.channelId = before ++ known :: after ∧
      ∃ b, a.deliver settings.maxMessagesPerChannel message = some (b, false) ∧
        ∀ channel, b.messagesOf channel =
          if known.channelId = message.channelId then
            if channel = known.channelId then before ++ message :: after
            else a.messagesOf channel
          else if channel = known.channelId then before ++ after
          else if channel = message.channelId then a.messagesOf channel ++ [message]
          else a.messagesOf channel) ∧
    (∀ change id f, change.amendment? = some (id, f) →
      ∃ b, a.step settings change = some b ∧
        ∀ channel, b.messagesOf channel =
          (a.messagesOf channel).map fun m => if m.msgId = id then f m else m) := by
  have start : ({} : Archive).log = ({} : Store).log := rfl
  obtain ⟨a, completed, sound, same⟩ := sound_empty.run settings start changes
  have consistent : a.log.Consistent := same ▸ Store.consistent_run settings natural
  have finds (id : Int) (m : Message) :
      a.get? id = some m ↔ m.msgId = id ∧ ∃ channel, m ∈ a.messagesOf channel := by
    rw [← sound.find?_log, consistent.find?_eq_some_iff]
    simp only [messagesOf_log]
  refine ⟨a, completed, same, fun channel m shown => ?_, ids_log ▸ consistent.distinct,
    fun id slot => sound.index_eq_some_iff consistent, finds, fun id => ?_,
    fun message known found => ?_, fun change id f amends => ?_⟩
  · exact consistent.channelId_eq (messagesOf_log channel ▸ shown)
  · rw [Option.eq_none_iff_forall_ne_some]
    constructor
    · rintro unknown channel m shown rfl
      exact unknown m ((finds _ m).2 ⟨rfl, channel, shown⟩)
    · rintro absent m found
      obtain ⟨known, channel, shown⟩ := (finds id m).1 found
      exact absent channel m shown known
  · rw [← sound.find?_log] at found
    obtain ⟨b, delivered, -, became⟩ := sound.deliver settings.maxMessagesPerChannel message
    have old : (a.log.deliver settings.maxMessagesPerChannel message).2 = false := by
      simp only [MessageLog.deliver, found]
      split <;> rfl
    obtain ⟨before, after, split, shown⟩ :=
      consistent.messagesOf_redeliver settings.maxMessagesPerChannel found
    simp only [← became, messagesOf_log] at split shown
    exact ⟨before, after, split, b, old ▸ delivered, shown⟩
  · obtain ⟨-, changed⟩ := sound.modify id (Store.amendment?_keeps amends)
    refine ⟨a.modify id f, step_of_amendment? settings amends, fun channel => ?_⟩
    rw [← messagesOf_log, changed, consistent.messagesOf_modify, messagesOf_log]

/-- With two lines kept: narration in the lobby, and a message that is evicted from the
lobby, delivered again, moved to another channel and edited there. -/
def wandering : List Change :=
  [.deliver { msgId := 7, text := "hello" }, .narrate lobby "Ada joined" 1,
    .deliver { msgId := 8 }, .edit 7 "lost" 2, .deliver { msgId := 7 },
    .deliver { msgId := 7, channelId := 5 }, .react 7 "+" 3, .edit 7 "found" 4]

theorem id_reaches_wandering_message :
    (∀ id ∈ deliveredIds wandering, 0 ≤ id) ∧
    ∃ a, run { maxMessagesPerChannel := 2 } wandering {} = some a ∧ a.ids.Nodup ∧
      (∃ m channel, a.get? 7 = some m ∧ m.text = "found" ∧ m ∈ a.messagesOf channel) ∧
      ∀ channel, ∀ m ∈ a.messagesOf channel, m.msgId ≠ -1 := by
  have natural : ∀ id ∈ deliveredIds wandering, 0 ≤ id := by decide
  obtain ⟨a, completed, -, -, distinct, -, finds, unknown, -⟩ :=
    ids_reach_what_is_shown { maxMessagesPerChannel := 2 } wandering natural
  have text : (run { maxMessagesPerChannel := 2 } wandering {}).map
      (fun a => (a.get? 7).map Message.text) = some (some ("found" : Text)) := by decide +kernel
  have evicted : (run { maxMessagesPerChannel := 2 } wandering {}).map (·.get? (-1)) =
      some none := by decide +kernel
  rw [completed] at text evicted
  obtain ⟨m, found, text⟩ := Option.map_eq_some_iff.1 (Option.some.inj text)
  obtain ⟨-, channel, shown⟩ := (finds 7 m).1 found
  exact ⟨natural, a, completed, distinct, ⟨m, channel, found, text, shown⟩,
    (unknown (-1)).1 (Option.some.inj evicted)⟩

end VoiceChat.Archive
