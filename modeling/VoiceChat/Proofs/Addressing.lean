import VoiceChat.Proofs.Histories

/-!
# Messages and their ids

The server numbers its messages from zero on and narration is numbered from `-1`
downwards, so that a log in which both are kept is `Consistent`: no two of its
lines have the same id, and each is reached through its id. A line that arrives
is then just added at the end of its channel, and eviction takes the oldest lines
away and withdraws no other id (`deliver_fresh`, `narrate_fresh`).
`Consistent.find?_eq_some_iff`, `messagesOf_modify` and `messagesOf_redeliver` say
what that means for lookups, changes and redeliveries.
-/

namespace VoiceChat

namespace MessageLog

variable {log : MessageLog}

/-- The ids of all lines. -/
def ids (log : MessageLog) : List Int := log.lines.map fun line => line.message.msgId

theorem mem_ids {id : Int} : id ∈ log.ids ↔ ∃ line ∈ log.lines, line.message.msgId = id :=
  List.mem_map

theorem mem_ids_of_addressed {id : Int} (mem : id ∈ log.addressedIds) : id ∈ log.ids := by
  obtain ⟨line, here, answers⟩ := mem_addressedIds.1 mem
  exact mem_ids.2 ⟨line, here, (Line.answers_iff.1 answers).2⟩

theorem ids_mapLines {f : Line → Line}
    (h : ∀ line, (f line).message.msgId = line.message.msgId) : (log.mapLines f).ids = log.ids := by
  simp only [ids, lines_mapLines, List.map_map, Function.comp_def, h]

/-- The line with its message changed, if it answers to the id. -/
def amend (id : Int) (f : Message → Message) (line : Line) : Line :=
  if line.answers id then { line with message := f line.message } else line

section

variable {id : Int} {f : Message → Message} {line : Line}

theorem modify_eq (id : Int) (f : Message → Message) :
    log.modify id f = log.mapLines (amend id f) := rfl

theorem amend_of_answers (answers : line.answers id = true) :
    amend id f line = { line with message := f line.message } := if_pos answers

theorem amend_of_silent (silent : line.answers id ≠ true) : amend id f line = line := if_neg silent

theorem amend_of_ne (apart : line.message.msgId ≠ id) : amend id f line = line :=
  amend_of_silent fun answers => apart (Line.answers_iff.1 answers).2

theorem msgId_amend (keeps : ∀ m, m.msgId = id → (f m).msgId = id) (line : Line) :
    (amend id f line).message.msgId = line.message.msgId := by
  unfold amend
  split
  · next answers =>
    have known := (Line.answers_iff.1 answers).2
    exact (keeps _ known).trans known.symm
  · rfl

theorem answers_amend (keeps : ∀ m, m.msgId = id → (f m).msgId = id) (line : Line) (other : Int) :
    (amend id f line).answers other = line.answers other := by
  have addressable : (amend id f line).addressable = line.addressable := by
    unfold amend
    split <;> rfl
  simp only [Line.answers, addressable, msgId_amend keeps]

theorem ids_modify (keeps : ∀ m, m.msgId = id → (f m).msgId = id) :
    (log.modify id f).ids = log.ids :=
  ids_mapLines (msgId_amend keeps)

theorem addressedIds_modify (keeps : ∀ m, m.msgId = id → (f m).msgId = id) :
    (log.modify id f).addressedIds = log.addressedIds := by
  rw [modify_eq]
  refine addressedIds_mapLines fun line _ => ⟨?_, fun _ => msgId_amend keeps line⟩
  unfold amend
  split <;> rfl

end

theorem mem_ids_of_remove {id other : Int} (mem : other ∈ (log.remove id).ids) :
    other ∈ log.ids := by
  rw [ids, lines_remove] at mem
  exact (List.filter_sublist.map _).subset mem

theorem ids_append (message : Message) :
    (log.append message).ids.Perm (log.ids ++ [message.msgId]) := by
  have all := (lines_append log message).map fun line => line.message.msgId
  simpa [ids] using all

theorem mem_ids_append {message : Message} {id : Int} :
    id ∈ (log.append message).ids ↔ id ∈ log.ids ∨ id = message.msgId := by
  rw [(ids_append message).mem_iff, List.mem_append, List.mem_singleton]

theorem mem_addressedIds_append {message : Message} {id : Int} :
    id ∈ (log.append message).addressedIds ↔ id ∈ log.addressedIds ∨ id = message.msgId := by
  rw [(addressedIds_append message).mem_iff, List.mem_append, List.mem_singleton]

theorem ids_dropOldest (channel : Int) (count : Nat) :
    log.ids.Perm (((log.linesOf channel).take count).map (fun line => line.message.msgId) ++
      (log.dropOldest channel count).ids) := by
  have all := (lines_dropOldest log channel count).map fun line => line.message.msgId
  rwa [List.map_append] at all

theorem mem_lines_of_dropOldest {channel : Int} {count : Nat} {line : Line}
    (mem : line ∈ (log.dropOldest channel count).lines) : line ∈ log.lines :=
  (lines_dropOldest _ channel count).mem_iff.2 (List.mem_append_right _ mem)

theorem mem_ids_of_dropOldest {channel id : Int} {count : Nat}
    (mem : id ∈ (log.dropOldest channel count).ids) : id ∈ log.ids := by
  obtain ⟨line, kept, rfl⟩ := mem_ids.1 mem
  exact mem_ids.2 ⟨line, mem_lines_of_dropOldest kept, rfl⟩

/-- Each line is reached through an id of its own, and the ids of narration to come are free. -/
structure Consistent (log : MessageLog) : Prop extends Sound log where
  reached : ∀ line ∈ log.lines, line.addressable = true
  above : ∀ id ∈ log.ids, log.nextNarrationId < id
  negative : log.nextNarrationId < 0

/-! ## Adding a fresh line -/

/-- The log with a message at the end of its channel, of which only the newest lines
within the limit are kept. -/
def add (limit : Int) (message : Message) (log : MessageLog) : MessageLog :=
  (log.append message).dropOldest message.channelId
    (excess limit ((log.append message).linesOf message.channelId).length)

/-- When no two lines have the same id, eviction withdraws only ids whose line is gone. -/
theorem evict_of_distinct (distinct : log.ids.Nodup) (limit channel : Int) :
    log.evict limit channel =
      log.dropOldest channel (excess limit (log.linesOf channel).length) := by
  rw [evict_eq, mapLines_eq_self]
  intro line mem
  have apart := List.disjoint_of_nodup_append
    ((ids_dropOldest channel (excess limit (log.linesOf channel).length)).nodup distinct)
  exact if_neg fun dropped => apart dropped (List.mem_map_of_mem mem)

theorem consistent_empty : Consistent {} where
  toSound := sound_empty
  reached _ mem := absurd mem List.not_mem_nil
  above _ mem := absurd mem List.not_mem_nil
  negative := by decide

/-- The log after the id of the next narration has been handed out. -/
def counted (log : MessageLog) : MessageLog :=
  { log with nextNarrationId := log.nextNarrationId - 1 }

namespace Consistent

theorem addressedIds_eq (hl : log.Consistent) : log.addressedIds = log.ids := by
  rw [addressedIds, List.filter_eq_self.2 hl.reached]
  rfl

theorem distinct (hl : log.Consistent) : log.ids.Nodup := hl.addressedIds_eq ▸ hl.single

theorem find?_eq_none_iff (hl : log.Consistent) {id : Int} :
    log.find? id = none ↔ id ∉ log.ids := by
  rw [MessageLog.find?_eq_none_iff, hl.addressedIds_eq]

theorem answers_eq (hl : log.Consistent) {line : Line} (mem : line ∈ log.lines) (id : Int) :
    line.answers id = decide (line.message.msgId = id) := by
  simp [Line.answers, hl.reached line mem]

theorem dropOldest (hl : log.Consistent) (channel : Int) (count : Nat) :
    (log.dropOldest channel count).Consistent where
  homed other line mem := by
    rw [linesOf_dropOldest] at mem
    split at mem
    · exact hl.homed other line (List.mem_of_mem_drop mem)
    · exact hl.homed other line mem
  single := addressedIds_dropOldest channel count hl.single
  reached line mem := hl.reached line (mem_lines_of_dropOldest mem)
  above id mem := hl.above id (mem_ids_of_dropOldest mem)
  negative := hl.negative

theorem append (hl : log.Consistent) {message : Message} (fresh : message.msgId ∉ log.ids)
    (above : log.nextNarrationId < message.msgId) : (log.append message).Consistent where
  toSound := hl.toSound.append (by rwa [hl.addressedIds_eq])
  reached line mem := by
    rcases mem_lines_append.1 mem with before | rfl
    · exact hl.reached line before
    · rfl
  above id mem := by
    rcases mem_ids_append.1 mem with before | rfl
    · exact hl.above id before
    · exact above
  negative := hl.negative

theorem add (hl : log.Consistent) (limit : Int) {message : Message}
    (fresh : message.msgId ∉ log.ids) (above : log.nextNarrationId < message.msgId) :
    (log.add limit message).Consistent :=
  (hl.append fresh above).dropOldest _ _

/-- A message with a new id is added. -/
theorem deliver_fresh (hl : log.Consistent) (limit : Int) {message : Message}
    (natural : 0 ≤ message.msgId) (fresh : log.find? message.msgId = none) :
    log.deliver limit message = (log.add limit message, true) := by
  have appended := hl.append (hl.find?_eq_none_iff.1 fresh) (Int.lt_of_lt_of_le hl.negative natural)
  simp only [deliver, fresh]
  rw [evict_of_distinct appended.distinct]
  rfl

theorem counted (hl : log.Consistent) : log.counted.Consistent where
  toSound := ⟨hl.homed, hl.single⟩
  reached := hl.reached
  above id mem := Int.lt_trans (Int.sub_lt_self _ Int.one_pos) (hl.above id mem)
  negative := Int.lt_trans (Int.sub_lt_self _ Int.one_pos) hl.negative

theorem counted_fresh (hl : log.Consistent) : log.nextNarrationId ∉ log.counted.ids :=
  fun mem => Int.lt_irrefl _ (hl.above _ mem)

/-- Narration is added under the next free id. -/
theorem narrate_fresh (hl : log.Consistent) (limit channel : Int) (text : Text) (ts : Int) :
    log.narrate limit channel text ts =
      log.counted.add limit (log.narration channel text ts) := by
  have untouched : log.counted.withdraw log.nextNarrationId = log.counted := by
    rw [withdraw_eq]
    refine mapLines_eq_self fun line mem => if_neg fun taken => ?_
    rw [List.mem_singleton] at taken
    exact hl.counted_fresh (mem_ids.2 ⟨line, mem, taken⟩)
  have appended : (log.counted.append (log.narration channel text ts)).Consistent :=
    hl.counted.append hl.counted_fresh (Int.sub_lt_self _ Int.one_pos)
  calc log.narrate limit channel text ts
      = ((log.counted.withdraw log.nextNarrationId).append
          (log.narration channel text ts)).evict limit channel := rfl
    _ = (log.counted.append (log.narration channel text ts)).evict limit channel := by
      rw [untouched]
    _ = log.counted.add limit (log.narration channel text ts) :=
      evict_of_distinct appended.distinct limit channel

theorem narrate (hl : log.Consistent) (limit channel : Int) (text : Text) (ts : Int) :
    (log.narrate limit channel text ts).Consistent := by
  rw [hl.narrate_fresh]
  exact hl.counted.add limit hl.counted_fresh (Int.sub_lt_self _ Int.one_pos)

/-! ## Changing and redelivering a message -/

theorem modify (hl : log.Consistent) {id : Int} {f : Message → Message}
    (keeps : ∀ m, log.find? id = some m → (f m).msgId = m.msgId ∧ (f m).channelId = m.channelId) :
    (log.modify id f).Consistent := by
  have lines : ∀ line ∈ (log.modify id f).lines, ∃ before ∈ log.lines,
      line.addressable = before.addressable ∧ line.message.msgId = before.message.msgId := by
    intro line mem
    rw [MessageLog.modify, lines_mapLines] at mem
    obtain ⟨before, source, rfl⟩ := List.mem_map.1 mem
    refine ⟨before, source, ?_⟩
    split
    · next answers => exact ⟨rfl, (keeps _ (find?_of_mem hl.single source answers)).1⟩
    · exact ⟨rfl, rfl⟩
  refine ⟨hl.toSound.modify keeps, fun line mem => ?_, fun id mem => ?_, hl.negative⟩
  · obtain ⟨before, source, open_, -⟩ := lines line mem
    exact open_.trans (hl.reached before source)
  · obtain ⟨line, kept, rfl⟩ := mem_ids.1 mem
    obtain ⟨before, source, -, same⟩ := lines line kept
    rw [same]
    exact hl.above _ (mem_ids.2 ⟨before, source, rfl⟩)

theorem remove (hl : log.Consistent) (id : Int) : (log.remove id).Consistent where
  toSound := hl.toSound.remove id
  reached line mem := by
    rw [lines_remove] at mem
    exact hl.reached line (List.mem_filter.1 mem).1
  above other mem := hl.above other (mem_ids_of_remove mem)
  negative := hl.negative

theorem notMem_ids_remove (hl : log.Consistent) (id : Int) : id ∉ (log.remove id).ids := by
  rw [← (hl.remove id).addressedIds_eq, addressedIds_remove]
  simp

theorem deliver (hl : log.Consistent) (limit : Int) {message : Message}
    (natural : 0 ≤ message.msgId) : (log.deliver limit message).1.Consistent := by
  have above : log.nextNarrationId < message.msgId := Int.lt_of_lt_of_le hl.negative natural
  cases found : log.find? message.msgId with
  | none =>
    rw [hl.deliver_fresh limit natural found]
    exact hl.add limit (hl.find?_eq_none_iff.1 found) above
  | some known =>
    simp only [MessageLog.deliver, found]
    by_cases stays : known.channelId = message.channelId
    · simp only [stays, if_true]
      refine hl.modify fun m hm => ?_
      obtain rfl := Option.some.inj (found.symm.trans hm)
      exact ⟨(msgId_of_find? found).symm, stays.symm⟩
    · simp only [stays, if_false]
      exact (hl.remove _).append (hl.notMem_ids_remove _) above

end Consistent

/-! ## Without a limit -/

section

variable {limit : Int}

theorem evict_of_unlimited (unlimited : limit ≤ 0) (channel : Int) :
    log.evict limit channel = log := by
  simp [evict, excess, unlimited, Table.modify_eq_self]

/-- Without a limit a delivery makes its id one that is answered to, and no other. -/
theorem mem_addressedIds_deliver (unlimited : limit ≤ 0) {message : Message} {id : Int} :
    id ∈ (log.deliver limit message).1.addressedIds ↔
      id ∈ log.addressedIds ∨ id = message.msgId := by
  cases found : log.find? message.msgId with
  | none =>
    simp only [deliver, found, evict_of_unlimited unlimited]
    exact mem_addressedIds_append
  | some known =>
    have present : message.msgId ∈ log.addressedIds := by
      by_contra absent
      rw [find?_eq_none_iff.2 absent] at found
      cases found
    by_cases stays : known.channelId = message.channelId
    · simp only [deliver, found, stays, if_true]
      rw [addressedIds_modify fun _ _ => rfl]
      exact ⟨.inl, fun mem => mem.elim (fun old => old) fun same => same ▸ present⟩
    · simp only [deliver, found, stays, if_false]
      rw [mem_addressedIds_append, addressedIds_remove]
      by_cases same : id = message.msgId <;> simp [same]

theorem narrate_of_unlimited (unlimited : limit ≤ 0) (channel : Int) (text : Text) (ts : Int) :
    log.narrate limit channel text ts =
      (log.counted.withdraw log.nextNarrationId).append (log.narration channel text ts) :=
  evict_of_unlimited unlimited channel

/-- Without a limit narration makes its number one that is answered to, and no other. -/
theorem mem_addressedIds_narrate (unlimited : limit ≤ 0) {channel : Int} {text : Text}
    {ts id : Int} :
    id ∈ (log.narrate limit channel text ts).addressedIds ↔
      id ∈ log.addressedIds ∨ id = log.nextNarrationId := by
  have counted : log.counted.addressedIds = log.addressedIds := rfl
  have number : (log.narration channel text ts).msgId = log.nextNarrationId := rfl
  rw [narrate_of_unlimited unlimited, mem_addressedIds_append, withdraw_eq, addressedIds_retire,
    counted, number]
  by_cases same : id = log.nextNarrationId <;> simp [same]

end

/-! ## What is shown of a channel -/

theorem map_ite_of_forall {messages : List Message} {id : Int} {f : Message → Message}
    (h : ∀ m ∈ messages, m.msgId ≠ id) :
    (messages.map fun m => if m.msgId = id then f m else m) = messages :=
  (List.map_congr_left fun m mem => if_neg (h m mem)).trans (List.map_id _)

theorem filter_of_forall {messages : List Message} {id : Int}
    (h : ∀ m ∈ messages, m.msgId ≠ id) : messages.filter (·.msgId ≠ id) = messages :=
  List.filter_eq_self.2 fun m mem => decide_eq_true (h m mem)

theorem mem_messagesOf {channel : Int} {m : Message} :
    m ∈ log.messagesOf channel ↔ ∃ line ∈ log.linesOf channel, line.message = m :=
  List.mem_map

theorem messagesOf_append (message : Message) (channel : Int) :
    (log.append message).messagesOf channel =
      if channel = message.channelId then log.messagesOf channel ++ [message]
      else log.messagesOf channel := by
  simp only [messagesOf, linesOf_append]
  split <;> simp

theorem Sound.channelId_eq (hl : log.Sound) {channel : Int} {m : Message}
    (shown : m ∈ log.messagesOf channel) : m.channelId = channel := by
  obtain ⟨line, home, rfl⟩ := mem_messagesOf.1 shown
  exact hl.homed channel line home

namespace Consistent

/-- The id of a message finds what is shown, and nothing else. -/
theorem find?_eq_some_iff (hl : log.Consistent) {id : Int} {m : Message} :
    log.find? id = some m ↔ m.msgId = id ∧ ∃ channel, m ∈ log.messagesOf channel := by
  constructor
  · intro found
    obtain ⟨line, mem, -, rfl⟩ := exists_line_of_find? found
    obtain ⟨channel, home⟩ := mem_lines.1 mem
    exact ⟨msgId_of_find? found, channel, mem_messagesOf.2 ⟨line, home, rfl⟩⟩
  · rintro ⟨rfl, channel, shown⟩
    obtain ⟨line, home, rfl⟩ := mem_messagesOf.1 shown
    have mem := mem_lines.2 ⟨channel, home⟩
    exact find?_of_mem hl.single mem (by simp [hl.answers_eq mem])

/-- A change reaches the message that is shown. -/
theorem messagesOf_modify (hl : log.Consistent) (id : Int) (f : Message → Message)
    (channel : Int) :
    (log.modify id f).messagesOf channel =
      (log.messagesOf channel).map fun m => if m.msgId = id then f m else m := by
  simp only [messagesOf, MessageLog.modify, linesOf_mapLines, List.map_map]
  refine List.map_congr_left fun line mem => ?_
  have answers := hl.answers_eq (mem_lines.2 ⟨channel, mem⟩) id
  by_cases here : line.message.msgId = id <;> simp [here, answers]

theorem messagesOf_remove (hl : log.Consistent) (id channel : Int) :
    (log.remove id).messagesOf channel =
      (log.messagesOf channel).filter (·.msgId ≠ id) := by
  simp only [messagesOf, linesOf_remove, List.filter_map]
  congr 1
  refine List.filter_congr fun line mem => ?_
  have answers := hl.answers_eq (mem_lines.2 ⟨channel, mem⟩) id
  simp [answers]

theorem distinct_messagesOf (hl : log.Consistent) (channel : Int) :
    ((log.messagesOf channel).map Message.msgId).Nodup := by
  have all := (lines_perm log channel).map fun line => line.message.msgId
  rw [List.map_append] at all
  simpa [messagesOf, Function.comp_def] using (all.nodup hl.distinct).of_append_left

/-- A known message is shown in its own channel, once. -/
theorem shown_once (hl : log.Consistent) {id : Int} {known : Message}
    (found : log.find? id = some known) :
    ∃ before after, log.messagesOf known.channelId = before ++ known :: after ∧
      ∀ m ∈ before ++ after, m.msgId ≠ id := by
  obtain ⟨rfl, channel, shown⟩ := hl.find?_eq_some_iff.1 found
  obtain rfl := hl.channelId_eq shown
  obtain ⟨before, after, split⟩ := List.append_of_mem shown
  have distinct := hl.distinct_messagesOf known.channelId
  rw [split, List.map_append, List.map_cons, List.nodup_middle, List.nodup_cons,
    ← List.map_append] at distinct
  exact ⟨before, after, split, fun m mem same => distinct.1 (List.mem_map.2 ⟨m, mem, same⟩)⟩

theorem not_shown_elsewhere (hl : log.Consistent) {id channel : Int} {known : Message}
    (found : log.find? id = some known) (elsewhere : channel ≠ known.channelId) :
    ∀ m ∈ log.messagesOf channel, m.msgId ≠ id := by
  rintro m shown rfl
  have same := hl.find?_eq_some_iff.2 ⟨rfl, channel, shown⟩
  obtain rfl := Option.some.inj (found.symm.trans same)
  exact elsewhere (hl.channelId_eq shown).symm

/-- A redelivery finds the known message where it is shown. It takes its place, or it
is moved to the end of its new channel. -/
theorem messagesOf_redeliver (hl : log.Consistent) (limit : Int) {message known : Message}
    (found : log.find? message.msgId = some known) :
    ∃ before after, log.messagesOf known.channelId = before ++ known :: after ∧
      ∀ channel, (log.deliver limit message).1.messagesOf channel =
        if known.channelId = message.channelId then
          if channel = known.channelId then before ++ message :: after
          else log.messagesOf channel
        else if channel = known.channelId then before ++ after
        else if channel = message.channelId then log.messagesOf channel ++ [message]
        else log.messagesOf channel := by
  obtain ⟨before, after, split, others⟩ := hl.shown_once found
  refine ⟨before, after, split, fun channel => ?_⟩
  rw [List.forall_mem_append] at others
  have elsewhere : channel ≠ known.channelId →
      ∀ m ∈ log.messagesOf channel, m.msgId ≠ message.msgId := hl.not_shown_elsewhere found
  by_cases stays : known.channelId = message.channelId
  · simp only [MessageLog.deliver, found, stays, if_true]
    rw [hl.messagesOf_modify]
    split
    · next here =>
      rw [here, ← stays, split, List.map_append, List.map_cons, map_ite_of_forall others.1,
        map_ite_of_forall others.2, if_pos (msgId_of_find? found)]
    · next other => exact map_ite_of_forall (elsewhere (stays ▸ other))
  · simp only [MessageLog.deliver, found, stays, if_false]
    rw [messagesOf_append, hl.messagesOf_remove]
    split
    · next moved =>
      have other : channel ≠ known.channelId := fun same => stays (same ▸ moved)
      rw [if_neg other, filter_of_forall (elsewhere other)]
    · split
      · next here =>
        rw [here, split, List.filter_append,
          List.filter_cons_of_neg (by simp [msgId_of_find? found]),
          filter_of_forall others.1, filter_of_forall others.2]
      · next other => exact filter_of_forall (elsewhere other)

end Consistent

end MessageLog

namespace Store

variable (settings : Settings) {s : Store} {change : Change}

/-- The id of the message that a change delivers. -/
def Change.deliveredId? : Change → Option Int
  | .deliver message => some message.msgId
  | _ => none

/-- The ids of the messages that are delivered, in order. -/
def deliveredIds (changes : List Change) : List Int := changes.filterMap Change.deliveredId?

theorem consistent_step (hs : s.log.Consistent) (natural : ∀ id ∈ change.deliveredId?, 0 ≤ id) :
    (step settings s change).log.Consistent := by
  refine log_step settings s change (fun _ => MessageLog.consistent_empty)
    (fun message delivers => hs.deliver _ (natural _ (by rw [delivers]; rfl)))
    (fun channel text ts _ => hs.narrate _ channel text ts) (fun id f amends => ?_) hs
  exact hs.modify fun m _ => amendment?_keeps amends m

theorem consistent_run {changes : List Change} (natural : ∀ id ∈ deliveredIds changes, 0 ≤ id) :
    (run settings changes {}).log.Consistent :=
  List.foldlRecOn (motive := fun s => s.log.Consistent) changes (step settings)
    MessageLog.consistent_empty fun _ hs change mem => consistent_step settings hs
      fun id delivered => natural id (List.mem_filterMap.2 ⟨change, mem, delivered⟩)

end Store

end VoiceChat
