import VoiceChat.Store.Run
import Mathlib.Data.List.Nodup

/-!
# Histories

What the operations of the message log do to the history of one channel
(`linesOf_append` and its companions), to the lines of all channels together
(`lines_append`), and to the ids that reach a line (`addressedIds_append`). In
every run of a store the log is `Sound`: a line stands in the channel of its
message, and no id reaches two lines.
-/

namespace VoiceChat

theorem Line.answers_iff {line : Line} {id : Int} :
    line.answers id = true ↔ line.addressable = true ∧ line.message.msgId = id := by
  simp [Line.answers]

namespace MessageLog

variable {log : MessageLog}

/-! ## The lines of one channel and of all -/

theorem mem_lines {line : Line} : line ∈ log.lines ↔ ∃ channel, line ∈ log.linesOf channel := by
  simp only [lines, List.mem_flatten, Table.mem_values, linesOf]
  constructor
  · rintro ⟨history, ⟨channel, found⟩, mem⟩
    exact ⟨channel, by rwa [found]⟩
  · rintro ⟨channel, mem⟩
    cases found : log.histories.get? channel with
    | none => simp [found] at mem
    | some history => exact ⟨history, ⟨channel, found⟩, by simpa [found] using mem⟩

/-- The lines of all channels but one. -/
def linesBeside (channel : Int) (log : MessageLog) : List Line :=
  (log.histories.erase channel).values.flatten

theorem lines_perm (log : MessageLog) (channel : Int) :
    log.lines.Perm (log.linesOf channel ++ log.linesBeside channel) := by
  cases found : log.histories.get? channel with
  | none =>
    rw [linesBeside, Table.erase_of_notMem (Table.get?_eq_none_iff.1 found)]
    simp [linesOf, found, lines]
  | some history =>
    have split := (Table.values_perm_erase found).flatten
    simpa [linesOf, found, lines, linesBeside] using split

/-! ## Changing lines in their places -/

@[simp] theorem linesOf_mapLines (f : Line → Line) (channel : Int) :
    (log.mapLines f).linesOf channel = (log.linesOf channel).map f := by
  simp only [linesOf, mapLines, Table.get?_mapValues]
  cases log.histories.get? channel <;> rfl

@[simp] theorem lines_mapLines (f : Line → Line) : (log.mapLines f).lines = log.lines.map f := by
  simp [lines, mapLines, Table.values, Table.mapValues, List.map_flatten, Function.comp_def]

theorem mapLines_mapLines (f g : Line → Line) :
    (log.mapLines f).mapLines g = log.mapLines fun line => g (f line) := by
  simp only [mapLines, Table.mapValues, List.map_map, Function.comp_def]

theorem mapLines_eq_self {f : Line → Line} (h : ∀ line ∈ log.lines, f line = line) :
    log.mapLines f = log := by
  have same : ∀ e ∈ log.histories.entries, (e.1, e.2.map f) = e := by
    intro e he
    have mine : ∀ line ∈ e.2, f line = line := fun line mem =>
      h line (List.mem_flatten.2 ⟨e.2, List.mem_map_of_mem he, mem⟩)
    exact congrArg (Prod.mk e.1) ((List.map_congr_left mine).trans (List.map_id _))
  have entries : log.histories.mapValues (fun _ lines => lines.map f) = log.histories :=
    Table.ext ((List.map_congr_left same).trans (List.map_id _))
  rw [mapLines, entries]

/-- A line that does not answer to the ids any more. -/
def retire (ids : List Int) (line : Line) : Line :=
  if line.message.msgId ∈ ids then { line with addressable := false } else line

@[simp] theorem retire_message (ids : List Int) (line : Line) :
    (retire ids line).message = line.message := by
  unfold retire
  split <;> rfl

theorem withdraw_eq (id : Int) (log : MessageLog) :
    log.withdraw id = log.mapLines (retire [id]) := by
  rw [withdraw]
  congr 1
  funext line
  simp [retire]

theorem foldl_withdraw (dropped : List Line) (log : MessageLog) :
    dropped.foldl (fun log line => log.withdraw line.message.msgId) log =
      log.mapLines (retire (dropped.map fun line => line.message.msgId)) := by
  induction dropped generalizing log with
  | nil => exact (mapLines_eq_self fun _ _ => rfl).symm
  | cons first dropped ih =>
    rw [List.foldl_cons, ih, withdraw_eq, mapLines_mapLines]
    congr 1
    funext line
    by_cases here : line.message.msgId = first.message.msgId <;> simp [retire, here]

/-! ## Taking lines out and adding lines -/

@[simp] theorem linesOf_remove (id channel : Int) :
    (log.remove id).linesOf channel = (log.linesOf channel).filter (!·.answers id) := by
  simp only [linesOf, remove, Table.get?_mapValues]
  cases log.histories.get? channel <;> rfl

@[simp] theorem lines_remove (id : Int) :
    (log.remove id).lines = log.lines.filter (!·.answers id) := by
  simp [lines, remove, Table.values, Table.mapValues, List.filter_flatten, Function.comp_def]

theorem linesOf_append (message : Message) (channel : Int) :
    (log.append message).linesOf channel =
      if channel = message.channelId then log.linesOf channel ++ [{ message := message }]
      else log.linesOf channel := by
  simp only [linesOf, append, Table.get?_insert]
  by_cases here : channel = message.channelId <;> simp [here]

theorem lines_append (log : MessageLog) (message : Message) :
    (log.append message).lines.Perm (log.lines ++ [{ message := message }]) := by
  have beside : (log.append message).linesBeside message.channelId =
      log.linesBeside message.channelId := by
    simp only [linesBeside, append, Table.erase_insert_self]
  refine (lines_perm _ message.channelId).trans ?_
  rw [beside, linesOf_append, if_pos rfl, List.append_assoc]
  have all := lines_perm log message.channelId
  refine (List.Perm.append_left _ List.perm_append_comm).trans ?_
  rw [← List.append_assoc]
  exact all.symm.append_right _

theorem mem_lines_append {message : Message} {line : Line} :
    line ∈ (log.append message).lines ↔ line ∈ log.lines ∨ line = { message := message } := by
  rw [(lines_append _ message).mem_iff, List.mem_append, List.mem_singleton]

/-- The log without the oldest `count` lines of a channel. -/
def dropOldest (channel : Int) (count : Nat) (log : MessageLog) : MessageLog :=
  { log with histories := log.histories.modify channel (·.drop count) }

theorem linesOf_dropOldest (channel : Int) (count : Nat) (other : Int) :
    (log.dropOldest channel count).linesOf other =
      if other = channel then (log.linesOf other).drop count else log.linesOf other := by
  simp only [linesOf, dropOldest, Table.get?_modify]
  by_cases here : other = channel
  · cases log.histories.get? other <;> simp [here]
  · simp [here]

theorem lines_dropOldest (log : MessageLog) (channel : Int) (count : Nat) :
    log.lines.Perm ((log.linesOf channel).take count ++ (log.dropOldest channel count).lines) := by
  have beside : (log.dropOldest channel count).linesBeside channel = log.linesBeside channel := by
    simp only [linesBeside, dropOldest, Table.erase_modify_self]
  have rest := lines_perm (log.dropOldest channel count) channel
  rw [beside, linesOf_dropOldest, if_pos rfl] at rest
  refine (lines_perm _ channel).trans ?_
  refine List.Perm.trans ?_ (rest.symm.append_left _)
  rw [← List.append_assoc, List.take_append_drop]

/-! ## Eviction -/

theorem excess_le (limit : Int) (length : Nat) : excess limit length ≤ length := by
  unfold excess
  split <;> omega

/-- Eviction drops lines and withdraws their ids. -/
theorem evict_eq (limit channel : Int) (log : MessageLog) :
    let count := excess limit (log.linesOf channel).length
    log.evict limit channel = (log.dropOldest channel count).mapLines
      (retire (((log.linesOf channel).take count).map fun line => line.message.msgId)) := by
  intro count
  have length : ((log.linesOf channel).take count).length = count := by
    rw [List.length_take]
    exact Nat.min_eq_left (excess_le limit _)
  simp only [evict]
  rw [foldl_withdraw, length]
  rfl

/-! ## The ids that reach a line -/

/-- The ids of the addressable lines. -/
def addressedIds (log : MessageLog) : List Int :=
  (log.lines.filter Line.addressable).map fun line => line.message.msgId

theorem mem_addressedIds {id : Int} :
    id ∈ log.addressedIds ↔ ∃ line ∈ log.lines, line.answers id = true := by
  simp only [addressedIds, List.mem_map, List.mem_filter, Line.answers_iff]
  constructor
  · rintro ⟨line, ⟨mem, open_⟩, same⟩
    exact ⟨line, mem, open_, same⟩
  · rintro ⟨line, mem, open_, same⟩
    exact ⟨line, ⟨mem, open_⟩, same⟩

theorem find?_eq_none_iff {id : Int} : log.find? id = none ↔ id ∉ log.addressedIds := by
  simp only [find?, Option.map_eq_none_iff, List.find?_eq_none, mem_addressedIds, not_exists,
    not_and]

theorem exists_line_of_find? {id : Int} {message : Message} (h : log.find? id = some message) :
    ∃ line ∈ log.lines, line.answers id = true ∧ line.message = message := by
  obtain ⟨line, found, rfl⟩ := Option.map_eq_some_iff.1 h
  exact ⟨line, List.mem_of_find?_eq_some found, by simpa using List.find?_some found, rfl⟩

theorem msgId_of_find? {id : Int} {message : Message} (h : log.find? id = some message) :
    message.msgId = id := by
  obtain ⟨line, -, answers, rfl⟩ := exists_line_of_find? h
  exact (Line.answers_iff.1 answers).2

/-- Where no id reaches two lines, the one that answers is the one that is found. -/
theorem find?_of_mem {id : Int} {line : Line} (single : log.addressedIds.Nodup)
    (mem : line ∈ log.lines) (answers : line.answers id = true) :
    log.find? id = some line.message := by
  cases found : log.find? id with
  | none => exact absurd (mem_addressedIds.2 ⟨line, mem, answers⟩) (find?_eq_none_iff.1 found)
  | some message =>
    obtain ⟨other, mem', answers', rfl⟩ := exists_line_of_find? found
    rw [Line.answers_iff] at answers answers'
    have same : line = other := List.inj_on_of_nodup_map single
      (List.mem_filter.2 ⟨mem, answers.1⟩) (List.mem_filter.2 ⟨mem', answers'.1⟩)
      (answers.2.trans answers'.2.symm)
    rw [same]

/-- An id that reaches no line can be withdrawn. -/
theorem withdraw_of_unknown {id : Int} (unknown : log.find? id = none) : log.withdraw id = log := by
  rw [withdraw_eq]
  refine mapLines_eq_self fun line mem => ?_
  unfold retire
  split
  · next same =>
    have silent : line.addressable = false := by
      rw [Bool.eq_false_iff]
      intro open_
      exact find?_eq_none_iff.1 unknown (mem_addressedIds.2
        ⟨line, mem, Line.answers_iff.2 ⟨open_, List.mem_singleton.1 same⟩⟩)
    rw [← silent]
  · rfl

theorem addressedIds_mapLines {f : Line → Line}
    (h : ∀ line ∈ log.lines, (f line).addressable = line.addressable ∧
      (line.addressable = true → (f line).message.msgId = line.message.msgId)) :
    (log.mapLines f).addressedIds = log.addressedIds := by
  have kept : log.lines.filter (Line.addressable ∘ f) = log.lines.filter Line.addressable :=
    List.filter_congr fun line mem => (h line mem).1
  rw [addressedIds, lines_mapLines, List.filter_map, List.map_map, kept]
  refine List.map_congr_left fun line mem => ?_
  obtain ⟨mem, open_⟩ := List.mem_filter.1 mem
  exact (h line mem).2 open_

theorem addressedIds_retire (ids : List Int) :
    (log.mapLines (retire ids)).addressedIds = log.addressedIds.filter (· ∉ ids) := by
  rw [addressedIds, addressedIds, lines_mapLines, List.filter_map, List.map_map, List.filter_map,
    List.filter_filter]
  have kept : ∀ line ∈ log.lines, (Line.addressable ∘ retire ids) line =
      (((fun id => decide (id ∉ ids)) ∘ fun line => line.message.msgId) line &&
        line.addressable) := by
    intro line _
    by_cases here : line.message.msgId ∈ ids <;> simp [retire, here]
  rw [List.filter_congr kept]
  exact List.map_congr_left fun line _ => by simp

theorem addressedIds_remove (id : Int) :
    (log.remove id).addressedIds = log.addressedIds.filter (· ≠ id) := by
  rw [addressedIds, addressedIds, lines_remove, List.filter_filter, List.filter_map,
    List.filter_filter]
  have kept : ∀ line ∈ log.lines, (line.addressable && !line.answers id) =
      (((fun other => decide (other ≠ id)) ∘ fun line => line.message.msgId) line &&
        line.addressable) := by
    intro line _
    by_cases reached : line.addressable = true <;> simp [Line.answers, reached]
  rw [List.filter_congr kept]

theorem addressedIds_append (message : Message) :
    (log.append message).addressedIds.Perm (log.addressedIds ++ [message.msgId]) := by
  have all := ((lines_append log message).filter Line.addressable).map
    fun line => line.message.msgId
  simpa [addressedIds] using all

theorem addressedIds_dropOldest (channel : Int) (count : Nat) (single : log.addressedIds.Nodup) :
    (log.dropOldest channel count).addressedIds.Nodup := by
  have all := ((lines_dropOldest log channel count).filter Line.addressable).map
    fun line => line.message.msgId
  rw [List.filter_append, List.map_append] at all
  exact (all.nodup single).of_append_right

/-! ## Soundness -/

/-- A line stands in the channel of its message, and no id reaches two lines. -/
structure Sound (log : MessageLog) : Prop where
  homed : ∀ channel, ∀ line ∈ log.linesOf channel, line.message.channelId = channel
  single : log.addressedIds.Nodup

theorem sound_empty : Sound {} := ⟨fun _ _ mem => absurd mem List.not_mem_nil, List.nodup_nil⟩

namespace Sound

/-- Changes that keep the id and the channel of the message they reach. -/
theorem modify (hl : log.Sound) {id : Int} {f : Message → Message}
    (keeps : ∀ m, log.find? id = some m → (f m).msgId = m.msgId ∧ (f m).channelId = m.channelId) :
    (log.modify id f).Sound := by
  have reached : ∀ line ∈ log.lines, line.answers id = true →
      (f line.message).msgId = line.message.msgId ∧
        (f line.message).channelId = line.message.channelId :=
    fun line mem answers => keeps _ (find?_of_mem hl.single mem answers)
  constructor
  · intro channel line mem
    rw [MessageLog.modify, linesOf_mapLines] at mem
    obtain ⟨before, source, rfl⟩ := List.mem_map.1 mem
    have home := hl.homed channel before source
    split
    · next answers => exact (reached before (mem_lines.2 ⟨channel, source⟩) answers).2.trans home
    · exact home
  · rw [MessageLog.modify, addressedIds_mapLines]
    · exact hl.single
    · intro line mem
      split
      · next answers => exact ⟨rfl, fun _ => (reached line mem answers).1⟩
      · exact ⟨rfl, fun _ => rfl⟩

theorem retire (hl : log.Sound) (ids : List Int) : (log.mapLines (retire ids)).Sound := by
  constructor
  · intro channel line mem
    rw [linesOf_mapLines] at mem
    obtain ⟨before, source, rfl⟩ := List.mem_map.1 mem
    rw [retire_message]
    exact hl.homed channel before source
  · rw [addressedIds_retire]
    exact hl.single.filter _

theorem remove (hl : log.Sound) (id : Int) : (log.remove id).Sound := by
  constructor
  · intro channel line mem
    rw [linesOf_remove] at mem
    exact hl.homed channel line (List.mem_filter.1 mem).1
  · rw [addressedIds_remove]
    exact hl.single.filter _

theorem append (hl : log.Sound) {message : Message} (fresh : message.msgId ∉ log.addressedIds) :
    (log.append message).Sound := by
  constructor
  · intro channel line mem
    rw [linesOf_append] at mem
    split at mem
    · next here =>
      rcases List.mem_append.1 mem with before | new
      · exact hl.homed channel line before
      · rw [List.mem_singleton.1 new, here]
    · exact hl.homed channel line mem
  · rw [(addressedIds_append message).nodup_iff]
    exact List.Nodup.append hl.single (List.nodup_singleton _) (by simpa using fresh)

theorem evict (hl : log.Sound) (limit channel : Int) : (log.evict limit channel).Sound := by
  rw [evict_eq]
  refine Sound.retire ⟨fun other line mem => ?_, addressedIds_dropOldest _ _ hl.single⟩ _
  rw [linesOf_dropOldest] at mem
  split at mem
  · exact hl.homed other line (List.mem_of_mem_drop mem)
  · exact hl.homed other line mem

theorem deliver (hl : log.Sound) (limit : Int) (message : Message) :
    (log.deliver limit message).1.Sound := by
  unfold MessageLog.deliver
  cases found : log.find? message.msgId with
  | none => exact (hl.append (find?_eq_none_iff.1 found)).evict limit message.channelId
  | some known =>
    by_cases stays : known.channelId = message.channelId
    · simp only [stays, if_true]
      refine hl.modify fun m hm => ?_
      obtain rfl := Option.some.inj (found.symm.trans hm)
      exact ⟨(msgId_of_find? found).symm, stays.symm⟩
    · simp only [stays, if_false]
      refine (hl.remove message.msgId).append ?_
      rw [addressedIds_remove]
      simp

theorem narrate (hl : log.Sound) (limit channel : Int) (text : Text) (ts : Int) :
    (log.narrate limit channel text ts).Sound := by
  have counted : Sound { log with nextNarrationId := log.nextNarrationId - 1 } :=
    ⟨hl.homed, hl.single⟩
  refine Sound.evict (Sound.append ?_ ?_) limit channel
  · rw [withdraw_eq]
    exact counted.retire _
  · rw [withdraw_eq, addressedIds_retire]
    simp [narration]

end Sound

end MessageLog

namespace Store

/-! ## Changes to a store -/

/-- The message that a change is addressed to, and what becomes of it. -/
def Change.amendment? : Change → Option (Int × (Message → Message))
  | .edit msgId text ts => some (msgId, (·.edit text ts))
  | .delete msgId => some (msgId, Message.delete)
  | .react msgId emoji user => some (msgId, (·.react emoji user))
  | .unreact msgId emoji user => some (msgId, (·.unreact emoji user))
  | .pin msgId pinned => some (msgId, fun m => { m with pinned })
  | .attachPreview msgId preview => some (msgId, fun m => { m with linkPreview := some preview })
  | _ => none

variable (settings : Settings) {s : Store} {change : Change} {id : Int} {f : Message → Message}

theorem step_of_amendment? (h : change.amendment? = some (id, f)) :
    step settings s change = s.modifyMessage id f := by
  cases change <;> cases h <;> rfl

/-- What a change makes of a message keeps its id and its channel. -/
theorem amendment?_keeps (h : change.amendment? = some (id, f)) (m : Message) :
    (f m).msgId = m.msgId ∧ (f m).channelId = m.channelId := by
  cases change with
  | unreact =>
    cases h
    simp only [Message.unreact]
    split <;> exact ⟨rfl, rfl⟩
  | edit | delete | react | pin | attachPreview =>
    cases h
    exact ⟨rfl, rfl⟩
  | _ => cases h

/-- A change clears the log, delivers a message, narrates, changes a message, or leaves
the log alone. -/
theorem log_step {P : MessageLog → Prop} (s : Store) (change : Change)
    (reset : change = .reset → P {})
    (deliver : ∀ message, change = .deliver message →
      P (s.log.deliver settings.maxMessagesPerChannel message).1)
    (narrate : ∀ channel text ts, change = .narrate channel text ts →
      P (s.log.narrate settings.maxMessagesPerChannel channel text ts))
    (amend : ∀ id f, change.amendment? = some (id, f) → P (s.log.modify id f))
    (other : P s.log) : P (step settings s change).log := by
  cases change with
  | reset => exact reset rfl
  | deliver message => exact deliver message rfl
  | narrate channel text ts => exact narrate channel text ts rfl
  | edit | delete | react | unreact | pin | attachPreview => exact amend _ _ rfl
  | setVideo id active screenShare layers =>
    simp only [step, setVideo]
    split <;> exact other
  | setRecording channel recording startedBy =>
    simp only [step, setRecording]
    split <;> exact other
  | _ => exact other

theorem sound_step (hs : s.log.Sound) (change : Change) : (step settings s change).log.Sound := by
  refine log_step settings s change (fun _ => MessageLog.sound_empty)
    (fun message _ => hs.deliver _ message)
    (fun channel text ts _ => hs.narrate _ channel text ts) (fun id f amends => ?_) hs
  exact hs.modify fun m _ => amendment?_keeps amends m

theorem sound_run (changes : List Change) : (run settings changes {}).log.Sound :=
  List.foldlRecOn (motive := fun s => s.log.Sound) changes (step settings) MessageLog.sound_empty
    fun _ hs change _ => sound_step settings hs change

end Store

end VoiceChat
