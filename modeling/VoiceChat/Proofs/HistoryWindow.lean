import VoiceChat.Proofs.Addressing
import Mathlib.Data.List.DropRight

/-!
# A limited history is a window

A run with a limit shows the newest lines of what the same run without a limit
shows, as long as no message is delivered twice (`limited_run_eq_window`): a change
to an evicted message is lost without a trace, a change to a kept one is the same in
both runs, and a line that arrives pushes out the oldest one. Everything else in the
store does not depend on the limit.
-/

namespace VoiceChat

theorem rtake_rtake_concat {α : Type} (l : List α) (x : α) (n : Nat) :
    (l.rtake n ++ [x]).rtake n = (l ++ [x]).rtake n := by
  cases n with
  | zero => simp
  | succ n =>
    rw [List.rtake_concat_succ, List.rtake_concat_succ]
    simp only [List.rtake_eq_reverse_take_reverse, List.reverse_reverse, List.take_take]
    rw [Nat.min_eq_left (Nat.le_succ n)]

namespace MessageLog

variable {log : MessageLog} {limit : Nat}

/-- The log with the newest `limit` lines of each channel. -/
def window (limit : Nat) (log : MessageLog) : MessageLog :=
  { log with histories := log.histories.mapValues fun _ lines => lines.rtake limit }

theorem linesOf_window (channel : Int) :
    (log.window limit).linesOf channel = (log.linesOf channel).rtake limit := by
  simp only [linesOf, window, Table.get?_mapValues]
  cases log.histories.get? channel <;> simp

theorem messagesOf_window (channel : Int) :
    (log.window limit).messagesOf channel = (log.messagesOf channel).rtake limit := by
  simp only [messagesOf, linesOf_window, List.rtake, List.map_drop, List.length_map]

theorem lines_window_sublist : (log.window limit).lines.Sublist log.lines := by
  simp only [lines, window, Table.values, Table.mapValues, List.map_map]
  induction log.histories.entries with
  | nil => exact List.Sublist.refl []
  | cons e es ih => exact (List.drop_sublist _ e.2).append ih

theorem window_mapLines (f : Line → Line) :
    (log.window limit).mapLines f = (log.mapLines f).window limit := by
  simp only [window, mapLines, Table.mapValues, List.map_map, Function.comp_def, List.rtake,
    List.map_drop, List.length_map]

theorem window_modify (id : Int) (f : Message → Message) :
    (log.window limit).modify id f = (log.modify id f).window limit :=
  window_mapLines _

theorem add_of_unlimited {unlimited : Int} (hu : unlimited ≤ 0) (message : Message) :
    log.add unlimited message = log.append message := by
  rw [add, excess, if_pos hu]
  simp [dropOldest, Table.modify_eq_self]

/-- A line that arrives pushes the oldest line out of a full window. -/
theorem window_add (limited : 0 < limit) {unlimited : Int} (hu : unlimited ≤ 0)
    (message : Message) :
    (log.window limit).add limit message = (log.add unlimited message).window limit := by
  have pushed : (log.window limit).add limit message =
      { log.window limit with
        histories := (log.window limit).histories.insert message.channelId
          (List.rtake ((log.window limit).linesOf message.channelId ++ [{ message := message }])
            limit) } := by
    have some : ¬(limit : Int) ≤ 0 := by omega
    simp only [add, linesOf_append, if_true, excess, some, if_false, Int.toNat_natCast]
    simp only [dropOldest, append, Table.modify_insert_self]
    rfl
  rw [add_of_unlimited hu, pushed, linesOf_window, rtake_rtake_concat]
  simp only [window, append, Table.mapValues_insert]

/-! ## Where the ids of a log come from -/

theorem mem_ids_of_evict {limit channel id : Int} (mem : id ∈ (log.evict limit channel).ids) :
    id ∈ log.ids := by
  rw [evict_eq, ids_mapLines fun line => by rw [retire_message]] at mem
  exact mem_ids_of_dropOldest mem

theorem mem_ids_of_deliver {limit : Int} {message : Message} {id : Int}
    (mem : id ∈ (log.deliver limit message).1.ids) : id ∈ log.ids ∨ id = message.msgId := by
  unfold deliver at mem
  cases found : log.find? message.msgId with
  | none =>
    rw [found] at mem
    exact mem_ids_append.1 (mem_ids_of_evict mem)
  | some known =>
    simp only [found] at mem
    split at mem
    · obtain ⟨line, kept, rfl⟩ := mem_ids.1 mem
      rw [modify, lines_mapLines] at kept
      obtain ⟨before, source, rfl⟩ := List.mem_map.1 kept
      split
      · exact .inr rfl
      · exact .inl (mem_ids.2 ⟨before, source, rfl⟩)
    · exact (mem_ids_append.1 mem).imp_left mem_ids_of_remove

theorem mem_ids_of_narrate {limit channel : Int} {text : Text} {ts : Int} {id : Int}
    (mem : id ∈ (log.narrate limit channel text ts).ids) :
    id ∈ log.ids ∨ id = log.nextNarrationId := by
  have added := mem_ids_append.1 (mem_ids_of_evict mem)
  rw [withdraw_eq, ids_mapLines fun line => by rw [retire_message]] at added
  exact added

theorem Consistent.window (hl : log.Consistent) : (log.window limit).Consistent where
  homed channel line mem := by
    rw [linesOf_window] at mem
    exact hl.homed channel line (List.mem_of_mem_drop mem)
  single := hl.single.sublist ((lines_window_sublist.filter _).map _)
  reached line mem := hl.reached line (lines_window_sublist.subset mem)
  above id mem := hl.above id ((lines_window_sublist.map _).subset mem)
  negative := hl.negative

end MessageLog

/-- Settings with another limit. -/
def Settings.withLimit (limit : Int) (settings : Settings) : Settings :=
  { settings with maxMessagesPerChannel := limit }

@[simp] theorem Settings.maxMessagesPerChannel_withLimit (limit : Int) (settings : Settings) :
    (settings.withLimit limit).maxMessagesPerChannel = limit := rfl

namespace Store

variable (settings : Settings) {s : Store} {limit : Nat} {change : Change}

/-- The store with the newest `limit` lines of each channel. -/
def window (limit : Nat) (s : Store) : Store := { s with log := s.log.window limit }

theorem step_window (limited : 0 < limit) {unlimited : Int} (hu : unlimited ≤ 0)
    (hs : s.log.Consistent) (natural : ∀ id ∈ change.deliveredId?, 0 ≤ id)
    (new : ∀ id ∈ change.deliveredId?, id ∉ s.log.ids) :
    step (settings.withLimit limit) (s.window limit) change =
      (step (settings.withLimit unlimited) s change).window limit := by
  have hw : (s.log.window limit).Consistent := hs.window
  cases change with
  | deliver message =>
    have natural := natural _ rfl
    have unknown := new _ rfl
    -- the window has forgotten evicted ids, but a new id was not among them
    have gone : message.msgId ∉ (s.log.window limit).ids := fun mem =>
      unknown ((MessageLog.lines_window_sublist.map _).subset mem)
    simp only [step, deliver, window, Settings.maxMessagesPerChannel_withLimit]
    rw [hs.deliver_fresh unlimited natural (hs.find?_eq_none_iff.2 unknown),
      hw.deliver_fresh limit natural (hw.find?_eq_none_iff.2 gone),
      MessageLog.window_add limited hu]
  | narrate channel text ts =>
    simp only [step, narrate, window, Settings.maxMessagesPerChannel_withLimit]
    rw [hs.narrate_fresh, hw.narrate_fresh, ← MessageLog.window_add limited hu]
    rfl
  | edit | delete | react | unreact | pin | attachPreview =>
    simp only [step, modifyMessage, window, MessageLog.window_modify]
  | setVideo id active screenShare layers =>
    simp only [step, setVideo]
    split <;> rfl
  | setRecording channel recording startedBy =>
    simp only [step, setRecording]
    split <;> rfl
  | reset => rfl
  | _ => rfl

/-- Every line has been delivered or narrated. -/
theorem ids_step (hs : s.log.Consistent) :
    ∀ id ∈ (step settings s change).log.ids,
      id ∈ s.log.ids ∨ id ∈ change.deliveredId? ∨ id < 0 := by
  refine log_step (P := fun log =>
      ∀ id ∈ log.ids, id ∈ s.log.ids ∨ id ∈ change.deliveredId? ∨ id < 0)
    settings s change (fun _ id mem => absurd mem List.not_mem_nil)
    (fun message delivers id mem => ?_) (fun channel text ts _ id mem => ?_)
    (fun other f amends id mem => ?_) (fun id mem => Or.inl mem)
  · subst delivers
    rcases MessageLog.mem_ids_of_deliver mem with before | rfl
    · exact .inl before
    · exact .inr (.inl rfl)
  · rcases MessageLog.mem_ids_of_narrate mem with before | rfl
    · exact .inl before
    · exact .inr (.inr hs.negative)
  · rw [MessageLog.ids_modify fun m known => (amendment?_keeps amends m).1.trans known] at mem
    exact .inl mem

theorem deliveredIds_append (cs ds : List Change) :
    deliveredIds (cs ++ ds) = deliveredIds cs ++ deliveredIds ds :=
  List.filterMap_append

theorem mem_deliveredIds_singleton {id : Int} :
    id ∈ deliveredIds [change] ↔ id ∈ change.deliveredId? := by
  simp [deliveredIds, List.mem_filterMap]

/-- Every line has been delivered or narrated. -/
theorem ids_run {changes : List Change} (natural : ∀ id ∈ deliveredIds changes, 0 ≤ id) :
    ∀ id ∈ (run settings changes {}).log.ids, id ∈ deliveredIds changes ∨ id < 0 := by
  induction changes using List.reverseRecOn with
  | nil => exact fun id mem => absurd mem List.not_mem_nil
  | append_singleton changes change ih =>
    rw [deliveredIds_append, List.forall_mem_append] at natural
    intro id mem
    rw [run_append] at mem
    rw [deliveredIds_append, List.mem_append, mem_deliveredIds_singleton, or_assoc]
    rcases ids_step settings (consistent_run settings natural.1) id mem with old | new | negative
    · exact (ih natural.1 id old).imp_right .inr
    · exact .inr (.inl new)
    · exact .inr (.inr negative)

theorem run_window (limited : 0 < limit) {unlimited : Int} (hu : unlimited ≤ 0)
    {changes : List Change} (natural : ∀ id ∈ deliveredIds changes, 0 ≤ id)
    (once : (deliveredIds changes).Nodup) :
    run (settings.withLimit limit) changes {} =
      (run (settings.withLimit unlimited) changes {}).window limit := by
  induction changes using List.reverseRecOn with
  | nil => rfl
  | append_singleton changes change ih =>
    rw [deliveredIds_append, List.forall_mem_append] at natural
    rw [deliveredIds_append] at once
    obtain ⟨before, -, apart⟩ := List.nodup_append.1 once
    have now : ∀ id ∈ change.deliveredId?, 0 ≤ id := fun id delivered =>
      natural.2 id (mem_deliveredIds_singleton.2 delivered)
    -- an id in the log is negative or has been delivered before, and none is delivered twice
    have new : ∀ id ∈ change.deliveredId?,
        id ∉ (run (settings.withLimit unlimited) changes {}).log.ids := by
      intro id delivered old
      rcases ids_run _ natural.1 id old with earlier | negative
      · exact apart id earlier id (mem_deliveredIds_singleton.2 delivered) rfl
      · exact absurd (now id delivered) (Int.not_le.2 negative)
    rw [run_append, run_append, ih natural.1 before]
    exact step_window settings limited hu (consistent_run _ natural.1) now new

/-- A run with a limit shows the newest messages of each channel of the same run without
a limit, and all else in the store is the same, as long as no message is delivered
twice. -/
theorem limited_run_eq_window (settings : Settings) {limit : Nat} (limited : 0 < limit)
    {unlimited : Int} (hu : unlimited ≤ 0) (changes : List Change)
    (natural : ∀ id ∈ deliveredIds changes, 0 ≤ id) (once : (deliveredIds changes).Nodup) :
    let kept := run (settings.withLimit limit) changes {}
    let all := run (settings.withLimit unlimited) changes {}
    (∀ channel, kept.log.messagesOf channel = (all.log.messagesOf channel).rtake limit) ∧
    kept = { all with log := all.log.window limit } := by
  intro kept all
  have same : kept = all.window limit := run_window settings limited hu natural once
  refine ⟨fun channel => ?_, same⟩
  rw [same]
  exact MessageLog.messagesOf_window channel

/-- Of four lines in the lobby two are kept. The edit of the first is lost, that of the
third is not. -/
theorem limited_run_keeps_edit :
    let changes : List Change := [.deliver { msgId := 1 }, .narrate lobby "Ada joined" 0,
      .deliver { msgId := 2 }, .deliver { msgId := 3, channelId := 5 }, .edit 1 "lost" 1,
      .deliver { msgId := 4 }, .edit 2 "kept" 2, .countUnread 5]
    let kept := run (Settings.withLimit (2 : Nat) {}) changes {}
    let all := run (Settings.withLimit 0 {}) changes {}
    let allTexts : List Text := ["lost", "Ada joined", "kept", ""]
    let keptTexts : List Text := ["kept", ""]
    (∀ id ∈ deliveredIds changes, 0 ≤ id) ∧ (deliveredIds changes).Nodup ∧
    (all.log.messagesOf lobby).map Message.text = allTexts ∧
    (kept.log.messagesOf lobby).map Message.text = keptTexts ∧ kept.unread = all.unread := by
  intro changes kept all allTexts keptTexts
  have natural : ∀ id ∈ deliveredIds changes, 0 ≤ id := by decide
  have once : (deliveredIds changes).Nodup := by decide
  obtain ⟨messages, same⟩ :=
    limited_run_eq_window {} Nat.zero_lt_two (Int.le_refl 0) changes natural once
  have texts : (all.log.messagesOf lobby).map Message.text = allTexts := by decide +kernel
  have unread : kept.unread = all.unread := (congrArg Store.unread same).trans rfl
  refine ⟨natural, once, texts, ?_, unread⟩
  calc (kept.log.messagesOf lobby).map Message.text
      = ((all.log.messagesOf lobby).rtake 2).map Message.text := by rw [messages lobby]
    _ = ((all.log.messagesOf lobby).map Message.text).rtake 2 := by
      simp only [List.rtake, List.map_drop, List.length_map]
    _ = keptTexts := by rw [texts]; rfl

end Store

end VoiceChat
