import VoiceChat.Archive
import VoiceChat.Proofs.Addressing

/-!
# The archive keeps the message log

An archive shows a log of lines, and a line is addressable when the index leads to its slot
(`Archive.log`). What is shown is kept `Sound`: a slot stands once, in the channel of its
message, and the index leads only to slots that are shown. On that condition the message
known by an id is always found in the history of its channel, and every change to the archive
makes of its log what the change makes of the message log (`Sound.step`, `Sound.run`).
-/

namespace VoiceChat

namespace Archive

open Store (Change)

variable {a : Archive}

/-- What a history shows of a slot. Events reach it when the index leads there. -/
def lineAt (a : Archive) (slot : Nat) : Line where
  message := a.messageAt slot
  addressable := a.index.get? (a.messageAt slot).msgId = some slot

/-- The message log that an archive keeps. -/
def log (a : Archive) : MessageLog where
  histories := a.histories.mapValues fun _ slots => slots.map a.lineAt
  nextNarrationId := a.nextNarrationId

theorem linesOf_log (channel : Int) :
    a.log.linesOf channel = (a.slotsOf channel).map a.lineAt := by
  simp only [MessageLog.linesOf, log, slotsOf, Table.get?_mapValues]
  cases a.histories.get? channel <;> rfl

theorem messagesOf_log (channel : Int) : a.log.messagesOf channel = a.messagesOf channel := by
  simp [MessageLog.messagesOf, linesOf_log, messagesOf, lineAt, Function.comp_def]

theorem answers_lineAt {slot : Nat} {id : Int} :
    (a.lineAt slot).answers id = true ↔
      a.index.get? id = some slot ∧ (a.messageAt slot).msgId = id := by
  simp only [Line.answers, lineAt, decide_eq_true_eq]
  constructor
  · rintro ⟨leads, rfl⟩
    exact ⟨leads, rfl⟩
  · rintro ⟨leads, rfl⟩
    exact ⟨leads, rfl⟩

/-! ## Sound archives -/

/-- Whether what an id leads to has that id, and is shown. -/
def Shows (a : Archive) (id : Int) : Prop :=
  ∀ slot, a.index.get? id = some slot →
    (a.messageAt slot).msgId = id ∧ slot ∈ a.slotsOf (a.messageAt slot).channelId

/-- Every slot in a history holds a message of that channel, and stands there once. -/
structure Filed (a : Archive) : Prop where
  stored : ∀ channel, ∀ slot ∈ a.slotsOf channel, slot < a.records.length
  homed : ∀ channel, ∀ slot ∈ a.slotsOf channel, (a.messageAt slot).channelId = channel
  distinct : ∀ channel, (a.slotsOf channel).Nodup

/-- The histories are in order, and the index leads to what they show. -/
structure Sound (a : Archive) : Prop extends Filed a where
  shows : ∀ id, a.Shows id

theorem sound_empty : Sound {} where
  stored _ _ mem := absurd mem List.not_mem_nil
  homed _ _ mem := absurd mem List.not_mem_nil
  distinct _ := List.nodup_nil
  shows _ _ found := nomatch found

/-- A history shows a slot in one place. -/
theorem Filed.once (h : a.Filed) {channel : Int} {known : Nat} {before after : List Nat}
    (split : a.slotsOf channel = before ++ known :: after) :
    known ∉ before ∧ known ∉ after ∧ (before ++ after).Nodup := by
  have distinct := h.distinct channel
  rw [split, List.nodup_middle, List.nodup_cons, List.mem_append, not_or] at distinct
  exact ⟨distinct.1.1, distinct.1.2, distinct.2⟩

/-- The message known by an id is found in the history of its channel. -/
theorem Sound.exists_place (h : a.Sound) {id : Int} {known : Nat}
    (found : a.index.get? id = some known) :
    ∃ before after, a.slotsOf (a.messageAt known).channelId = before ++ known :: after ∧
      (a.slotsOf (a.messageAt known).channelId).findIdx? (· = known) = some before.length := by
  obtain ⟨-, shown⟩ := h.shows id known found
  obtain ⟨before, after, split⟩ := List.append_of_mem shown
  obtain ⟨early, -⟩ := h.once split
  refine ⟨before, after, split, ?_⟩
  have absent : before.findIdx? (· = known) = none := by
    rw [List.findIdx?_eq_none_iff]
    intro slot mem
    exact decide_eq_false fun same => early (same ▸ mem)
  rw [split, List.findIdx?_append, absent]
  simp [List.findIdx?_cons]

/-! ## Storing a message -/

theorem messageAt_store_of_lt {slot : Nat} (old : slot < a.records.length) (message : Message) :
    (a.store message).messageAt slot = a.messageAt slot := by
  simp [messageAt, store, List.getD_eq_getElem?_getD, List.getElem?_append_left old]

@[simp] theorem messageAt_store_new (message : Message) :
    (a.store message).messageAt a.records.length = message := by
  simp [messageAt, store, List.getD_eq_getElem?_getD]

/-- A stored message takes its id from what had it before. -/
theorem lineAt_store_of_lt {slot : Nat} (old : slot < a.records.length) (message : Message) :
    (a.store message).lineAt slot = MessageLog.retire [message.msgId] (a.lineAt slot) := by
  have apart : a.records.length ≠ slot := Nat.ne_of_gt old
  unfold lineAt MessageLog.retire
  rw [messageAt_store_of_lt old]
  by_cases same : (a.messageAt slot).msgId = message.msgId
  · simp [same, store, apart]
  · simp [same, store, Table.get?_insert_of_ne same]

theorem lineAt_store_new (message : Message) :
    (a.store message).lineAt a.records.length = { message := message } := by
  simp [lineAt, store, messageAt, List.getD_eq_getElem?_getD]

theorem Filed.log_store (h : a.Filed) (message : Message) :
    (a.store message).log = a.log.withdraw message.msgId := by
  rw [MessageLog.withdraw_eq]
  have histories : a.histories.mapValues (fun _ slots => slots.map (a.store message).lineAt) =
      (a.histories.mapValues fun _ slots => slots.map a.lineAt).mapValues fun _ lines =>
        lines.map (MessageLog.retire [message.msgId]) := by
    rw [Table.mapValues_mapValues]
    refine Table.mapValues_congr fun channel slots found => ?_
    rw [List.map_map]
    refine List.map_congr_left fun slot mem => lineAt_store_of_lt (h.stored channel slot ?_) message
    rwa [slotsOf, found]
  exact congrArg (fun histories => (⟨histories, a.nextNarrationId⟩ : MessageLog)) histories

/-- An archive is sound whose histories show what is stored in the channel of the message, and
beside it only what they showed before, for the other ids to lead to. -/
theorem Filed.sound_of_store (h : a.Filed) {message : Message} {histories : Table Int (List Nat)}
    (kept : Nat → Prop)
    (shown : ∀ {channel slot}, slot ∈ slotsOf { a.store message with histories } channel ↔
      slot ∈ a.slotsOf channel ∧ kept slot ∨
        slot = a.records.length ∧ channel = message.channelId)
    (distinct : ∀ channel, (slotsOf { a.store message with histories } channel).Nodup)
    (shows : ∀ id, id ≠ message.msgId → a.Shows id)
    (spared : ∀ id, id ≠ message.msgId → ∀ slot, a.index.get? id = some slot → kept slot) :
    Sound { a.store message with histories } where
  stored channel slot mem := by
    have length : (a.store message).records.length = a.records.length + 1 := List.length_append
    show slot < (a.store message).records.length
    rw [length]
    rcases shown.1 mem with ⟨old, -⟩ | ⟨rfl, -⟩
    · exact Nat.lt_succ_of_lt (h.stored channel slot old)
    · exact Nat.lt_succ_self _
  homed channel slot mem := by
    show ((a.store message).messageAt slot).channelId = channel
    rcases shown.1 mem with ⟨old, -⟩ | ⟨rfl, here⟩
    · rw [messageAt_store_of_lt (h.stored channel slot old)]
      exact h.homed channel slot old
    · rw [messageAt_store_new, here]
  distinct := distinct
  shows id slot leads := by
    show ((a.store message).messageAt slot).msgId = id ∧
      slot ∈ slotsOf { a.store message with histories } ((a.store message).messageAt slot).channelId
    have leads : (a.index.insert message.msgId a.records.length).get? id = some slot := leads
    rw [Table.get?_insert] at leads
    split at leads
    · next same =>
      obtain rfl := Option.some.inj leads
      rw [messageAt_store_new]
      exact ⟨same.symm, shown.2 (.inr ⟨rfl, rfl⟩)⟩
    · next other =>
      obtain ⟨known, old⟩ := shows id other slot leads
      rw [messageAt_store_of_lt (h.stored _ slot old)]
      exact ⟨known, shown.2 (.inl ⟨old, spared id other slot leads⟩)⟩

/-! ## Adding a message -/

theorem slotsOf_append (message : Message) (channel : Int) :
    (a.append message).slotsOf channel =
      if channel = message.channelId then a.slotsOf channel ++ [a.records.length]
      else a.slotsOf channel := by
  simp only [slotsOf, append, Table.get?_insert]
  by_cases here : channel = message.channelId <;> simp [here]

theorem Filed.log_append (h : a.Filed) (message : Message) :
    (a.append message).log = (a.log.withdraw message.msgId).append message := by
  have shown : (a.store message).log.linesOf message.channelId =
      (a.slotsOf message.channelId).map (a.store message).lineAt := linesOf_log _
  have histories : (a.append message).log.histories =
      (a.store message).log.histories.insert message.channelId
        ((a.store message).log.linesOf message.channelId ++ [{ message := message }]) := by
    rw [shown, ← lineAt_store_new message]
    exact (Table.mapValues_insert (List.map (a.store message).lineAt) _ _ _).trans
      (by rw [List.map_append]; rfl)
  calc (a.append message).log
      = (a.store message).log.append message :=
        congrArg (fun histories => (⟨histories, a.nextNarrationId⟩ : MessageLog)) histories
    _ = (a.log.withdraw message.msgId).append message := by rw [h.log_store]

theorem mem_slotsOf_append {message : Message} {channel : Int} {slot : Nat} :
    slot ∈ (a.append message).slotsOf channel ↔
      slot ∈ a.slotsOf channel ∨ slot = a.records.length ∧ channel = message.channelId := by
  rw [slotsOf_append]
  by_cases here : channel = message.channelId <;> simp [here]

/-- A message that is added is shown under its id, whatever the id led to before. -/
theorem Filed.append (h : a.Filed) {message : Message}
    (shows : ∀ id, id ≠ message.msgId → a.Shows id) : (a.append message).Sound := by
  refine h.sound_of_store (fun _ => True) (fun {_ _} => ?_) (fun channel => ?_) shows
    fun _ _ _ _ => trivial
  · rw [and_true]
    exact mem_slotsOf_append
  · show ((a.append message).slotsOf channel).Nodup
    rw [slotsOf_append]
    split
    · rw [← List.concat_eq_append]
      exact (h.distinct channel).concat fun mem => Nat.lt_irrefl _ (h.stored channel _ mem)
    · exact h.distinct channel

/-! ## Delivering a message again -/

section

variable {id : Int} {known : Nat} {before after : List Nat} {message : Message}

theorem slotsOf_takeOut (channel other : Int) (place : Nat) :
    (a.takeOut channel place).slotsOf other =
      if other = channel then (a.slotsOf other).eraseIdx place else a.slotsOf other := by
  simp only [slotsOf, takeOut, Table.get?_insert]
  by_cases here : other = channel <;> simp [here]

theorem slotsOf_overwrite (place : Nat) (channel : Int) :
    (a.overwrite place message).slotsOf channel =
      if channel = message.channelId then (a.slotsOf channel).set place a.records.length
      else a.slotsOf channel := by
  simp only [slotsOf, overwrite, Table.get?_insert]
  by_cases here : channel = message.channelId <;> simp [here]

/-- A history that shows something is in the table. -/
theorem mem_keys_of_slotsOf {channel : Int} {slot : Nat} (mem : slot ∈ a.slotsOf channel) :
    channel ∈ a.histories.keys := by
  rw [← Table.get?_isSome_iff]
  cases found : a.histories.get? channel with
  | some => rfl
  | none => simp [slotsOf, found] at mem

/-- Only the history of its own channel shows a slot. -/
theorem Filed.notMem_elsewhere (h : a.Filed) {channel : Int} {slot : Nat}
    (elsewhere : channel ≠ (a.messageAt slot).channelId) : slot ∉ a.slotsOf channel :=
  fun mem => elsewhere (h.homed channel slot mem).symm

/-- One history is replaced, and all are shown by `lines`: this makes of every history what `g`
makes of it, if it does so of that one and of the others. -/
theorem mapValues_insert_shown {channel : Int} {slots : List Nat} {lines : Nat → Line}
    {g : List Line → List Line} (mem : known ∈ a.slotsOf channel)
    (own : slots.map lines = g ((a.slotsOf channel).map a.lineAt))
    (others : ∀ other, other ≠ channel →
      (a.slotsOf other).map lines = g ((a.slotsOf other).map a.lineAt)) :
    (a.histories.insert channel slots).mapValues (fun _ slots => slots.map lines) =
      (a.histories.mapValues fun _ slots => slots.map a.lineAt).mapValues fun _ shown =>
        g shown := by
  rw [Table.insert_of_mem (mem_keys_of_slotsOf mem), Table.modify, Table.mapValues_mapValues,
    Table.mapValues_mapValues]
  refine Table.mapValues_congr fun other found here => ?_
  have shown : a.slotsOf other = found := by rw [slotsOf, here]; rfl
  by_cases same : other = channel
  · rw [if_pos same, own, ← shown, same]
  · rw [if_neg same, ← shown, others other same]

/-- No slot but the one the index leads to answers to an id. -/
theorem silent_of_ne (found : a.index.get? id = some known) {slot : Nat} (other : slot ≠ known) :
    (a.lineAt slot).answers id = false := by
  rw [Bool.eq_false_iff]
  intro answers
  exact other (Option.some.inj ((answers_lineAt.1 answers).1.symm.trans found))

theorem Sound.answers_known (h : a.Sound) (found : a.index.get? id = some known) :
    (a.lineAt known).answers id = true :=
  answers_lineAt.2 ⟨found, (h.shows id known found).1⟩

/-- The line that answers to an id is taken out of the log. -/
theorem Sound.log_takeOut (h : a.Sound) (found : a.index.get? id = some known)
    (split : a.slotsOf (a.messageAt known).channelId = before ++ known :: after) :
    (a.takeOut (a.messageAt known).channelId before.length).log = a.log.remove id := by
  obtain ⟨early, late, -⟩ := h.once split
  have kept {slots : List Nat} (absent : known ∉ slots) :
      (slots.map a.lineAt).filter (!·.answers id) = slots.map a.lineAt := by
    refine List.filter_eq_self.2 fun line mem => ?_
    obtain ⟨slot, here, rfl⟩ := List.mem_map.1 mem
    simp [silent_of_ne found fun same => absent (same ▸ here)]
  have mine : known ∈ a.slotsOf (a.messageAt known).channelId := (h.shows id known found).2
  have histories : (a.histories.insert (a.messageAt known).channelId (before ++ after)).mapValues
        (fun _ slots => slots.map a.lineAt) =
      (a.histories.mapValues fun _ slots => slots.map a.lineAt).mapValues fun _ lines =>
        lines.filter (!·.answers id) := by
    refine mapValues_insert_shown mine ?_ fun other elsewhere =>
      (kept (h.notMem_elsewhere elsewhere)).symm
    rw [split, List.map_append, List.map_append, List.map_cons, List.filter_append,
      List.filter_cons_of_neg (by simp [h.answers_known found]), kept early, kept late]
  have taken : (before ++ known :: after).eraseIdx before.length = before ++ after := by
    simp [List.eraseIdx_append_of_length_le]
  unfold takeOut
  rw [split, taken]
  exact congrArg (fun histories => (⟨histories, a.nextNarrationId⟩ : MessageLog)) histories

theorem Sound.filed_takeOut (h : a.Sound) (channel : Int) (place : Nat) :
    (a.takeOut channel place).Filed := by
  have shown (other : Int) :
      ((a.takeOut channel place).slotsOf other).Sublist (a.slotsOf other) := by
    rw [slotsOf_takeOut]
    split
    · exact List.eraseIdx_sublist ..
    · exact List.Sublist.refl _
  exact {
    stored := fun other slot mem => h.stored other slot ((shown other).subset mem)
    homed := fun other slot mem => h.homed other slot ((shown other).subset mem)
    distinct := fun other => (h.distinct other).sublist (shown other) }

/-- What the other ids lead to is still shown. -/
theorem Sound.shows_takeOut (h : a.Sound) (found : a.index.get? id = some known)
    (split : a.slotsOf (a.messageAt known).channelId = before ++ known :: after) {other : Int}
    (apart : other ≠ id) :
    (a.takeOut (a.messageAt known).channelId before.length).Shows other := by
  intro slot leads
  obtain ⟨same, shown⟩ := h.shows other slot leads
  refine ⟨same, ?_⟩
  have different : slot ≠ known := by
    rintro rfl
    exact apart (same.symm.trans (h.shows id slot found).1)
  show slot ∈ (a.takeOut _ _).slotsOf (a.messageAt slot).channelId
  rw [slotsOf_takeOut]
  split
  · next here =>
    rw [here, split] at shown ⊢
    simpa [List.eraseIdx_append_of_length_le, different] using shown
  · exact shown

theorem slotsOf_overwrite_of_split (channel : Int)
    (split : a.slotsOf message.channelId = before ++ known :: after) :
    (a.overwrite before.length message).slotsOf channel =
      if channel = message.channelId then before ++ a.records.length :: after
      else a.slotsOf channel := by
  rw [slotsOf_overwrite]
  by_cases here : channel = message.channelId
  · simp [here, split]
  · simp [here]

/-- The message delivered again is shown where the known one was, and all others as before. -/
theorem Filed.mem_slotsOf_overwrite (h : a.Filed)
    (split : a.slotsOf message.channelId = before ++ known :: after) {channel : Int} {slot : Nat} :
    slot ∈ (a.overwrite before.length message).slotsOf channel ↔
      slot ∈ a.slotsOf channel ∧ slot ≠ known ∨
        slot = a.records.length ∧ channel = message.channelId := by
  rw [slotsOf_overwrite_of_split channel split]
  by_cases here : channel = message.channelId
  · obtain ⟨early, late, -⟩ := h.once split
    have apart : slot ∈ before ∨ slot ∈ after → slot ≠ known := by
      rintro (mem | mem) rfl
      · exact early mem
      · exact late mem
    rw [if_pos here, here, split]
    simp only [List.mem_append, List.mem_cons]
    tauto
  · have mine : known ∈ a.slotsOf message.channelId := by simp [split]
    have apart : slot ∈ a.slotsOf channel → slot ≠ known := by
      rintro mem rfl
      exact here ((h.homed _ _ mem).symm.trans (h.homed _ _ mine))
    simp only [here, and_false, or_false, if_false]
    exact ⟨fun mem => ⟨mem, apart mem⟩, And.left⟩

/-- What is stored anew takes the id from the known message only. -/
theorem lineAt_store_of_ne (found : a.index.get? message.msgId = some known) {slot : Nat}
    (old : slot < a.records.length) (other : slot ≠ known) :
    (a.store message).lineAt slot = a.lineAt slot := by
  rw [lineAt_store_of_lt old, MessageLog.retire]
  split
  · next same =>
    have silent : (a.lineAt slot).addressable = false := by
      have id : (a.messageAt slot).msgId = message.msgId := List.mem_singleton.1 same
      simp [lineAt, id, found, Ne.symm other]
    rw [← silent]
  · rfl

/-- The message that takes the place of the known one is what its line becomes. -/
theorem Sound.log_overwrite (h : a.Sound) (found : a.index.get? message.msgId = some known)
    (split : a.slotsOf message.channelId = before ++ known :: after) :
    (a.overwrite before.length message).log = a.log.modify message.msgId fun _ => message := by
  obtain ⟨early, late, -⟩ := h.once split
  have kept {channel : Int} {slots : List Nat} (shown : slots ⊆ a.slotsOf channel)
      (absent : known ∉ slots) :
      slots.map (a.store message).lineAt =
        (slots.map a.lineAt).map (MessageLog.amend message.msgId fun _ => message) := by
    rw [List.map_map]
    refine List.map_congr_left fun slot mem => ?_
    have other : slot ≠ known := fun same => absent (same ▸ mem)
    rw [lineAt_store_of_ne found (h.stored channel slot (shown mem)) other, Function.comp_apply,
      MessageLog.amend_of_silent (by simp [silent_of_ne found other])]
  have mine : known ∈ a.slotsOf message.channelId := by simp [split]
  have replaced : (a.store message).lineAt a.records.length =
      MessageLog.amend message.msgId (fun _ => message) (a.lineAt known) := by
    have reached : (a.lineAt known).addressable = true :=
      (Line.answers_iff.1 (h.answers_known found)).1
    rw [lineAt_store_new, MessageLog.amend_of_answers (h.answers_known found), reached]
  have histories : (a.histories.insert message.channelId
        (before ++ a.records.length :: after)).mapValues
        (fun _ slots => slots.map (a.store message).lineAt) =
      (a.histories.mapValues fun _ slots => slots.map a.lineAt).mapValues fun _ lines =>
        lines.map (MessageLog.amend message.msgId fun _ => message) := by
    refine mapValues_insert_shown mine ?_ fun other elsewhere => ?_
    · have front : before ⊆ a.slotsOf message.channelId := by simp [split]
      have back : after ⊆ a.slotsOf message.channelId := by simp [split]
      rw [split, List.map_append, List.map_append, List.map_append, List.map_cons, List.map_cons,
        List.map_cons, kept front early, kept back late, replaced]
    · have elsewhere : other ≠ (a.messageAt known).channelId := by
        rwa [h.homed _ _ mine]
      exact kept (List.Subset.refl _) (h.notMem_elsewhere elsewhere)
  have placed : (before ++ known :: after).set before.length a.records.length =
      before ++ a.records.length :: after := by simp
  unfold Archive.overwrite
  rw [split, placed]
  exact congrArg (fun histories => (⟨histories, a.nextNarrationId⟩ : MessageLog)) histories

theorem Sound.overwrite (h : a.Sound) (found : a.index.get? message.msgId = some known)
    (split : a.slotsOf message.channelId = before ++ known :: after) :
    (a.overwrite before.length message).Sound := by
  refine h.toFiled.sound_of_store (· ≠ known) (h.mem_slotsOf_overwrite split)
    (fun channel => ?_) (fun id _ => h.shows id) fun id other slot leads same => ?_
  · show ((a.overwrite before.length message).slotsOf channel).Nodup
    rw [slotsOf_overwrite_of_split channel split]
    by_cases here : channel = message.channelId
    · obtain ⟨-, -, distinct⟩ := h.once split
      rw [if_pos here, List.nodup_middle, List.nodup_cons]
      refine ⟨fun mem => ?_, distinct⟩
      have shown : a.records.length ∈ a.slotsOf message.channelId := by
        rw [split]
        exact ((List.sublist_cons_self known after).append_left before).subset mem
      exact Nat.lt_irrefl _ (h.stored _ _ shown)
    · rw [if_neg here]
      exact h.distinct channel
  · subst same
    exact other ((h.shows id slot leads).1.symm.trans (h.shows _ slot found).1)

end

/-! ## Eviction -/

/-- The ids of the messages in some slots. -/
def idsAt (a : Archive) (slots : List Nat) : List Int :=
  slots.map fun slot => (a.messageAt slot).msgId

theorem get?_foldl_erase (ids : List Int) (index : Table Int Nat) (id : Int) :
    (ids.foldl Table.erase index).get? id = if id ∈ ids then none else index.get? id := by
  induction ids generalizing index with
  | nil => simp
  | cons first ids ih =>
    rw [List.foldl_cons, ih, Table.get?_erase]
    by_cases here : id = first <;> simp [here]

theorem trim_eq (limit : Nat) (slots : List Nat) (index : Table Int Nat) :
    a.trim limit slots index = (slots.drop (slots.length - limit),
      (a.idsAt (slots.take (slots.length - limit))).foldl Table.erase index) := by
  induction slots generalizing index with
  | nil => simp [trim, idsAt]
  | cons slot slots ih =>
    unfold trim
    split
    · next exceeds =>
      have count : (slot :: slots).length - limit = slots.length - limit + 1 := by
        rw [List.length_cons] at exceeds ⊢
        omega
      rw [ih, count]
      rfl
    · next fits =>
      have count : (slot :: slots).length - limit = 0 := by omega
      rw [count]
      rfl

/-- Eviction drops the oldest slots, and their ids out of the index. -/
theorem evict_eq (limit channel : Int) :
    let count := MessageLog.excess limit (a.slotsOf channel).length
    a.evict limit channel =
      { a with
        histories := a.histories.modify channel (·.drop count)
        index := (a.idsAt ((a.slotsOf channel).take count)).foldl Table.erase a.index } := by
  intro count
  unfold evict
  split
  · next unlimited =>
    have none : count = 0 := if_pos unlimited
    have same : a.histories.modify channel (·.drop 0) = a.histories :=
      Table.modify_eq_self (fun _ => rfl) _ _
    rw [none, same]
    rfl
  · next limited =>
    have beyond : count = (a.slotsOf channel).length - limit.toNat := if_neg limited
    have same : a.histories.modify channel (fun _ => (a.slotsOf channel).drop count) =
        a.histories.modify channel (·.drop count) :=
      Table.modify_congr fun slots found => by rw [slotsOf, found]; rfl
    rw [trim_eq, ← beyond, ← same]

theorem slotsOf_evict (limit channel other : Int) :
    (a.evict limit channel).slotsOf other =
      if other = channel then
        (a.slotsOf other).drop (MessageLog.excess limit (a.slotsOf channel).length)
      else a.slotsOf other := by
  simp only [slotsOf, evict_eq, Table.get?_modify]
  by_cases here : other = channel
  · cases a.histories.get? other <;> simp [here]
  · simp [here]

theorem messageAt_evict (limit channel : Int) (slot : Nat) :
    (a.evict limit channel).messageAt slot = a.messageAt slot := by
  rw [evict_eq]
  rfl

theorem get?_index_evict (limit channel : Int) (id : Int) :
    (a.evict limit channel).index.get? id =
      if id ∈ a.idsAt ((a.slotsOf channel).take
        (MessageLog.excess limit (a.slotsOf channel).length)) then none else a.index.get? id := by
  rw [evict_eq]
  exact get?_foldl_erase _ _ id

/-- An evicted message is out of the index, so nothing leads to what is not shown. -/
theorem Sound.evict (h : a.Sound) (limit channel : Int) : (a.evict limit channel).Sound := by
  have sublist (other : Int) :
      ((a.evict limit channel).slotsOf other).Sublist (a.slotsOf other) := by
    rw [slotsOf_evict]
    split
    · exact List.drop_sublist _ _
    · exact List.Sublist.refl _
  have records : (a.evict limit channel).records = a.records := by rw [evict_eq]
  refine ⟨⟨fun other slot mem => ?_, fun other slot mem => ?_, fun other => ?_⟩, ?_⟩
  · rw [records]
    exact h.stored other slot ((sublist other).subset mem)
  · rw [messageAt_evict]
    exact h.homed other slot ((sublist other).subset mem)
  · exact (h.distinct other).sublist (sublist other)
  · intro id slot leads
    rw [get?_index_evict] at leads
    split at leads
    · cases leads
    next kept =>
    obtain ⟨same, shown⟩ := h.shows id slot leads
    rw [messageAt_evict, slotsOf_evict]
    refine ⟨same, ?_⟩
    split
    · next here =>
      rw [here, ← List.take_append_drop (MessageLog.excess limit (a.slotsOf channel).length)
        (a.slotsOf channel), List.mem_append] at shown
      rw [here]
      exact shown.resolve_left fun dropped => kept (List.mem_map.2 ⟨slot, dropped, same⟩)
    · exact shown

theorem lineAt_evict (limit channel : Int) (slot : Nat) :
    (a.evict limit channel).lineAt slot =
      MessageLog.retire (a.idsAt ((a.slotsOf channel).take
        (MessageLog.excess limit (a.slotsOf channel).length))) (a.lineAt slot) := by
  unfold lineAt MessageLog.retire
  rw [messageAt_evict, get?_index_evict]
  split <;> simp

theorem log_evict (limit channel : Int) :
    (a.evict limit channel).log = a.log.evict limit channel := by
  have length : (a.log.linesOf channel).length = (a.slotsOf channel).length := by
    rw [linesOf_log, List.length_map]
  have dropped (count : Nat) : ((a.log.linesOf channel).take count).map (·.message.msgId) =
      a.idsAt ((a.slotsOf channel).take count) := by
    rw [linesOf_log, ← List.map_take, List.map_map]
    rfl
  rw [MessageLog.evict_eq, length, dropped]
  generalize hc : MessageLog.excess limit (a.slotsOf channel).length = count
  generalize hi : a.idsAt ((a.slotsOf channel).take count) = ids
  have lines : (a.evict limit channel).lineAt =
      fun slot => MessageLog.retire ids (a.lineAt slot) := by
    funext slot
    rw [lineAt_evict, hc, hi]
  have histories : (a.histories.modify channel (·.drop count)).mapValues
        (fun _ slots => slots.map (a.evict limit channel).lineAt) =
      ((a.histories.mapValues fun _ slots => slots.map a.lineAt).modify channel
        (·.drop count)).mapValues fun _ lines => lines.map (MessageLog.retire ids) := by
    rw [lines, ← Table.mapValues_modify (f := List.map a.lineAt) fun slots => List.map_drop,
      Table.mapValues_mapValues]
    simp only [List.map_map, Function.comp_def]
  have kept : (a.evict limit channel).histories = a.histories.modify channel (·.drop count) := by
    rw [evict_eq, hc]
  have number : (a.evict limit channel).nextNarrationId = a.nextNarrationId := by rw [evict_eq]
  rw [log, kept, number, histories]
  rfl

/-! ## Narration -/

theorem Sound.narrate (h : a.Sound) (limit channel : Int) (text : Text) (ts : Int) :
    (a.narrate limit channel text ts).Sound ∧
      (a.narrate limit channel text ts).log = a.log.narrate limit channel text ts := by
  have counted : Sound { a with nextNarrationId := a.nextNarrationId - 1 } :=
    ⟨⟨h.stored, h.homed, h.distinct⟩, h.shows⟩
  refine ⟨(counted.append fun id _ => counted.shows id).evict limit channel, ?_⟩
  unfold Archive.narrate
  rw [log_evict, counted.log_append]
  rfl

/-! ## Delivery -/

theorem mem_lines_log {line : Line} :
    line ∈ a.log.lines ↔ ∃ channel, ∃ slot ∈ a.slotsOf channel, a.lineAt slot = line := by
  simp only [MessageLog.mem_lines, linesOf_log, List.mem_map]

/-- An id leads to the message that the log finds. -/
theorem Sound.find?_log (h : a.Sound) (id : Int) : a.log.find? id = a.get? id := by
  cases leads : a.index.get? id with
  | some slot =>
    have answers := h.answers_known leads
    have mem : a.lineAt slot ∈ a.log.lines :=
      mem_lines_log.2 ⟨_, slot, (h.shows id slot leads).2, rfl⟩
    cases found : a.log.find? id with
    | none =>
      exact absurd (MessageLog.mem_addressedIds.2 ⟨_, mem, answers⟩)
        (MessageLog.find?_eq_none_iff.1 found)
    | some message =>
      obtain ⟨_, shown, reached, rfl⟩ := MessageLog.exists_line_of_find? found
      obtain ⟨_, other, -, rfl⟩ := mem_lines_log.1 shown
      obtain rfl := Option.some.inj ((answers_lineAt.1 reached).1.symm.trans leads)
      rw [get?, leads]
      rfl
  | none =>
    rw [get?, leads, Option.map_none, MessageLog.find?_eq_none_iff]
    intro mem
    obtain ⟨_, shown, reached⟩ := MessageLog.mem_addressedIds.1 mem
    obtain ⟨_, slot, -, rfl⟩ := mem_lines_log.1 shown
    rw [(answers_lineAt.1 reached).1] at leads
    cases leads

theorem deliver_of_known {limit : Int} {message : Message} {known place : Nat}
    (leads : a.index.get? message.msgId = some known)
    (found : (a.slotsOf (a.messageAt known).channelId).findIdx? (· = known) = some place) :
    a.deliver limit message =
      some (if (a.messageAt known).channelId = message.channelId then a.overwrite place message
        else (a.takeOut (a.messageAt known).channelId place).append message, false) := by
  simp only [Archive.deliver, leads]
  rw [found]
  by_cases stays : (a.messageAt known).channelId = message.channelId <;> simp [stays]

/-- A delivery is always taken in, and does to the log what it does to the message log. -/
theorem Sound.deliver (h : a.Sound) (limit : Int) (message : Message) :
    ∃ b, a.deliver limit message = some (b, (a.log.deliver limit message).2) ∧ b.Sound ∧
      b.log = (a.log.deliver limit message).1 := by
  cases leads : a.index.get? message.msgId with
  | some known =>
    obtain ⟨before, after, split, place⟩ := h.exists_place leads
    have found : a.log.find? message.msgId = some (a.messageAt known) := by
      rw [h.find?_log, get?, leads]
      rfl
    rw [deliver_of_known leads place]
    by_cases stays : (a.messageAt known).channelId = message.channelId
    · simp only [MessageLog.deliver, found, stays, if_true]
      rw [stays] at split
      exact ⟨_, rfl, h.overwrite leads split, h.log_overwrite leads split⟩
    · simp only [MessageLog.deliver, found, stays, if_false]
      have filed := h.filed_takeOut (a.messageAt known).channelId before.length
      have removed := h.log_takeOut leads split
      refine ⟨_, rfl, filed.append fun other apart => h.shows_takeOut leads split apart, ?_⟩
      have gone : (a.log.remove message.msgId).find? message.msgId = none := by
        rw [MessageLog.find?_eq_none_iff, MessageLog.addressedIds_remove]
        simp
      rw [filed.log_append, removed, MessageLog.withdraw_of_unknown gone]
  | none =>
    have unknown : a.log.find? message.msgId = none := by
      rw [h.find?_log, get?, leads]
      rfl
    simp only [Archive.deliver, leads, MessageLog.deliver, unknown]
    refine ⟨_, rfl, (h.append fun id _ => h.shows id).evict limit _, ?_⟩
    rw [log_evict, h.log_append, MessageLog.withdraw_of_unknown unknown]

/-! ## Changing a message -/

section

variable {id : Int} {slot : Nat} {f : Message → Message}

theorem messageAt_changeAt (stored : slot < a.records.length) (f : Message → Message)
    (other : Nat) :
    (a.changeAt slot f).messageAt other =
      if other = slot then f (a.messageAt other) else a.messageAt other := by
  simp only [messageAt, changeAt, List.getD_eq_getElem?_getD, List.getElem?_modify]
  by_cases here : other = slot
  · simp [here, stored]
  · simp [here, Ne.symm here]

theorem Sound.changeAt (h : a.Sound) (stored : slot < a.records.length)
    (keeps : ∀ m, (f m).msgId = m.msgId ∧ (f m).channelId = m.channelId) :
    (a.changeAt slot f).Sound := by
  have same (other : Nat) :
      ((a.changeAt slot f).messageAt other).msgId = (a.messageAt other).msgId ∧
      ((a.changeAt slot f).messageAt other).channelId = (a.messageAt other).channelId := by
    rw [messageAt_changeAt stored]
    split
    · exact keeps _
    · exact ⟨rfl, rfl⟩
  have length : (a.changeAt slot f).records.length = a.records.length := List.length_modify ..
  exact {
    stored := fun channel other mem => length ▸ h.stored channel other mem
    homed := fun channel other mem => (same other).2.trans (h.homed channel other mem)
    distinct := h.distinct
    shows := fun id other leads => by
      rw [(same other).1, (same other).2]
      exact h.shows id other leads }

/-- A change in the slot that an id leads to is a change of the line that answers to it. -/
theorem Sound.log_changeAt (h : a.Sound) (leads : a.index.get? id = some slot)
    (stored : slot < a.records.length) (keeps : ∀ m, (f m).msgId = m.msgId) :
    (a.changeAt slot f).log = a.log.modify id f := by
  have lines : (a.changeAt slot f).lineAt =
      fun other => MessageLog.amend id f (a.lineAt other) := by
    funext other
    have index : (a.changeAt slot f).index = a.index := rfl
    by_cases here : other = slot
    · rw [here, MessageLog.amend_of_answers (h.answers_known leads)]
      simp [lineAt, index, messageAt_changeAt stored, keeps]
    · rw [MessageLog.amend_of_silent (by simp [silent_of_ne leads here])]
      simp [lineAt, index, messageAt_changeAt stored, here]
  have histories : a.histories.mapValues (fun _ slots => slots.map (a.changeAt slot f).lineAt) =
      (a.histories.mapValues fun _ slots => slots.map a.lineAt).mapValues fun _ lines =>
        lines.map (MessageLog.amend id f) := by
    rw [lines, Table.mapValues_mapValues]
    simp only [List.map_map, Function.comp_def]
  exact congrArg (fun histories => (⟨histories, a.nextNarrationId⟩ : MessageLog)) histories

/-- A change reaches the line that answers to the id, and no other. -/
theorem Sound.modify (h : a.Sound) (id : Int)
    (keeps : ∀ m, (f m).msgId = m.msgId ∧ (f m).channelId = m.channelId) :
    (a.modify id f).Sound ∧ (a.modify id f).log = a.log.modify id f := by
  cases leads : a.index.get? id with
  | some slot =>
    have stored := h.stored _ slot (h.shows id slot leads).2
    simp only [Archive.modify, leads]
    exact ⟨h.changeAt stored keeps, h.log_changeAt leads stored fun m => (keeps m).1⟩
  | none =>
    have unknown : a.log.find? id = none := by
      rw [h.find?_log, get?, leads]
      rfl
    simp only [Archive.modify, leads]
    refine ⟨h, (MessageLog.mapLines_eq_self fun line mem => ?_).symm⟩
    exact MessageLog.amend_of_silent fun answers =>
      MessageLog.find?_eq_none_iff.1 unknown (MessageLog.mem_addressedIds.2 ⟨line, mem, answers⟩)

end

/-! ## Runs -/

section

variable (settings : Settings) {s : Store} {change : Change}

theorem step_of_amendment? {id : Int} {f : Message → Message}
    (amends : change.amendment? = some (id, f)) :
    a.step settings change = some (a.modify id f) := by
  cases change <;> cases amends <;> rfl

theorem Sound.step_amendment (h : a.Sound) (agree : a.log = s.log) {id : Int}
    {f : Message → Message} (amends : change.amendment? = some (id, f)) :
    ∃ b, a.step settings change = some b ∧ b.Sound ∧
      b.log = (Store.step settings s change).log := by
  obtain ⟨sound, changed⟩ := h.modify id (Store.amendment?_keeps amends)
  refine ⟨a.modify id f, step_of_amendment? settings amends, sound, ?_⟩
  rw [changed, agree, Store.step_of_amendment? settings amends]
  rfl

/-- Every change is carried out, and makes of the log what it makes of the log of a store. -/
theorem Sound.step (h : a.Sound) (agree : a.log = s.log) (change : Change) :
    ∃ b, a.step settings change = some b ∧ b.Sound ∧
      b.log = (Store.step settings s change).log := by
  cases change with
  | reset => exact ⟨{}, rfl, sound_empty, rfl⟩
  | deliver message =>
    obtain ⟨b, delivered, sound, same⟩ := h.deliver settings.maxMessagesPerChannel message
    refine ⟨b, congrArg (Option.map Prod.fst) delivered, sound, ?_⟩
    rw [same, agree]
    rfl
  | narrate channel text ts =>
    obtain ⟨sound, same⟩ := h.narrate settings.maxMessagesPerChannel channel text ts
    refine ⟨_, rfl, sound, ?_⟩
    rw [same, agree]
    rfl
  | edit | delete | react | unreact | pin | attachPreview =>
    exact h.step_amendment settings agree rfl
  | setVideo id active screenShare layers =>
    refine ⟨a, rfl, h, agree.trans ?_⟩
    simp only [Store.step, Store.setVideo]
    split <;> rfl
  | setRecording channel recording startedBy =>
    refine ⟨a, rfl, h, agree.trans ?_⟩
    simp only [Store.step, Store.setRecording]
    split <;> rfl
  | _ => exact ⟨a, rfl, h, agree⟩

/-- A run of an archive never breaks off, and keeps the log of the store. -/
theorem Sound.run {a : Archive} (h : a.Sound) {s : Store} (agree : a.log = s.log)
    (changes : List Change) :
    ∃ b, run settings changes a = some b ∧ b.Sound ∧
      b.log = (Store.run settings changes s).log := by
  induction changes generalizing a s with
  | nil => exact ⟨a, rfl, h, agree⟩
  | cons change changes ih =>
    obtain ⟨b, stepped, sound, same⟩ := h.step settings agree change
    obtain ⟨c, completed, later⟩ := ih sound same
    refine ⟨c, ?_, later⟩
    rw [Archive.run, List.foldlM_cons, stepped]
    exact completed

end

end Archive

end VoiceChat
