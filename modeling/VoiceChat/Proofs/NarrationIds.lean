import VoiceChat.Proofs.MessageContent

/-!
# The ids of narration

Narration is numbered downwards from `-1`, and a message from the server has the id that the
server gives it. Nothing keeps the two apart: a message can come under the number of a
narration that is still to come. The narration then takes the id over, and the message stays
in its history where no change reaches it any more. `narration_hides_nothing_iff` says that
this is the only way in which narration hides anything, and what it leaves alone.
-/

namespace VoiceChat

namespace MessageLog

theorem nextNarrationId_deliver {log : MessageLog} {limit : Int} (unlimited : limit ≤ 0)
    (message : Message) : (log.deliver limit message).1.nextNarrationId = log.nextNarrationId := by
  simp only [deliver, evict_of_unlimited unlimited]
  cases log.find? message.msgId with
  | none => rfl
  | some known =>
    dsimp only
    split <;> rfl

end MessageLog

namespace Store

variable {settings : Settings} {s : Store} {changes : List Change} {change : Change}

/-! ## The number of the next narration -/

/-- Whether a change adds narration. -/
def Change.narrates : Change → Bool
  | .narrate .. => true
  | _ => false

/-- The changes since the store was last reset. -/
def sinceReset (changes : List Change) : List Change := changes.rtakeWhile (· ≠ .reset)

@[simp] theorem sinceReset_concat (changes : List Change) (change : Change) :
    sinceReset (changes ++ [change]) =
      if change = .reset then [] else sinceReset changes ++ [change] := by
  unfold sinceReset
  split <;> next kind => simp [kind]

/-- The number that narration has after some changes: it goes downwards from `-1` and starts
again with every reset. -/
def narrationNumber (changes : List Change) : Int :=
  -1 - (sinceReset changes).countP Change.narrates

@[simp] theorem narrationNumber_concat (changes : List Change) (change : Change) :
    narrationNumber (changes ++ [change]) =
      if change = .reset then -1
      else if change.narrates then narrationNumber changes - 1
      else narrationNumber changes := by
  unfold narrationNumber
  rw [sinceReset_concat]
  split
  · rfl
  · rw [List.countP_append, List.countP_singleton]
    split
    · rw [Int.natCast_add, Int.natCast_one, Int.sub_sub]
    · rfl

theorem narrationNumber_neg (changes : List Change) : narrationNumber changes < 0 := by
  unfold narrationNumber
  omega

/-- What an unlimited log knows of the changes that made it: the number of the next narration,
and that it answers to the ids delivered and to the numbers narrated since the last reset. -/
structure Numbered (changes : List Change) (log : MessageLog) : Prop where
  next : log.nextNarrationId = narrationNumber changes
  addressed : ∀ id, id ∈ log.addressedIds ↔
    id ∈ deliveredIds (sinceReset changes) ∨ narrationNumber changes < id ∧ id < 0
  reached : ∀ id ∈ log.ids, id ∈ log.addressedIds

namespace Numbered

variable {log after : MessageLog} {limit : Int}

theorem empty (fresh : sinceReset changes = []) : Numbered changes {} where
  next := by simp [narrationNumber, fresh]
  addressed id := by
    have nothing : ({} : MessageLog).addressedIds = [] := rfl
    simp only [nothing, fresh, narrationNumber, deliveredIds, List.filterMap_nil, List.not_mem_nil,
      List.countP_nil, false_or, false_iff]
    omega
  reached _ mem := absurd mem List.not_mem_nil

/-- A change that delivers nothing and narrates nothing. -/
theorem quiet (hl : Numbered changes log) (stays : change ≠ .reset)
    (undelivered : change.deliveredId? = none) (silent : change.narrates = false)
    (next : after.nextNarrationId = log.nextNarrationId)
    (addressed : after.addressedIds = log.addressedIds) (ids : after.ids = log.ids) :
    Numbered (changes ++ [change]) after where
  next := by simp [next, hl.next, stays, silent]
  addressed id := by
    have same : deliveredIds (sinceReset (changes ++ [change])) =
        deliveredIds (sinceReset changes) := by
      simp [stays, deliveredIds, undelivered]
    rw [addressed, same, narrationNumber_concat, if_neg stays, silent]
    exact hl.addressed id
  reached := by
    rw [ids, addressed]
    exact hl.reached

theorem delivered (hl : Numbered changes log) (unlimited : limit ≤ 0) (message : Message) :
    Numbered (changes ++ [.deliver message]) (log.deliver limit message).1 where
  next := by
    rw [MessageLog.nextNarrationId_deliver unlimited, hl.next]
    simp [Change.narrates]
  addressed id := by
    rw [MessageLog.mem_addressedIds_deliver unlimited, hl.addressed]
    simp [deliveredIds, Change.deliveredId?, Change.narrates, or_right_comm, eq_comm]
  reached id mem := by
    rw [MessageLog.mem_addressedIds_deliver unlimited]
    exact (MessageLog.mem_ids_of_deliver mem).imp_left (hl.reached id)

theorem narrated (hl : Numbered changes log) (unlimited : limit ≤ 0) (channel : Int)
    (text : Text) (ts : Int) :
    Numbered (changes ++ [.narrate channel text ts]) (log.narrate limit channel text ts) where
  next := by
    rw [MessageLog.narrate_of_unlimited unlimited]
    simp [Change.narrates, ← hl.next]
    rfl
  addressed id := by
    have same : deliveredIds (sinceReset (changes ++ [.narrate channel text ts])) =
        deliveredIds (sinceReset changes) := by
      simp [deliveredIds, Change.deliveredId?]
    have lower : narrationNumber (changes ++ [.narrate channel text ts]) =
        narrationNumber changes - 1 := by
      simp [Change.narrates]
    have negative := narrationNumber_neg changes
    rw [MessageLog.mem_addressedIds_narrate unlimited, hl.addressed, hl.next, same, lower, or_assoc]
    refine or_congr_right ?_
    omega
  reached id mem := by
    rw [MessageLog.mem_addressedIds_narrate unlimited]
    exact (MessageLog.mem_ids_of_narrate mem).imp_left (hl.reached id)

end Numbered

theorem numbered_step (unlimited : settings.maxMessagesPerChannel ≤ 0)
    (hs : Numbered changes s.log) (change : Change) :
    Numbered (changes ++ [change]) (step settings s change).log := by
  by_cases resets : change = .reset
  · subst resets
    exact .empty (by simp)
  cases amends : change.amendment? with
  | some amendment =>
    obtain ⟨id, f⟩ := amendment
    have keeps (m : Message) (known : m.msgId = id) : (f m).msgId = id :=
      (amendment?_keeps amends m).1.trans known
    have quiet : change.deliveredId? = none ∧ change.narrates = false := by
      cases change <;> cases amends <;> exact ⟨rfl, rfl⟩
    rw [step_of_amendment? settings amends]
    exact hs.quiet resets quiet.1 quiet.2 rfl (MessageLog.addressedIds_modify keeps)
      (MessageLog.ids_modify keeps)
  | none =>
    cases change with
    | reset => exact absurd rfl resets
    | deliver message => exact hs.delivered unlimited message
    | narrate channel text ts => exact hs.narrated unlimited channel text ts
    | edit | delete | react | unreact | pin | attachPreview => cases amends
    | setVideo id active screenShare layers =>
      simp only [step, setVideo]
      split <;> exact hs.quiet resets rfl rfl rfl rfl rfl
    | setRecording channel recording startedBy =>
      simp only [step, setRecording]
      split <;> exact hs.quiet resets rfl rfl rfl rfl rfl
    | _ => exact hs.quiet resets rfl rfl rfl rfl rfl

theorem numbered_run (unlimited : settings.maxMessagesPerChannel ≤ 0) (changes : List Change) :
    Numbered changes (run settings changes {}).log := by
  induction changes using List.reverseRecOn with
  | nil => exact .empty rfl
  | append_singleton changes change ih =>
    rw [run_append]
    exact numbered_step unlimited ih change

/-! ## What narration hides -/

/-- Whether everything that is found in a store is found in the same way in another one, and
reached there by every change that is addressed to it. -/
structure Keeps (settings : Settings) (s after : Store) : Prop where
  found : ∀ id m, s.log.find? id = some m → after.log.find? id = some m
  reached : ∀ id m, s.log.find? id = some m → ∀ change f, change.amendment? = some (id, f) →
    (step settings after change).log.find? id = some (f m)

/-- What is still found is still reached. -/
theorem Keeps.of_found {after : Store}
    (found : ∀ id m, s.log.find? id = some m → after.log.find? id = some m) :
    Keeps settings s after where
  found := found
  reached id m known change f amends := by
    rw [step_of_amendment? settings amends, modifyMessage,
      MessageLog.find?_modify_self fun m here => (amendment?_keeps amends m).1.trans here,
      found id m known, Option.map_some]

/-- Whatever is narrated, nothing gets lost, exactly if no message has the next number. -/
theorem keeps_narrate_iff (hs : s.log.Sound) (unlimited : settings.maxMessagesPerChannel ≤ 0) :
    (∀ channel text ts, Keeps settings s (s.narrate settings channel text ts)) ↔
      s.log.find? s.log.nextNarrationId = none := by
  constructor
  · intro keeps
    cases taken : s.log.find? s.log.nextNarrationId with
    | none => rfl
    | some m =>
      -- narration of another time than that of the message
      have still := (keeps lobby "" (m.ts + 1)).found _ m taken
      rw [narrate, hs.find?_narrate unlimited, if_pos rfl] at still
      have time : m.ts + 1 = m.ts := congrArg Message.ts (Option.some.inj still)
      omega
  · intro free channel text ts
    refine .of_found fun id m known => ?_
    have other : id ≠ s.log.nextNarrationId := by
      rintro rfl
      rw [free] at known
      cases known
    rw [narrate, hs.find?_narrate unlimited, if_neg other, known]

/-- After any changes to an unlimited store, narration takes over the next number going down
from `-1`, and every other id finds what it found before. No message of the store has that
number exactly if none was delivered with it since the last reset, and in exactly these cases
narration leaves every message where its id finds it and where later changes reach it. -/
theorem narration_hides_nothing_iff (settings : Settings)
    (unlimited : settings.maxMessagesPerChannel ≤ 0) (changes : List Change) :
    let s := run settings changes {}
    let number := narrationNumber changes
    (∀ channel text ts id, (s.narrate settings channel text ts).log.find? id =
      if id = number then some { msgId := number, text, ts, channelId := channel, system := true }
      else s.log.find? id) ∧
    (number ∉ s.log.ids ↔ number ∉ deliveredIds (sinceReset changes)) ∧
    ((∀ channel text ts, Keeps settings s (s.narrate settings channel text ts)) ↔
      number ∉ deliveredIds (sinceReset changes)) := by
  intro s number
  have sound : s.log.Sound := sound_run settings changes
  have numbered : Numbered changes s.log := numbered_run unlimited changes
  have taken : number ∈ s.log.addressedIds ↔ number ∈ deliveredIds (sinceReset changes) := by
    rw [numbered.addressed number, or_iff_left]
    exact fun between => Int.lt_irrefl _ between.1
  refine ⟨fun channel text ts id => ?_, ?_, ?_⟩
  · rw [narrate, sound.find?_narrate unlimited, MessageLog.narration, numbered.next]
  · rw [← taken]
    exact not_congr ⟨numbered.reached number, MessageLog.mem_ids_of_addressed⟩
  · rw [keeps_narrate_iff sound unlimited, MessageLog.find?_eq_none_iff, numbered.next]
    exact not_congr taken

/-- The first message came under a number that was used for narration, before a reset. The
second has a number that is not the next one yet. -/
def numberedAhead : List Change :=
  [.narrate lobby "Ada joined" 1, .deliver { msgId := -1, text := "early" }, .reset,
    .deliver { msgId := -2, text := "hello" }, .deliver { msgId := 7, channelId := 5 }]

theorem message_kept_by_narration :
    let s := run {} numberedAhead {}
    let t := s.narrate {} lobby "Bob joined" 2
    narrationNumber numberedAhead = -1 ∧ -1 ∉ s.log.ids ∧
    (s.log.find? (-2)).map Message.text = some ("hello" : Text) ∧ Keeps {} s t ∧
    (t.log.find? (-1)).map Message.text = some ("Bob joined" : Text) := by
  intro s t
  have number : narrationNumber numberedAhead = -1 := by decide +kernel
  have free : narrationNumber numberedAhead ∉ deliveredIds (sinceReset numberedAhead) := by
    decide +kernel
  obtain ⟨finds, fresh, keeps⟩ :=
    narration_hides_nothing_iff {} (Int.le_refl 0) numberedAhead
  refine ⟨number, number ▸ fresh.2 free, by decide +kernel, keeps.2 free lobby _ 2, ?_⟩
  rw [finds, number]
  rfl

/-- A message that comes under the number of the next narration. It stays in the lobby, and
its id finds the narration. -/
theorem message_hidden_by_narration :
    let s := run {} [.deliver { msgId := -1, text := "hello" }] {}
    let t := s.narrate {} lobby "Ada joined" 1
    s.log.nextNarrationId ∈ s.log.ids ∧
    (s.log.find? (-1)).map Message.text = some ("hello" : Text) ∧
    (t.log.find? (-1)).map Message.text = some ("Ada joined" : Text) ∧
    ((step {} t (.edit (-1) "edited" 2)).log.messagesOf lobby).map Message.text =
      (["hello", "edited"] : List Text) ∧
    ¬Keeps {} s t := by
  intro s t
  have before : s.log.find? (-1) = some { msgId := -1, text := "hello" } := by decide +kernel
  have after : (t.log.find? (-1)).map Message.text = some ("Ada joined" : Text) := by decide +kernel
  refine ⟨by decide +kernel, by decide +kernel, after, by decide +kernel, fun keeps => ?_⟩
  rw [keeps.found (-1) _ before] at after
  exact absurd after (by decide)

end Store

end VoiceChat
