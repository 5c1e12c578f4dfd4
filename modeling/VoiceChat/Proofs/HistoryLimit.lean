import VoiceChat.Proofs.Histories

/-!
# How long a history gets

With a positive limit, a new message and a line of narration evict the oldest
lines of their channel, so that the channel is within the limit afterwards
whatever it held before (`length_evict`). A message that is delivered again under
another channel is moved there without an eviction. `within_limit_iff` says that
the limit is exceeded at such a move into a full channel, and nowhere else.
-/

namespace VoiceChat

namespace MessageLog

variable {log : MessageLog}

/-- How many lines a channel has. -/
def lengthOf (log : MessageLog) (channel : Int) : Nat := (log.linesOf channel).length

@[simp] theorem length_messagesOf (channel : Int) :
    (log.messagesOf channel).length = log.lengthOf channel := by
  simp [messagesOf, lengthOf]

@[simp] theorem lengthOf_mapLines (f : Line → Line) (channel : Int) :
    (log.mapLines f).lengthOf channel = log.lengthOf channel := by
  simp [lengthOf]

theorem lengthOf_modify (id : Int) (f : Message → Message) (channel : Int) :
    (log.modify id f).lengthOf channel = log.lengthOf channel :=
  lengthOf_mapLines _ channel

theorem lengthOf_append (message : Message) (channel : Int) :
    (log.append message).lengthOf channel =
      if channel = message.channelId then log.lengthOf channel + 1 else log.lengthOf channel := by
  simp only [lengthOf, linesOf_append]
  split <;> simp

theorem lengthOf_remove_le (id channel : Int) :
    (log.remove id).lengthOf channel ≤ log.lengthOf channel := by
  rw [lengthOf, linesOf_remove]
  exact List.length_filter_le _ _

/-- Only the channel of a message loses a line when the message is taken out. -/
theorem Sound.lengthOf_remove (hl : log.Sound) {id channel : Int} {known : Message}
    (found : log.find? id = some known) (elsewhere : known.channelId ≠ channel) :
    (log.remove id).lengthOf channel = log.lengthOf channel := by
  rw [lengthOf, linesOf_remove, List.filter_eq_self.2, lengthOf]
  intro line mem
  cases answers : line.answers id with
  | false => rfl
  | true =>
    have same := find?_of_mem hl.single (mem_lines.2 ⟨channel, mem⟩) answers
    obtain rfl := Option.some.inj (found.symm.trans same)
    exact absurd (hl.homed channel line mem) elsewhere

/-- Eviction takes the channel back to the limit, and leaves the others alone. -/
theorem lengthOf_evict {limit : Int} (limited : 0 < limit) (channel other : Int) :
    (log.evict limit channel).lengthOf other =
      if other = channel then min (log.lengthOf other) limit.toNat else log.lengthOf other := by
  rw [evict_eq, lengthOf_mapLines, lengthOf, linesOf_dropOldest]
  split
  · next here =>
    rw [here, List.length_drop, excess, if_neg (Int.not_le.2 limited), lengthOf]
    omega
  · rfl

/-! ## The limit -/

/-- Whether every channel is within the limit. -/
def WithinLimit (limit : Int) (log : MessageLog) : Prop :=
  ∀ channel, ((log.messagesOf channel).length : Int) ≤ limit

theorem withinLimit_iff {limit : Int} :
    log.WithinLimit limit ↔ ∀ channel, (log.lengthOf channel : Int) ≤ limit := by
  simp only [WithinLimit, length_messagesOf]

theorem withinLimit_empty {limit : Int} (limited : 0 < limit) : WithinLimit limit {} :=
  fun _ => Int.le_of_lt limited

namespace WithinLimit

variable {limit : Int}

theorem modify (hl : log.WithinLimit limit) (id : Int) (f : Message → Message) :
    (log.modify id f).WithinLimit limit := by
  rw [withinLimit_iff] at hl ⊢
  intro channel
  rw [lengthOf_modify]
  exact hl channel

theorem append_evict (hl : log.WithinLimit limit) (limited : 0 < limit) (message : Message) :
    ((log.append message).evict limit message.channelId).WithinLimit limit := by
  rw [withinLimit_iff] at hl ⊢
  intro channel
  have before := hl channel
  rw [lengthOf_evict limited, lengthOf_append]
  split <;> omega

theorem narrate (hl : log.WithinLimit limit) (limited : 0 < limit) (channel : Int) (text : Text)
    (ts : Int) : (log.narrate limit channel text ts).WithinLimit limit := by
  refine WithinLimit.append_evict ?_ limited (log.narration channel text ts)
  rw [withinLimit_iff] at hl ⊢
  intro channel
  rw [withdraw_eq, lengthOf_mapLines]
  exact hl channel

/-- A delivery keeps the limit, if there is room where it moves a known message. -/
theorem deliver (hl : log.WithinLimit limit) (limited : 0 < limit) {message : Message}
    (room : ∀ known, log.find? message.msgId = some known → known.channelId ≠ message.channelId →
      ((log.messagesOf message.channelId).length : Int) < limit) :
    (log.deliver limit message).1.WithinLimit limit := by
  unfold MessageLog.deliver
  cases found : log.find? message.msgId with
  | none => exact hl.append_evict limited message
  | some known =>
    by_cases stays : known.channelId = message.channelId
    · simp only [stays, if_true]
      exact hl.modify _ _
    · simp only [stays, if_false]
      rw [withinLimit_iff] at hl ⊢
      intro channel
      have before := hl channel
      have room := room known found stays
      have removed : (log.remove message.msgId).lengthOf channel ≤ log.lengthOf channel :=
        lengthOf_remove_le message.msgId channel
      rw [length_messagesOf] at room
      rw [lengthOf_append]
      split
      · next here =>
        rw [← here] at room
        omega
      · omega

end WithinLimit

end MessageLog

namespace Store

variable {settings : Settings} {s : Store}

/-- Whether a change delivers a known message under another channel, which is full. -/
def Overfills (settings : Settings) (s : Store) : Change → Prop
  | .deliver message => ∃ known, s.log.find? message.msgId = some known ∧
      known.channelId ≠ message.channelId ∧
      settings.maxMessagesPerChannel ≤ (s.log.messagesOf message.channelId).length
  | _ => False

theorem withinLimit_step (limited : 0 < settings.maxMessagesPerChannel)
    (hs : s.log.WithinLimit settings.maxMessagesPerChannel) {change : Change}
    (fits : ¬Overfills settings s change) :
    (step settings s change).log.WithinLimit settings.maxMessagesPerChannel := by
  refine log_step settings s change (fun _ => MessageLog.withinLimit_empty limited)
    (fun message delivers => ?_) (fun channel text ts _ => hs.narrate limited channel text ts)
    (fun id f _ => hs.modify id f) hs
  subst delivers
  exact hs.deliver limited fun known found moves =>
    Int.not_le.1 fun full => fits ⟨known, found, moves, full⟩

theorem not_withinLimit_of_overfills (hs : s.log.Sound) {change : Change}
    (exceeds : Overfills settings s change) :
    ¬(step settings s change).log.WithinLimit settings.maxMessagesPerChannel := by
  cases change with
  | deliver message =>
    obtain ⟨known, found, moves, full⟩ := exceeds
    intro within
    have length := within message.channelId
    rw [MessageLog.length_messagesOf] at full length
    simp only [step, deliver, MessageLog.deliver, found, moves, if_false] at length
    rw [MessageLog.lengthOf_append, if_pos rfl, hs.lengthOf_remove found moves] at length
    omega
  | _ => exact exceeds.elim

/-- In every run with a positive limit, the histories are within the limit all along
if and only if no known message is delivered under another channel that is full. -/
theorem within_limit_iff (settings : Settings) (limited : 0 < settings.maxMessagesPerChannel)
    (changes : List Change) :
    (∀ n, (run settings (changes.take n) {}).log.WithinLimit settings.maxMessagesPerChannel) ↔
      ∀ n change, changes[n]? = some change →
        ¬Overfills settings (run settings (changes.take n) {}) change := by
  have next : ∀ n change, changes[n]? = some change → run settings (changes.take (n + 1)) {} =
      step settings (run settings (changes.take n) {}) change := by
    intro n change made
    rw [List.take_add_one, made, run_append]
    rfl
  constructor
  · intro within n change made exceeds
    refine not_withinLimit_of_overfills (sound_run settings _) exceeds ?_
    rw [← next n change made]
    exact within (n + 1)
  · intro fits n
    induction n with
    | zero => exact MessageLog.withinLimit_empty limited
    | succ n ih =>
      cases made : changes[n]? with
      | none => rwa [List.take_add_one, made, Option.toList_none, List.append_nil]
      | some change =>
        rw [next n change made]
        exact withinLimit_step limited ih (fits n change made)

/-- With two lines kept, there is room for the message that moves into the lobby, and
the next line evicts the oldest. -/
theorem within_limit_with_room :
    let settings : Settings := { maxMessagesPerChannel := 2 }
    let changes : List Change := [.deliver { msgId := 1 }, .deliver { msgId := 2, channelId := 5 },
      .deliver { msgId := 2 }, .narrate lobby "Ada joined" 0]
    0 < settings.maxMessagesPerChannel ∧
    ∀ n, (run settings (changes.take n) {}).log.WithinLimit settings.maxMessagesPerChannel := by
  intro settings changes
  refine ⟨by decide, (within_limit_iff settings (by decide) changes).2 ?_⟩
  intro n change made exceeds
  rcases n with _ | _ | _ | _ | n
  · cases made
    obtain ⟨known, found, -⟩ := exceeds
    have unknown : (run settings (changes.take 0) {}).log.find? 1 = none := by decide +kernel
    exact absurd (unknown.symm.trans found) nofun
  · cases made
    obtain ⟨known, found, -⟩ := exceeds
    have unknown : (run settings (changes.take 1) {}).log.find? 2 = none := by decide +kernel
    exact absurd (unknown.symm.trans found) nofun
  · cases made
    obtain ⟨known, -, -, full⟩ := exceeds
    exact absurd full (by decide +kernel)
  · cases made
    exact exceeds
  · cases made

/-- With one line kept, a message that is moved into the channel of another one. -/
theorem overfilled_by_move :
    let settings : Settings := { maxMessagesPerChannel := 1 }
    let changes : List Change := [.deliver { msgId := 1 }, .deliver { msgId := 2, channelId := 5 },
      .deliver { msgId := 2 }]
    0 < settings.maxMessagesPerChannel ∧
    ((run settings changes {}).log.messagesOf lobby).map Message.msgId = [1, 2] ∧
    ¬(run settings changes {}).log.WithinLimit settings.maxMessagesPerChannel := by
  intro settings changes
  have both : ((run settings changes {}).log.messagesOf lobby).map Message.msgId = [1, 2] := by
    decide +kernel
  refine ⟨by decide, both, fun within => ?_⟩
  have length := within lobby
  rw [← List.length_map Message.msgId, both] at length
  exact absurd length (by decide)

end Store

end VoiceChat
