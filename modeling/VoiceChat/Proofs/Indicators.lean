import VoiceChat.Proofs.MessageContent

/-!
# Who is typing and who is speaking

A typing signal is filed when it arrives, unless it is one's own, and a filed signal is shown
until it expires, unless it is one's own by then. Which user one is may have changed between the
two, and the clock may have gone back. In a session that is given no commands the history of
events tells what is shown all the same (`indicators_by_history`): the last signal of a user
counts that was not one's own when it arrived, and of a speaker the last sound.
-/

namespace VoiceChat

/-! ## What arrives of a user -/

/-- A typing signal, as it arrives. -/
structure Signal where
  username : Text
  channelId : Int
  now : Int
deriving DecidableEq, Repr

/-- How the signal of the user `id` is filed. -/
def Signal.entry (settings : Settings) (id : Int) (signal : Signal) : TypingEntry where
  userId := id
  username := signal.username
  channelId := signal.channelId
  expiresAt := signal.now + settings.typingTtlMs

namespace Arrival

/-- The user that an event says one is. -/
def self? (arrival : Arrival) : Option Int :=
  match arrival.body with
  | .selfIdentified id => some id
  | _ => none

/-- The typing signal of the user `id`, unless one is that user. -/
def signal? (self : Option Int) (id : Int) (arrival : Arrival) : Option Signal :=
  match arrival.body with
  | .typingSignalled user username channelId =>
    if user = id ∧ self ≠ some id then some ⟨username, channelId, arrival.now⟩ else none
  | _ => none

/-- When the user `id` is heard speaking. -/
def spoken? (id : Int) (arrival : Arrival) : Option Int :=
  match arrival.body with
  | .speaking user => if user = id then some arrival.now else none
  | _ => none

end Arrival

/-- The user that one is, as far as events have said. -/
def selfAfter (arrivals : List Arrival) : Option Int := latest Arrival.self? arrivals

/-- The typing signal of the user `id` at position `i`, unless one was that user by then. -/
def signalAt? (id : Int) (arrivals : List Arrival) (i : Nat) : Option Signal :=
  arrivals[i]?.bind (Arrival.signal? (selfAfter (arrivals.take i)) id)

/-- The last typing signal of the user `id` that was not one's own when it arrived. -/
def lastSignal (id : Int) (arrivals : List Arrival) : Option Signal :=
  latest (signalAt? id arrivals) (List.range arrivals.length)

/-- When the user `id` was heard speaking last. -/
def lastSpoken (id : Int) (arrivals : List Arrival) : Option Int :=
  latest (Arrival.spoken? id) arrivals

theorem selfAfter_concat (before : List Arrival) (arrival : Arrival) :
    selfAfter (before ++ [arrival]) = arrival.self?.or (selfAfter before) :=
  latest_concat _ before arrival

theorem lastSpoken_concat (id : Int) (before : List Arrival) (arrival : Arrival) :
    lastSpoken id (before ++ [arrival]) = (arrival.spoken? id).or (lastSpoken id before) :=
  latest_concat _ before arrival

theorem lastSignal_concat (id : Int) (before : List Arrival) (arrival : Arrival) :
    lastSignal id (before ++ [arrival]) =
      (arrival.signal? (selfAfter before) id).or (lastSignal id before) := by
  have last : signalAt? id (before ++ [arrival]) before.length =
      arrival.signal? (selfAfter before) id := by
    simp [signalAt?]
  have earlier : latest (signalAt? id (before ++ [arrival])) (List.range before.length) =
      lastSignal id before := by
    refine latest_congr fun i mem => ?_
    have inside : i < before.length := List.mem_range.1 mem
    rw [signalAt?, List.getElem?_append_left inside,
      List.take_append_of_le_length (Nat.le_of_lt inside), signalAt?]
  rw [lastSignal, List.length_append, List.length_singleton, List.range_succ, latest_concat, last,
    earlier]

namespace Store

variable {settings : Settings} {s : Store}

/-! ## What is filed -/

theorem typing_noteSignal (now user : Int) (username : Text) (channelId id : Int) :
    (s.noteSignal settings now user username channelId).typing.get? id =
      (((⟨.typingSignalled user username channelId, now⟩ : Arrival).signal? s.selfId id).map
        (Signal.entry settings id)).or (s.typing.get? id) := by
  by_cases here : user = id
  · subst here
    by_cases own : s.selfId = some user
    · simp [noteSignal, Arrival.signal?, own]
    · simp [noteSignal, noteTyping, Arrival.signal?, own, Signal.entry]
  · unfold noteSignal
    split
    · simp [Arrival.signal?, here]
    · simp [noteTyping, Arrival.signal?, here, Table.get?_insert, Ne.symm here]

/-- What is filed is what has arrived. -/
structure Indicates (settings : Settings) (before : List Arrival) (s : Store) : Prop where
  self : s.selfId = selfAfter before
  typing : ∀ id, s.typing.get? id = (lastSignal id before).map (Signal.entry settings id)
  speaking : ∀ id,
    s.speaking.get? id = (lastSpoken id before).map (· + settings.speakingTtlMs)

/-- What an arrival makes of the indicators. -/
theorem indicators_meet (settings : Settings) (s : Store) (arrival : Arrival) :
    let t := s.meet settings arrival.now arrival.body
    t.selfId = arrival.self?.or s.selfId ∧
    (∀ id, t.typing.get? id =
      ((arrival.signal? s.selfId id).map (Signal.entry settings id)).or (s.typing.get? id)) ∧
    ∀ id, t.speaking.get? id =
      ((arrival.spoken? id).map (· + settings.speakingTtlMs)).or (s.speaking.get? id) := by
  obtain ⟨body, now⟩ := arrival
  cases body with
  | typingSignalled user username channelId =>
    have rest : (s.noteSignal settings now user username channelId).selfId = s.selfId ∧
        (s.noteSignal settings now user username channelId).speaking = s.speaking := by
      unfold noteSignal
      split <;> exact ⟨rfl, rfl⟩
    exact ⟨rest.1, typing_noteSignal now user username channelId,
      fun id => congrArg (Table.get? · id) rest.2⟩
  | speaking user =>
    refine ⟨rfl, fun _ => rfl, fun id => ?_⟩
    show (s.speaking.insert user _).get? id = _
    rw [Table.get?_insert]
    by_cases here : user = id
    · simp [Arrival.spoken?, here]
    · simp [Arrival.spoken?, here, Ne.symm here]
  | _ => exact ⟨rfl, fun _ => rfl, fun _ => rfl⟩

theorem Indicates.received {before : List Arrival} (hs : s.Indicates settings before)
    (viewed : Int) (arrival : Arrival) :
    (s.receiveLive settings viewed arrival.now arrival.body).Indicates settings
      (before ++ [arrival]) := by
  have same := s.meets settings viewed arrival.now arrival.body
  obtain ⟨self, typing, speaking⟩ := indicators_meet settings s arrival
  refine ⟨?_, fun id => ?_, fun id => ?_⟩
  · rw [same.selfId, self, hs.self, selfAfter_concat]
  · rw [same.typing, typing, hs.typing, hs.self, lastSignal_concat, Option.map_or]
  · rw [same.speaking, speaking, hs.speaking, lastSpoken_concat, Option.map_or]

/-! ## What is shown -/

theorem get?_visibleTyping {now channel id : Int} {entry : TypingEntry} :
    (s.visibleTyping now channel).get? id = some entry ↔
      s.typing.get? id = some entry ∧ now < entry.expiresAt ∧ entry.channelId = channel ∧
        s.selfId ≠ some id := by
  have other : some id ≠ (none : Option Int).or s.selfId ↔ s.selfId ≠ some id := ne_comm
  rw [visibleTyping, Table.get?_filter, Option.filter_eq_some_iff, decide_eq_true_eq, other]

theorem mem_speakers {now id : Int} :
    id ∈ s.speakers now ↔ ∃ expiresAt, s.speaking.get? id = some expiresAt ∧ now < expiresAt := by
  rw [speakers, IntSet.mem_ofList, ← Table.get?_isSome_iff, Table.get?_filter,
    Option.isSome_iff_exists]
  simp [Option.filter_eq_some_iff]

end Store

namespace Session

/-- In a session that is given no commands, whatever arrives at whatever clock readings, a user
is shown as typing in a channel exactly if one is not that user, and the user's last signal that
was not one's own when it arrived is for that channel and has not expired; it is shown under the
name that the signal gave. A user is shown as speaking exactly until the last sound of the user
expires. -/
theorem indicators_by_history (settings : Settings) (actions : List Action)
    (inputs : ∀ a ∈ actions, a.isCommand = false) :
    let s := (run settings actions {}).store
    let arrivals := arrived actions
    s.selfId = selfAfter arrivals ∧
    (∀ now channel id entry, (s.visibleTyping now channel).get? id = some entry ↔
      s.selfId ≠ some id ∧ ∃ signal, lastSignal id arrivals = some signal ∧
        signal.channelId = channel ∧ now < signal.now + settings.typingTtlMs ∧
        entry = signal.entry settings id) ∧
    ∀ now id, id ∈ s.speakers now ↔
      ∃ spoken, lastSpoken id arrivals = some spoken ∧ now < spoken + settings.speakingTtlMs := by
  intro s arrivals
  have told : s.Indicates settings arrivals :=
    store_of_inputs inputs ⟨rfl, fun _ => rfl, fun _ => rfl⟩
      (fun _ _ viewed arrival hs => hs.received viewed arrival)
      fun _ _ _ hs => ⟨hs.self, hs.typing, hs.speaking⟩
  refine ⟨told.self, fun now channel id entry => ?_, fun now id => ?_⟩
  · rw [Store.get?_visibleTyping, told.typing, Option.map_eq_some_iff]
    constructor
    · rintro ⟨⟨signal, last, rfl⟩, unexpired, here, other⟩
      exact ⟨other, signal, last, here, unexpired, rfl⟩
    · rintro ⟨other, signal, last, here, unexpired, rfl⟩
      exact ⟨⟨signal, last, rfl⟩, unexpired, here, other⟩
  · rw [Store.mem_speakers, told.speaking]
    simp

/-- User 7 types in channel 2, and with the clock gone back in channel 5. What 7 types while
that is oneself does not count. User 9 is heard again, with the clock gone back. -/
theorem typing_after_clock_goes_back :
    let event (body : Event.Body) (now : Int) : Action := .event ⟨"a:1", body⟩ now
    let actions := [event (.typingSignalled 7 "Ada" 2) 10000,
      event (.typingSignalled 7 "Ada L." 5) 4000, event (.selfIdentified 7) 4001,
      event (.typingSignalled 7 "me" 2) 4002, event (.selfIdentified 8) 4003, .view 5,
      event (.speaking 9) 4900, event (.speaking 9) 4100]
    let s := (run {} actions {}).store
    (∀ a ∈ actions, a.isCommand = false) ∧
    (s.visibleTyping 8999 5).get? 7 = some ⟨7, "Ada L.", 5, 9000⟩ ∧
    (s.visibleTyping 8999 2).get? 7 = none ∧ (s.visibleTyping 9000 5).get? 7 = none ∧
    9 ∈ s.speakers 4599 ∧ 9 ∉ s.speakers 4600 := by
  intro event actions s
  have inputs : ∀ a ∈ actions, a.isCommand = false := by decide
  obtain ⟨self, typing, speaking⟩ := indicators_by_history {} actions inputs
  have last : lastSignal 7 (arrived actions) = some ⟨"Ada L.", 5, 4000⟩ := by decide +kernel
  have spoken : lastSpoken 9 (arrived actions) = some 4100 := by decide +kernel
  have other : s.selfId ≠ some 7 := by
    rw [self]
    decide +kernel
  refine ⟨inputs, ?_, ?_, ?_, ?_, ?_⟩
  · exact (typing 8999 5 7 _).2 ⟨other, _, last, rfl, by decide, rfl⟩
  · refine Option.eq_none_iff_forall_ne_some.2 fun entry shown => ?_
    obtain ⟨-, signal, last', here, -⟩ := (typing 8999 2 7 entry).1 shown
    obtain rfl := Option.some.inj (last.symm.trans last')
    cases here
  · refine Option.eq_none_iff_forall_ne_some.2 fun entry shown => ?_
    obtain ⟨-, signal, last', -, unexpired, -⟩ := (typing 9000 5 7 entry).1 shown
    obtain rfl := Option.some.inj (last.symm.trans last')
    exact absurd unexpired (by decide)
  · exact (speaking 4599 9).2 ⟨4100, spoken, by decide⟩
  · intro heard
    obtain ⟨time, last', unexpired⟩ := (speaking 4600 9).1 heard
    obtain rfl := Option.some.inj (spoken.symm.trans last')
    exact absurd unexpired (by decide)

end Session

end VoiceChat
