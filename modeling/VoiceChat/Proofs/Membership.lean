import VoiceChat.Proofs.MessageContent

/-!
# Where the users are

Rosters, joins, departures and moves write the channels of the users, each by a rule of its
own: a roster overwrites what its rows report and keeps the rest, a join only fills in the
lobby, a departure forgets. In a session that is given no commands this comes to one rule
(`membership_by_history`): the channel of a user is that of the last report since the user
left last, and the lobby without a report.
-/

namespace VoiceChat

/-- Of the entries that fill a table the last one at a key counts. -/
theorem Table.get?_ofList {κ α : Type} [DecidableEq κ] (entries : List (κ × α)) (k : κ) :
    (ofList entries).get? k = latest (fun e => if e.1 = k then some e.2 else none) entries := by
  induction entries using List.reverseRecOn with
  | nil => rfl
  | append_singleton entries e ih =>
    rw [latest_concat, ← ih, ofList, List.foldl_concat, get?_insert, ← ofList]
    by_cases here : k = e.1
    · simp [here]
    · simp [here, Ne.symm here]

/-! ## Reports -/

/-- The channel that a row of a roster reports the user `id` to be in. -/
def RosterEntry.report? (id : Int) (entry : RosterEntry) : Option Int :=
  if entry.id = id then entry.channelId else none

namespace Event.Body

/-- The channel that an event reports the user `id` to be in; the last row of a roster that
names one counts. -/
def report? (id : Int) : Event.Body → Option Int
  | .memberMoved user channel => if user = id then some channel else none
  | .rosterReplaced entries => latest (RosterEntry.report? id) entries
  | _ => none

/-- Whether the user `id` leaves with an event. -/
def leaves (id : Int) : Event.Body → Bool
  | .userLeft user => user = id
  | _ => false

end Event.Body

/-- The events since the user `id` left last. -/
def sinceLeft (id : Int) (events : List Event.Body) : List Event.Body :=
  events.rtakeWhile fun body => !body.leaves id

/-- Where events report the user `id` to be. -/
def reportedChannel (id : Int) (events : List Event.Body) : Int :=
  (latest (Event.Body.report? id) (sinceLeft id events)).getD lobby

@[simp] theorem reportedChannel_concat (id : Int) (events : List Event.Body) (body : Event.Body) :
    reportedChannel id (events ++ [body]) =
      if body.leaves id then lobby else (body.report? id).getD (reportedChannel id events) := by
  unfold reportedChannel
  cases leaves : body.leaves id with
  | true => simp [sinceLeft, leaves]
  | false =>
    have more : sinceLeft id (events ++ [body]) = sinceLeft id events ++ [body] := by
      simp [sinceLeft, leaves]
    cases reports : body.report? id <;> simp [more, reports]

namespace Store

variable {s : Store}

/-! ## Channels -/

theorem getD_foldl_seat {reported : Table Int Int} {id : Int} (silent : reported.get? id = none)
    (users : List User) (seats : Table Int Int) :
    ((users.foldl (seat reported) seats).get? id).getD lobby = (seats.get? id).getD lobby := by
  induction users generalizing seats with
  | nil => rfl
  | cons user users ih =>
    rw [List.foldl_cons, ih, get?_seat]
    split <;> simp [silent]

theorem get?_reported (entries : List RosterEntry) (id : Int) :
    (Table.ofList (entries.filterMap fun entry => entry.channelId.map (entry.id, ·))).get? id =
      latest (RosterEntry.report? id) entries := by
  rw [Table.get?_ofList, latest_filterMap]
  congr 1
  funext entry
  cases channel : entry.channelId <;> simp [RosterEntry.report?, channel]

/-- A roster moves the users to the channels that it reports, and nobody else. -/
theorem channelOf_replaceRoster (entries : List RosterEntry) (id : Int) :
    (s.replaceRoster entries).channelOf id =
      (latest (RosterEntry.report? id) entries).getD (s.channelOf id) := by
  have reported := get?_reported entries id
  simp only [replaceRoster, replaceUsers, channelOf]
  cases report : latest (RosterEntry.report? id) entries with
  | none => exact getD_foldl_seat (reported.trans report) _ _
  | some channel =>
    obtain ⟨entry, mem, reports⟩ := mem_of_latest report
    have listed : ∃ user ∈ entries.map RosterEntry.toUser, user.id = id := by
      refine ⟨entry.toUser, List.mem_map_of_mem mem, ?_⟩
      by_contra other
      simp [RosterEntry.report?, other] at reports
    obtain ⟨seated, found, agrees⟩ := isSeated_foldl (.inl listed)
    rw [reported, report, Option.getD_some] at agrees
    rw [found, agrees]
    rfl

theorem channelOf_meet (settings : Settings) (now : Int) (body : Event.Body) (id : Int) :
    (s.meet settings now body).channelOf id =
      if body.leaves id then lobby else (body.report? id).getD (s.channelOf id) := by
  cases body with
  | rosterReplaced entries => exact channelOf_replaceRoster entries id
  | userJoined user username role =>
    show ((s.userChannels.insertNew user lobby).get? id).getD lobby = s.channelOf id
    rw [Table.get?_insertNew]
    split
    · next here => rw [here, Option.getD_some, channelOf]
    · rfl
  | userLeft user =>
    show ((s.userChannels.erase user).get? id).getD lobby = _
    rw [Table.get?_erase]
    by_cases here : user = id
    · simp [Event.Body.leaves, here]
    · simp [Event.Body.leaves, Event.Body.report?, here, Ne.symm here, channelOf]
  | memberMoved user channel =>
    show ((s.userChannels.insert user channel).get? id).getD lobby = _
    rw [Table.get?_insert]
    by_cases here : user = id
    · simp [Event.Body.leaves, Event.Body.report?, here]
    · simp [Event.Body.leaves, Event.Body.report?, here, Ne.symm here, channelOf]
  | typingSignalled =>
    simp only [meet, noteSignal]
    split <;> rfl
  | _ => rfl

/-! ## Seats -/

/-- Every user of the roster has a seat. -/
def Seated (s : Store) : Prop :=
  ∀ id, (s.users.get? id).isSome = true → (s.userChannels.get? id).isSome = true

theorem seated_replaceRoster (entries : List RosterEntry) : (s.replaceRoster entries).Seated := by
  intro id listed
  obtain ⟨user, listed⟩ := Option.isSome_iff_exists.1 listed
  rw [replaceRoster, replaceUsers, Table.get?_ofList] at listed
  obtain ⟨row, written, same⟩ := mem_of_latest listed
  obtain ⟨other, mem, rfl⟩ := List.mem_map.1 written
  have here : other.id = id := by
    by_contra apart
    simp [apart] at same
  obtain ⟨channel, found, -⟩ := isSeated_foldl (.inl ⟨other, mem, here⟩)
  exact Option.isSome_iff_exists.2 ⟨channel, found⟩

theorem Seated.meet (hs : s.Seated) (settings : Settings) (now : Int) (body : Event.Body) :
    (s.meet settings now body).Seated := by
  intro id
  have known := hs id
  cases body with
  | rosterReplaced entries => exact seated_replaceRoster entries id
  | userJoined user username role =>
    simp only [Store.meet, upsertUser, Table.get?_insert, Table.get?_insertNew]
    split
    · simp
    · exact known
  | userLeft user =>
    simp only [Store.meet, removeUser, Table.get?_erase]
    split
    · simp
    · exact known
  | userRenamed user username =>
    simp only [Store.meet, renameUser, Table.get?_modify]
    split
    · simpa using known
    · exact known
  | memberMoved user channel =>
    simp only [Store.meet, moveUser, Table.get?_insert]
    split
    · simp
    · exact known
  | typingSignalled =>
    simp only [Store.meet, noteSignal]
    split <;> exact known
  | _ => exact known

/-- The users are where they were last reported, and those of the roster have a seat. -/
structure Placed (before : List Arrival) (s : Store) : Prop where
  channels : ∀ id, s.channelOf id = reportedChannel id (before.map Arrival.body)
  seated : s.Seated

theorem Placed.received {before : List Arrival} (hs : Placed before s) (settings : Settings)
    (viewed : Int) (arrival : Arrival) :
    Placed (before ++ [arrival]) (s.receiveLive settings viewed arrival.now arrival.body) := by
  have same := s.meets settings viewed arrival.now arrival.body
  constructor
  · intro id
    rw [List.map_append, List.map_singleton, reportedChannel_concat, ← hs.channels, channelOf,
      same.userChannels]
    exact channelOf_meet settings arrival.now arrival.body id
  · intro id
    rw [same.users, same.userChannels]
    exact hs.seated.meet settings arrival.now arrival.body id

end Store

namespace Session

/-- In a session that is given no commands, whatever arrives and in whatever order, a user is in
the channel of the last report since the user left last, and in the lobby without one. Every
user of the roster has exactly one entry among the channels. A roster that does not report a
user's channel does not change it. -/
theorem membership_by_history (settings : Settings) (actions : List Action)
    (inputs : ∀ a ∈ actions, a.isCommand = false) :
    let s := run settings actions {}
    (∀ id, s.store.channelOf id = reportedChannel id ((arrived actions).map Arrival.body)) ∧
    (∀ id ∈ s.store.users.keys, s.store.userChannels.keys.count id = 1) ∧
    ∀ server entries now id,
      (∀ entry ∈ entries, entry.id = id → entry.channelId = none) →
      (s.receive settings now ⟨server, .rosterReplaced entries⟩).store.channelOf id =
        s.store.channelOf id := by
  intro s
  have placed : s.store.Placed (arrived actions) :=
    store_of_inputs inputs ⟨fun _ => rfl, nofun⟩
      (fun _ _ viewed arrival hs => hs.received settings viewed arrival)
      fun _ _ _ hs => ⟨hs.channels, hs.seated⟩
  refine ⟨placed.channels, ?_, ?_⟩
  · intro id listed
    have seat := placed.seated id (Table.get?_isSome_iff.2 listed)
    exact List.count_eq_one_of_mem s.store.userChannels.nodup (Table.get?_isSome_iff.1 seat)
  · intro server entries now id silent
    have unreported : latest (RosterEntry.report? id) entries = none := by
      refine latest_eq_none_iff.2 fun entry mem => ?_
      unfold RosterEntry.report?
      split
      · next here => exact silent entry mem here
      · rfl
    rw [(gone_inputs settings inputs).store_receive]
    exact (Store.channelOf_replaceRoster entries id).trans (by rw [unreported]; rfl)

/-- User 7 is moved before the roster knows of it, comes with a roster that has two rows for it,
and is listed without a channel later. User 8 leaves, and comes back to the lobby. -/
theorem seats_after_departure :
    let event (body : Event.Body) : Action := .event ⟨"a:1", body⟩ 1
    let row (id : Int) (channelId : Option Int) : RosterEntry :=
      { id, username := "Ada", channelId }
    let actions := [event (.memberMoved 7 2), event (.userJoined 7 "Ada" none),
      event (.rosterReplaced [row 7 (some 5), row 8 (some 3), row 7 (some 6)]),
      event (.rosterReplaced [row 7 none, row 8 none]), event (.userLeft 8), .view 3,
      event (.rosterReplaced [row 7 none]), event (.userJoined 8 "Bob" none)]
    let s := run {} actions {}
    (∀ a ∈ actions, a.isCommand = false) ∧ s.store.channelOf 7 = 6 ∧ s.store.channelOf 8 = 0 ∧
    s.store.userChannels.keys.count 8 = 1 ∧
    (s.receive {} 9 ⟨"", .rosterReplaced [row 8 (some 4)]⟩).store.channelOf 7 = 6 := by
  intro event row actions s
  dsimp only [s]
  have inputs : ∀ a ∈ actions, a.isCommand = false := by decide
  obtain ⟨channels, entry, kept⟩ := membership_by_history {} actions inputs
  have seven := (channels 7).trans (show _ = 6 by decide +kernel)
  have eight := (channels 8).trans (show _ = 0 by decide +kernel)
  have listed : 8 ∈ (run {} actions {}).store.users.keys := by decide +kernel
  have still := kept "" [row 8 (some 4)] 9 7 (by decide)
  exact ⟨inputs, seven, eight, entry 8 listed, still.trans seven⟩

end Session

end VoiceChat
