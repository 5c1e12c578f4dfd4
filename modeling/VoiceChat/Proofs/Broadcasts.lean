import VoiceChat.Proofs.MessageContent

/-!
# Videos and recordings

A video is known only while it is on. Switching it on again keeps the layers that its publisher
has offered, switching it off forgets them, and an offer for a video that is off is ignored. So
the layers are those of the last offer since the video was switched on, which is not the last
switch but the first after the video went off last (`videoRun`). In a session that is given no
commands this gives all videos and recordings by the history of events
(`broadcasts_by_history`).
-/

namespace VoiceChat

/-! ## What events say about a video -/

/-- Whether a video is on, and whether it shows a screen. -/
structure VideoSwitch where
  active : Bool
  screenShare : Bool
deriving DecidableEq, Repr

namespace Event.Body

/-- What an event says about the video of the user `id`. -/
def videoSwitch? (id : Int) : Event.Body → Option VideoSwitch
  | .videoChanged user active screenShare =>
    if user = id then some ⟨active, screenShare⟩ else none
  | _ => none

def startsVideo (id : Int) (body : Event.Body) : Bool := (body.videoSwitch? id).any (·.active)

def endsVideo (id : Int) (body : Event.Body) : Bool := (body.videoSwitch? id).any (!·.active)

/-- The layers that an event offers for the video of the user `id`. -/
def layers? (id : Int) : Event.Body → Option (List VideoLayer)
  | .videoLayersOffered user layers => if user = id then some layers else none
  | _ => none

/-- What an event says about the recording of a channel. -/
def recording? (channel : Int) : Event.Body → Option RecordingState
  | .recordingChanged place recording startedBy =>
    if place = channel then some { recording, startedBy } else none
  | _ => none

theorem layers?_of_videoSwitch? {id : Int} {body : Event.Body} {switch : VideoSwitch}
    (h : body.videoSwitch? id = some switch) : body.layers? id = none := by
  cases body <;> first | rfl | cases h

/-- What an event leaves of what was known of the video of the user `id`. -/
def followVideo (id : Int) (known : Option VideoState) (body : Event.Body) : Option VideoState :=
  match body.videoSwitch? id with
  | some ⟨true, screenShare⟩ =>
    some { screenShare, layers := (known.map VideoState.layers).getD [] }
  | some ⟨false, _⟩ => none
  | none => known.map fun video => { video with layers := (body.layers? id).getD video.layers }

/-- What an event leaves of what was known of the recording of a channel. -/
def followRecording (channel : Int) (known : Option RecordingState) (body : Event.Body) :
    Option RecordingState :=
  match body.recording? channel with
  | some state => if state.recording then some state else none
  | none => known

theorem followVideo_of_silent {id : Int} {body : Event.Body} (switch : body.videoSwitch? id = none)
    (layers : body.layers? id = none) (known : Option VideoState) :
    body.followVideo id known = known := by
  rw [followVideo, switch, layers]
  cases known <;> rfl

end Event.Body

/-! ## While a video is on -/

/-- The events since the video of the user `id` went off last. -/
def sinceVideoEnd (id : Int) (events : List Event.Body) : List Event.Body :=
  events.rtakeWhile fun body => !body.endsVideo id

/-- Of the events since the video of the user `id` went off last, those from the first on that
switches it on. -/
def videoRun (id : Int) (events : List Event.Body) : List Event.Body :=
  (sinceVideoEnd id events).dropWhile fun body => !body.startsVideo id

/-- The layers offered last since the video of the user `id` was switched on. -/
def offeredLayers (id : Int) (events : List Event.Body) : List VideoLayer :=
  (latest (Event.Body.layers? id) (videoRun id events)).getD []

/-- The video of the user `id`, as far as events have said: nothing, if the last switch is
off. -/
def videoAfter (id : Int) (events : List Event.Body) : Option VideoState :=
  ((latest (Event.Body.videoSwitch? id) events).filter (·.active)).map fun switch =>
    { screenShare := switch.screenShare, layers := offeredLayers id events }

section

variable {id : Int} {events : List Event.Body} {body : Event.Body}

theorem videoRun_concat :
    videoRun id (events ++ [body]) =
      if body.endsVideo id then []
      else if videoRun id events = [] then if body.startsVideo id then [body] else []
      else videoRun id events ++ [body] := by
  unfold videoRun
  cases ends : body.endsVideo id with
  | true => simp [sinceVideoEnd, ends]
  | false =>
    have more : sinceVideoEnd id (events ++ [body]) = sinceVideoEnd id events ++ [body] := by
      simp [sinceVideoEnd, ends]
    rw [more, List.dropWhile_append]
    cases starts : body.startsVideo id <;> simp [starts, List.isEmpty_iff]

/-- The last switch is off, or there is none, as long as no event has switched the video on since
it went off. -/
theorem videoRun_eq_nil_iff :
    videoRun id events = [] ↔
      (latest (Event.Body.videoSwitch? id) events).filter (·.active) = none := by
  induction events using List.reverseRecOn with
  | nil => exact iff_of_true rfl rfl
  | append_singleton events body ih =>
    rw [videoRun_concat, latest_concat, Event.Body.endsVideo, Event.Body.startsVideo]
    cases told : body.videoSwitch? id with
    | none => by_cases off : videoRun id events = [] <;> simp [off, ← ih]
    | some switch =>
      cases on : switch.active with
      | false => simp [on]
      | true => by_cases off : videoRun id events = [] <;> simp [on, off]

/-- While a video is on, an offer takes the place of those before it. -/
theorem offeredLayers_concat (stays : body.endsVideo id = false) :
    offeredLayers id (events ++ [body]) =
      if videoRun id events = [] then [] else (body.layers? id).getD (offeredLayers id events) := by
  rw [offeredLayers, videoRun_concat, stays, if_neg Bool.false_ne_true]
  by_cases off : videoRun id events = []
  · rw [if_pos off, if_pos off]
    cases starts : body.startsVideo id with
    | false => rfl
    | true =>
      cases told : body.videoSwitch? id with
      | none => simp [Event.Body.startsVideo, told] at starts
      | some switch => simp [latest, Event.Body.layers?_of_videoSwitch? told]
  · rw [if_neg off, if_neg off, latest_concat, offeredLayers]
    cases body.layers? id <;> rfl

theorem offeredLayers_of_off (off : videoRun id events = []) : offeredLayers id events = [] := by
  rw [offeredLayers, off]
  rfl

theorem videoAfter_of_off (off : videoRun id events = []) : videoAfter id events = none := by
  rw [videoAfter, videoRun_eq_nil_iff.1 off]
  rfl

/-- A video that is off has no layers on offer. -/
theorem layers_videoAfter :
    ((videoAfter id events).map VideoState.layers).getD [] = offeredLayers id events := by
  cases on : (latest (Event.Body.videoSwitch? id) events).filter (·.active) with
  | none =>
    have off := videoRun_eq_nil_iff.2 on
    rw [videoAfter_of_off off, offeredLayers_of_off off]
    rfl
  | some switch =>
    rw [videoAfter, on]
    rfl

end

/-- The events make of a video what its last switch and the offers since it is on say. -/
theorem foldl_followVideo (id : Int) (events : List Event.Body) :
    events.foldl (Event.Body.followVideo id) none = videoAfter id events := by
  induction events using List.reverseRecOn with
  | nil => rfl
  | append_singleton events body ih =>
    rw [List.foldl_concat, ih, Event.Body.followVideo, layers_videoAfter]
    have after : videoAfter id (events ++ [body]) =
        (((body.videoSwitch? id).or (latest (Event.Body.videoSwitch? id) events)).filter
          (·.active)).map fun switch =>
            ⟨true, switch.screenShare, offeredLayers id (events ++ [body])⟩ := by
      rw [videoAfter, latest_concat]
    cases told : body.videoSwitch? id with
    | none =>
      -- the last switch stays, and offers count if it is on
      rw [told, Option.none_or] at after
      have stays : body.endsVideo id = false := by simp [Event.Body.endsVideo, told]
      by_cases off : videoRun id events = []
      · rw [after, videoAfter_of_off off, videoRun_eq_nil_iff.1 off]
        rfl
      · rw [after, videoAfter, offeredLayers_concat stays, if_neg off, Option.map_map]
        rfl
    | some switch =>
      obtain ⟨active, screenShare⟩ := switch
      rw [told, Option.some_or] at after
      cases active with
      | false => exact after.symm
      | true =>
        have stays : body.endsVideo id = false := by simp [Event.Body.endsVideo, told]
        have layers : offeredLayers id (events ++ [body]) = offeredLayers id events := by
          rw [offeredLayers_concat stays, Event.Body.layers?_of_videoSwitch? told]
          split
          · next off => exact (offeredLayers_of_off off).symm
          · rfl
        rw [layers] at after
        exact after.symm

/-- The events make of a recording what the last of them about it says. -/
theorem foldl_followRecording (channel : Int) (events : List Event.Body) :
    events.foldl (Event.Body.followRecording channel) none =
      (latest (Event.Body.recording? channel) events).filter (·.recording) := by
  induction events using List.reverseRecOn with
  | nil => rfl
  | append_singleton events body ih =>
    rw [List.foldl_concat, ih, latest_concat, Event.Body.followRecording]
    cases told : body.recording? channel with
    | none => rfl
    | some state => rfl

/-! ## What a store knows of them -/

namespace Store

variable {s : Store}

theorem broadcasts_announce (settings : Settings) (now : Int) (text : Text) (s : Store) :
    (s.announce settings now text).videos = s.videos ∧
      (s.announce settings now text).recordings = s.recordings := by
  unfold announce
  split <;> exact ⟨rfl, rfl⟩

theorem get?_videos_setVideo (id : Int) (active screenShare : Bool) (other : Int) :
    (s.setVideo id active screenShare none).videos.get? other =
      (Event.Body.videoChanged id active screenShare).followVideo other (s.videos.get? other) := by
  unfold setVideo
  by_cases here : id = other
  · subst here
    cases active <;> simp [Event.Body.followVideo, Event.Body.videoSwitch?, Table.get?_erase]
  · have silent : (Event.Body.videoChanged id active screenShare).videoSwitch? other = none :=
      if_neg here
    rw [Event.Body.followVideo_of_silent silent rfl]
    cases active <;> simp [Ne.symm here, Table.get?_erase, Table.get?_insert]

theorem get?_recordings_setRecording (channel : Int) (recording : Bool) (startedBy : Text)
    (other : Int) :
    (s.setRecording channel recording startedBy).recordings.get? other =
      (Event.Body.recordingChanged channel recording startedBy).followRecording other
        (s.recordings.get? other) := by
  unfold setRecording Event.Body.followRecording Event.Body.recording?
  by_cases here : channel = other
  · subst here
    cases recording <;> simp [Table.get?_erase]
  · cases recording <;> simp [here, Ne.symm here, Table.get?_erase, Table.get?_insert]

/-- Whether `t` knows of videos and recordings what an event leaves of what `s` knows of them. -/
structure Follows (body : Event.Body) (s t : Store) : Prop where
  videos : ∀ id, t.videos.get? id = body.followVideo id (s.videos.get? id)
  recordings : ∀ channel,
    t.recordings.get? channel = body.followRecording channel (s.recordings.get? channel)

theorem Follows.of_silent {body : Event.Body} {t : Store}
    (same : t.videos = s.videos ∧ t.recordings = s.recordings)
    (silent : ∀ id, body.videoSwitch? id = none ∧ body.layers? id = none ∧
      body.recording? id = none) : Follows body s t := by
  constructor
  · intro id
    rw [same.1, Event.Body.followVideo_of_silent (silent id).1 (silent id).2.1]
  · intro channel
    rw [same.2, Event.Body.followRecording, (silent channel).2.2]

theorem follows_receiveLive (settings : Settings) (viewed now : Int) (body : Event.Body)
    (s : Store) : Follows body s (s.receiveLive settings viewed now body) := by
  cases body with
  | videoChanged id active screenShare =>
    refine ⟨get?_videos_setVideo id active screenShare, fun channel => ?_⟩
    show (s.setVideo id active screenShare none).recordings.get? channel = _
    unfold setVideo
    split <;> rfl
  | videoLayersOffered id layers =>
    refine ⟨fun other => ?_, fun _ => rfl⟩
    show (s.videos.modify id fun video => { video with layers }).get? other = _
    rw [Table.get?_modify, Event.Body.followVideo]
    by_cases here : id = other
    · simp [Event.Body.videoSwitch?, Event.Body.layers?, here]
    · simp [Event.Body.videoSwitch?, Event.Body.layers?, here, Ne.symm here]
  | recordingChanged channel recording startedBy =>
    refine ⟨fun id => ?_, get?_recordings_setRecording channel recording startedBy⟩
    rw [Event.Body.followVideo_of_silent rfl rfl]
    show (s.setRecording channel recording startedBy).videos.get? id = _
    unfold setRecording
    split <;> rfl
  | userJoined | kicked => exact .of_silent (broadcasts_announce ..) fun _ => ⟨rfl, rfl, rfl⟩
  | userLeft id =>
    refine .of_silent ?_ fun _ => ⟨rfl, rfl, rfl⟩
    simp only [receiveLive, receive, leave]
    split
    · exact broadcasts_announce ..
    · exact ⟨rfl, rfl⟩
  | chatPosted p =>
    refine .of_silent ?_ fun _ => ⟨rfl, rfl, rfl⟩
    simp only [receiveLive, receive, post]
    split <;> exact ⟨rfl, rfl⟩
  | typingSignalled user username channelId =>
    refine .of_silent ?_ fun _ => ⟨rfl, rfl, rfl⟩
    simp only [receiveLive, receive, noteSignal]
    split <;> exact ⟨rfl, rfl⟩
  | _ => exact .of_silent ⟨rfl, rfl⟩ fun _ => ⟨rfl, rfl, rfl⟩

/-- What is known of the videos and recordings is what the events make of them. -/
structure Airs (events : List Event.Body) (s : Store) : Prop where
  videos : ∀ id, s.videos.get? id = events.foldl (Event.Body.followVideo id) none
  recordings : ∀ channel,
    s.recordings.get? channel = events.foldl (Event.Body.followRecording channel) none

theorem Airs.received {events : List Event.Body} (hs : s.Airs events) (settings : Settings)
    (viewed now : Int) (body : Event.Body) :
    (s.receiveLive settings viewed now body).Airs (events ++ [body]) := by
  obtain ⟨videos, recordings⟩ := follows_receiveLive settings viewed now body s
  constructor
  · intro id
    rw [videos, hs.videos, List.foldl_concat]
  · intro channel
    rw [recordings, hs.recordings, List.foldl_concat]

end Store

namespace Session

/-- In a session that is given no commands, whatever arrives and in whatever order, a user has a
video exactly if the last switch of it is on. It then shows a screen or not as that switch says,
and has the layers of the last offer among the events from the first switch on after the last
switch off, none without an offer. A channel has a recording exactly if the last event about it
says that it is running, and it was started by whom that event names. -/
theorem broadcasts_by_history (settings : Settings) (actions : List Action)
    (inputs : ∀ a ∈ actions, a.isCommand = false) :
    let s := (run settings actions {}).store
    let events := (arrived actions).map Arrival.body
    (∀ id video, s.videos.get? id = some video ↔
      ∃ screenShare, latest (Event.Body.videoSwitch? id) events = some ⟨true, screenShare⟩ ∧
        video = { active := true, screenShare, layers := offeredLayers id events }) ∧
    ∀ channel recording, s.recordings.get? channel = some recording ↔
      ∃ startedBy, latest (Event.Body.recording? channel) events = some ⟨true, startedBy⟩ ∧
        recording = { recording := true, startedBy } := by
  intro s events
  have airs : s.Airs events :=
    store_of_inputs (P := fun before s => s.Airs (before.map Arrival.body)) inputs
      ⟨fun _ => rfl, fun _ => rfl⟩
      (fun before _ viewed arrival hs => by
        rw [List.map_append]
        exact hs.received settings viewed arrival.now arrival.body)
      fun _ _ _ hs => ⟨hs.videos, hs.recordings⟩
  constructor
  · intro id video
    rw [airs.videos, foldl_followVideo, videoAfter, Option.map_eq_some_iff]
    constructor
    · rintro ⟨⟨active, screenShare⟩, switched, rfl⟩
      obtain ⟨last, on⟩ := Option.filter_eq_some_iff.1 switched
      obtain rfl : active = true := on
      exact ⟨screenShare, last, rfl⟩
    · rintro ⟨screenShare, last, rfl⟩
      exact ⟨_, Option.filter_eq_some_iff.2 ⟨last, rfl⟩, rfl⟩
  · intro channel recording
    rw [airs.recordings, foldl_followRecording, Option.filter_eq_some_iff]
    constructor
    · rintro ⟨last, running⟩
      obtain ⟨recording, startedBy⟩ := recording
      obtain rfl : recording = true := running
      exact ⟨startedBy, last, rfl⟩
    · rintro ⟨startedBy, last, rfl⟩
      exact ⟨last, rfl⟩

/-- User 7 offers layers too early, then while the video is on, and switches it on once more.
User 9 loses what it has offered when its video goes off, and offers again before it is on. -/
theorem layers_since_video_went_on :
    let event (body : Event.Body) : Action := .event ⟨"a:1", body⟩ 1
    let layer (quality : Text) : VideoLayer := ⟨quality, 1280, 720, 1500⟩
    let actions := [event (.videoLayersOffered 7 [layer "low"]),
      event (.videoChanged 7 true false), event (.videoChanged 9 true true),
      event (.videoLayersOffered 9 [layer "low"]),
      event (.videoLayersOffered 7 [layer "high", layer "low"]),
      event (.recordingChanged 5 true "Ada"), event (.videoChanged 7 true true),
      event (.videoChanged 9 false true), .view 5, event (.videoLayersOffered 9 [layer "high"]),
      event (.videoChanged 9 true false), event (.recordingChanged 6 true "Bob"),
      event (.recordingChanged 5 true "Eve"), event (.recordingChanged 6 false "Bob")]
    let s := (run {} actions {}).store
    (∀ a ∈ actions, a.isCommand = false) ∧
    s.videos.get? 7 = some ⟨true, true, [layer "high", layer "low"]⟩ ∧
    s.videos.get? 9 = some ⟨true, false, []⟩ ∧
    s.recordings.get? 5 = some ⟨true, "Eve"⟩ ∧ s.recordings.get? 6 = none := by
  intro event layer actions s
  have inputs : ∀ a ∈ actions, a.isCommand = false := by decide
  obtain ⟨videos, recordings⟩ := broadcasts_by_history {} actions inputs
  refine ⟨inputs, ?_, ?_, ?_, ?_⟩
  · exact (videos 7 _).2 ⟨true, by decide +kernel, by decide +kernel⟩
  · exact (videos 9 _).2 ⟨false, by decide +kernel, by decide +kernel⟩
  · exact (recordings 5 _).2 ⟨"Eve", by decide +kernel, rfl⟩
  · refine Option.eq_none_iff_forall_ne_some.2 fun recording known => ?_
    obtain ⟨startedBy, last, -⟩ := (recordings 6 recording).1 known
    have stopped : latest (Event.Body.recording? 6) ((arrived actions).map Arrival.body) =
      some ⟨false, "Bob"⟩ := by decide +kernel
    cases stopped.symm.trans last

end Session

end VoiceChat
