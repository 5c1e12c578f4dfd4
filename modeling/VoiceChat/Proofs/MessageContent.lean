import Mathlib.Data.List.DropRight
import Mathlib.Data.List.Induction
import VoiceChat.Proofs.HistoryWindow
import VoiceChat.Proofs.Independence
import VoiceChat.Proofs.Inputs

/-!
# What a message is made of

Without a limit, and in a session that is given no commands, the message that an id finds
is a function of the chat events about that id alone: the last delivery, with what the
events after it have said (`find?_run`). Each of them writes parts of its own, so that the
message can be read off part by part: the text from the last edit or deletion, the pin
from the last pin or unpin, and so on (`content_of_own_events`).
-/

namespace VoiceChat

/-- The last of the values that `f` reads from a list. -/
def latest {α β : Type} (f : α → Option β) (l : List α) : Option β := (l.filterMap f).getLast?

@[simp] theorem latest_nil {α β : Type} (f : α → Option β) : latest f [] = none := rfl

@[simp] theorem latest_concat {α β : Type} (f : α → Option β) (l : List α) (a : α) :
    latest f (l ++ [a]) = (f a).or (latest f l) := by
  cases read : f a <;> simp [latest, read]

theorem mem_of_latest {α β : Type} {f : α → Option β} {l : List α} {b : β}
    (h : latest f l = some b) : ∃ a ∈ l, f a = some b :=
  List.mem_filterMap.1 (List.mem_of_getLast? h)

theorem latest_eq_none_iff {α β : Type} {f : α → Option β} {l : List α} :
    latest f l = none ↔ ∀ a ∈ l, f a = none := by
  rw [latest, List.getLast?_eq_none_iff, List.filterMap_eq_nil_iff]

theorem latest_filterMap {α β γ : Type} (f : β → Option γ) (g : α → Option β) (l : List α) :
    latest f (l.filterMap g) = latest (fun a => (g a).bind f) l := by
  rw [latest, List.filterMap_filterMap, latest]

theorem latest_congr {α β : Type} {f g : α → Option β} {l : List α} (same : ∀ a ∈ l, f a = g a) :
    latest f l = latest g l := by
  rw [latest, List.filterMap_congr same, latest]

/-! ## Which message an id finds -/

namespace MessageLog

variable {log : MessageLog} {id : Int}

/-- An id finds the same message where the lines that answer to it are the same. -/
theorem find?_congr {other : MessageLog} (single : log.addressedIds.Nodup)
    (single' : other.addressedIds.Nodup)
    (same : ∀ line, line.answers id = true → (line ∈ log.lines ↔ line ∈ other.lines)) :
    log.find? id = other.find? id := by
  cases found : log.find? id with
  | none =>
    cases found' : other.find? id with
    | none => rfl
    | some message =>
      obtain ⟨line, mem, answers, rfl⟩ := exists_line_of_find? found'
      rw [find?_of_mem single ((same line answers).2 mem) answers] at found
      cases found
  | some message =>
    obtain ⟨line, mem, answers, rfl⟩ := exists_line_of_find? found
    exact (find?_of_mem single' ((same line answers).1 mem) answers).symm

/-- A change reaches the message that is found. -/
theorem find?_modify_self {f : Message → Message}
    (keeps : ∀ m, m.msgId = id → (f m).msgId = id) :
    (log.modify id f).find? id = (log.find? id).map f := by
  have same : (fun line : Line => line.answers id) ∘ amend id f = fun line => line.answers id := by
    funext line
    exact answers_amend keeps line id
  rw [find?, modify_eq, lines_mapLines, List.find?_map, same, Option.map_map, find?, Option.map_map]
  cases found : log.lines.find? fun line => line.answers id with
  | none => rfl
  | some line =>
    have answers : line.answers id = true := by simpa using List.find?_some found
    simp only [Option.map_some, Function.comp_apply, amend_of_answers answers]

/-- Narration is found under its number. Every other id finds what it found before. -/
theorem Sound.find?_narrate (hl : log.Sound) {limit : Int} (unlimited : limit ≤ 0) (channel : Int)
    (text : Text) (ts : Int) :
    (log.narrate limit channel text ts).find? id =
      if id = log.nextNarrationId then some (log.narration channel text ts) else log.find? id := by
  have single := (hl.narrate limit channel text ts).single
  rw [narrate_of_unlimited unlimited] at single ⊢
  split
  · next here =>
    subst here
    exact find?_of_mem single (mem_lines_append.2 (.inr rfl)) (Line.answers_iff.2 ⟨rfl, rfl⟩)
  · next other =>
    have counted : log.counted.lines = log.lines := rfl
    have kept (line : Line) (known : line.message.msgId = id) :
        MessageLog.retire [log.nextNarrationId] line = line :=
      if_neg (by simpa [known] using other)
    refine find?_congr single hl.single fun line answers => ?_
    -- a line that answers to another id is neither the new one nor one that was withdrawn
    have known := (Line.answers_iff.1 answers).2
    rw [mem_lines_append, withdraw_eq, lines_mapLines, counted, or_iff_left, List.mem_map]
    · constructor
      · rintro ⟨before, source, rfl⟩
        rw [retire_message] at known
        rwa [kept before known]
      · exact fun mem => ⟨line, mem, kept line known⟩
    · rintro rfl
      exact other known.symm

namespace Consistent

theorem find?_append (hl : log.Consistent) {message : Message} (fresh : message.msgId ∉ log.ids)
    (above : log.nextNarrationId < message.msgId) (apart : message.msgId ≠ id) :
    (log.append message).find? id = log.find? id := by
  refine find?_congr (hl.append fresh above).single hl.single fun line answers => ?_
  rw [mem_lines_append, or_iff_left]
  rintro rfl
  exact apart (Line.answers_iff.1 answers).2

theorem find?_remove (hl : log.Consistent) {other : Int} (apart : other ≠ id) :
    (log.remove other).find? id = log.find? id := by
  refine find?_congr (hl.remove other).single hl.single fun line answers => ?_
  rw [lines_remove, List.mem_filter, and_iff_left]
  have silent : line.answers other ≠ true := fun answers' =>
    apart ((Line.answers_iff.1 answers').2.symm.trans (Line.answers_iff.1 answers).2)
  simpa using silent

/-- Without a limit a delivery is not noticed by other ids. -/
theorem find?_deliver_of_ne (hl : log.Consistent) {limit : Int} (unlimited : limit ≤ 0)
    {message : Message} (natural : 0 ≤ message.msgId) (apart : message.msgId ≠ id) :
    (log.deliver limit message).1.find? id = log.find? id := by
  have above : log.nextNarrationId < message.msgId := Int.lt_of_lt_of_le hl.negative natural
  cases found : log.find? message.msgId with
  | none =>
    rw [hl.deliver_fresh limit natural found, add_of_unlimited unlimited]
    exact hl.find?_append (hl.find?_eq_none_iff.1 found) above apart
  | some known =>
    simp only [MessageLog.deliver, found]
    split
    · exact find?_modify (fun _ _ => rfl) apart.symm
    · exact ((hl.remove _).find?_append (hl.notMem_ids_remove _) above apart).trans
        (hl.find?_remove apart)

end Consistent

end MessageLog

/-! ## What the events about a message say -/

namespace Event.Body

/-- The message that an event delivers. -/
def post? : Event.Body → Option Post
  | .chatPosted post => some post
  | _ => none

/-- The text that an event gives its message; a deletion takes it away. -/
def text? : Event.Body → Option Text
  | .chatEdited _ text _ => some text
  | .chatDeleted _ => some ""
  | _ => none

/-- When an event says that its message was edited. -/
def editedAt? : Event.Body → Option Int
  | .chatEdited _ _ ts => some ts
  | _ => none

/-- Whether an event deletes its message. -/
def deletes : Event.Body → Bool
  | .chatDeleted _ => true
  | _ => false

/-- Whether an event says that its message is pinned. -/
def pinned? : Event.Body → Option Bool
  | .messagePinned .. => some true
  | .messageUnpinned _ => some false
  | _ => none

/-- The preview that an event finds for its message. -/
def preview? : Event.Body → Option LinkPreview
  | .linkPreviewed _ _ preview => some preview
  | _ => none

theorem post?_of_amendment? {body : Event.Body} {amendment : Int × (Message → Message)}
    (h : body.amendment? = some amendment) : body.post? = none := by
  cases body <;> cases h <;> rfl

end Event.Body

/-- The message as an event changes it that is about it. -/
def Message.amendedBy (m : Message) (body : Event.Body) : Message :=
  match body.amendment? with
  | some (_, change) => change m
  | none => m

/-- What an event leaves of what was known of the message that it is about. -/
def Event.Body.follow (known : Option Message) (body : Event.Body) : Option Message :=
  match body.post? with
  | some post => some post.toMessage
  | none => known.map (·.amendedBy body)

/-- The events after the last delivery. -/
def sincePost (events : List Event.Body) : List Event.Body :=
  events.rtakeWhile fun body => body.post?.isNone

/-- What is known at the end is the last delivery, changed by the events after it. -/
theorem foldl_follow (events : List Event.Body) :
    events.foldl Event.Body.follow none = (latest Event.Body.post? events).map fun post =>
      (sincePost events).foldl Message.amendedBy post.toMessage := by
  induction events using List.reverseRecOn with
  | nil => rfl
  | append_singleton events body ih =>
    -- a delivery forgets what was before it, any other event joins those since the last one
    rw [List.foldl_concat, ih, Event.Body.follow, latest_concat]
    cases posts : body.post? with
    | some post =>
      have none : sincePost (events ++ [body]) = [] := by simp [sincePost, posts]
      simp [none]
    | none =>
      have more : sincePost (events ++ [body]) = sincePost events ++ [body] := by
        simp [sincePost, posts]
      simp [more, Function.comp_def]

/-- The message that a post has become by later events, but for its reactions. -/
def Post.told (post : Post) (since : List Event.Body) (reactions : Table Text IntSet) :
    Message :=
  { post.toMessage with
    text := (latest Event.Body.text? since).getD post.text
    edited := (latest Event.Body.editedAt? since).isSome
    editedTs := latest Event.Body.editedAt? since
    deleted := since.any Event.Body.deletes
    pinned := (latest Event.Body.pinned? since).getD false
    linkPreview := latest Event.Body.preview? since
    reactions }

/-- Every event writes parts of its own. -/
theorem amendedBy_told (post : Post) (since : List Event.Body) (reactions : Table Text IntSet)
    (body : Event.Body) :
    (post.told since reactions).amendedBy body =
      post.told (since ++ [body]) ((post.told since reactions).amendedBy body).reactions := by
  cases body with
  | reactionRemoved msgId emoji user =>
    have amends : (Event.Body.reactionRemoved msgId emoji user).amendment? =
      some (msgId, (·.unreact emoji user)) := rfl
    simp only [Message.amendedBy, amends, Message.unreact]
    split <;> simp [Post.told, Event.Body.text?, Event.Body.editedAt?, Event.Body.deletes,
      Event.Body.pinned?, Event.Body.preview?]
  | _ =>
    simp [Message.amendedBy, Event.Body.amendment?, Event.Body.change?, Store.Change.amendment?,
      Post.told, Message.edit, Message.delete, Message.react, Event.Body.text?,
      Event.Body.editedAt?, Event.Body.deletes, Event.Body.pinned?, Event.Body.preview?]

theorem foldl_amendedBy (post : Post) (since : List Event.Body) :
    since.foldl Message.amendedBy post.toMessage =
      post.told since (since.foldl Message.amendedBy post.toMessage).reactions := by
  induction since using List.reverseRecOn with
  | nil => rfl
  | append_singleton since body ih =>
    rw [List.foldl_concat, ih]
    exact amendedBy_told post since _ body

/-! ## The message that an event is about -/

namespace Store

variable {settings : Settings} {log after : MessageLog} {now : Int} {body : Event.Body}

/-- Without a limit an event is noticed by the id that it is about, and by no other. -/
theorem Received.find? (h : Received settings log now body after) (hl : log.Consistent)
    (unlimited : settings.maxMessagesPerChannel ≤ 0) (natural : ∀ i ∈ body.postedId?, 0 ≤ i)
    {id : Int} (numbered : 0 ≤ id) :
    after.find? id =
      if body.about? = some id then body.follow (log.find? id) else log.find? id := by
  cases h with
  | posted post =>
    have about : (Event.Body.chatPosted post).about? = some post.msgId := rfl
    rw [about]
    by_cases here : post.msgId = id
    · subst here
      rw [if_pos rfl]
      exact hl.find?_deliver _ numbered
    · rw [if_neg fun same => here (Option.some.inj same)]
      exact hl.find?_deliver_of_ne unlimited (natural _ rfl) here
  | @amended _ target change amends =>
    have keeps (m : Message) (known : m.msgId = target) : (change m).msgId = target :=
      (Event.Body.amendment?_keeps amends m).1.trans known
    rw [Event.Body.about?_of_amendment? amends]
    by_cases here : target = id
    · subst here
      rw [if_pos rfl, MessageLog.find?_modify_self keeps, Event.Body.follow,
        Event.Body.post?_of_amendment? amends]
      simp only [Message.amendedBy, amends]
    · rw [if_neg fun same => here (Option.some.inj same)]
      exact MessageLog.find?_modify keeps (Ne.symm here)
  | narrated text unaddressed =>
    rw [if_neg (by rw [unaddressed]; nofun)]
    have other : id ≠ log.nextNarrationId :=
      Ne.symm (Int.ne_of_lt (Int.lt_of_lt_of_le hl.negative numbered))
    rw [hl.toSound.find?_narrate unlimited, if_neg other]
  | untouched unaddressed => rw [if_neg (by rw [unaddressed]; nofun)]

end Store

/-! ## The messages of a session that is given no commands -/

namespace Session

variable {settings : Settings} {actions : List Action} {s : Session}

/-- An event that is about the message `id`. -/
def Action.eventAbout? (id : Int) : Action → Option Event.Body
  | .event e _ => if e.body.about? = some id then some e.body else none
  | _ => none

/-- The chat events about the message `id`, in order. -/
def eventsAbout (id : Int) (actions : List Action) : List Event.Body :=
  actions.filterMap (Action.eventAbout? id)

theorem find?_step (gone : s.Gone) (consistent : s.store.log.Consistent)
    (unlimited : settings.maxMessagesPerChannel ≤ 0) {a : Action} (input : a.isCommand = false)
    (natural : ∀ i ∈ a.postedId?, 0 ≤ i) {id : Int} (numbered : 0 ≤ id) :
    (s.step settings a).store.log.find? id =
      (a.eventAbout? id).toList.foldl Event.Body.follow (s.store.log.find? id) := by
  cases a with
  | event e now =>
    have store : (s.step settings (.event e now)).store =
        s.store.receiveLive settings s.viewed now e.body := gone.store_receive e now
    have received := Store.receivedLive settings s.store s.viewed now e.body
    rw [store, received.find? consistent unlimited natural numbered, Action.eventAbout?]
    split <;> rfl
  | view | tick | cancelReconnect => rfl
  | _ => cases input

/-- The message that an id finds is what the events about it make of it, one after another. -/
theorem find?_run (unlimited : settings.maxMessagesPerChannel ≤ 0)
    (inputs : ∀ a ∈ actions, a.isCommand = false) (natural : ∀ i ∈ postedIds actions, 0 ≤ i)
    {id : Int} (numbered : 0 ≤ id) :
    (run settings actions {}).store.log.find? id =
      (eventsAbout id actions).foldl Event.Body.follow none := by
  induction actions using List.reverseRecOn with
  | nil => rfl
  | append_singleton actions a ih =>
    -- the log is consistent and the session without a server before the last action
    have earlier : ∀ b ∈ actions, b.isCommand = false :=
      fun b mem => inputs b (List.mem_append_left _ mem)
    rw [postedIds, List.filterMap_append, List.forall_mem_append] at natural
    have own : ∀ i ∈ a.postedId?, 0 ≤ i := fun i posted => natural.2 i (by simpa using posted)
    have consistent := (consistent_session settings natural.1).shown
    have last := find?_step (gone_inputs settings earlier) consistent unlimited
      (inputs a List.mem_concat_self) own numbered
    rw [run_append, run_cons, run_nil, last, ih earlier natural.1, ← List.foldl_append]
    congr 1
    cases about : a.eventAbout? id <;> simp [eventsAbout, about]

/-- Two sessions that are given no commands and have no limit on their histories show the same
message under an id, as soon as they receive the same chat events about it. It is the message
last delivered, with the text of the last edit or deletion after that, with the moment of the
last edit, with the last pin or unpin and the last link preview, and deleted if any of the
events after the delivery deletes it. Before the first delivery there is none. -/
theorem content_of_own_events (settings : Settings)
    (unlimited : settings.maxMessagesPerChannel ≤ 0) (actions : List Action)
    (inputs : ∀ a ∈ actions, a.isCommand = false) (natural : ∀ i ∈ postedIds actions, 0 ≤ i)
    {id : Int} (numbered : 0 ≤ id) :
    let events := eventsAbout id actions
    let since := sincePost events
    let shown := (run settings actions {}).store.log.find? id
    (shown = (latest Event.Body.post? events).map fun post =>
      post.told since (since.foldl Message.amendedBy post.toMessage).reactions) ∧
    ∀ (settings' : Settings) (others : List Action), settings'.maxMessagesPerChannel ≤ 0 →
      (∀ a ∈ others, a.isCommand = false) → (∀ i ∈ postedIds others, 0 ≤ i) →
      eventsAbout id others = events →
      (run settings' others {}).store.log.find? id = shown := by
  intro events since shown
  have told : shown = events.foldl Event.Body.follow none :=
    find?_run unlimited inputs natural numbered
  constructor
  · rw [told, foldl_follow]
    exact congrArg (Option.map · _) (funext fun post => foldl_amendedBy post since)
  · intro settings' others unlimited' inputs' natural' same
    rw [told, find?_run unlimited' inputs' natural' numbered, same]

/-- The first edit comes before the message, and the pin before it is delivered again. The other
session hears of nothing but the message. -/
theorem same_message_in_both_sessions :
    let event (server : Text) (body : Event.Body) : Action := .event ⟨server, body⟩ 1
    let actions := [event "a:1" (.chatEdited 7 "too early" 1), event "" (.userJoined 9 "Ada" none),
      event "a:1" (.chatPosted { msgId := 7, text := "hello" }), event "" (.messagePinned 7 0 9),
      event "" (.chatPosted { msgId := 8 }), event "b:2" (.chatEdited 8 "other" 2), .view 5,
      event "" (.chatPosted { msgId := 7, text := "hello", channelId := 5 }),
      event "" (.chatDeleted 7), event "" .kicked, event "" (.chatEdited 7 "edited" 3)]
    let others := [.tick 5, event "c:3" (.chatEdited 7 "too early" 1),
      event "c:3" (.chatPosted { msgId := 7, text := "hello" }), event "" (.messagePinned 7 0 9),
      event "c:3" (.chatPosted { msgId := 7, text := "hello", channelId := 5 }),
      event "" (.chatDeleted 7), event "c:3" (.chatEdited 7 "edited" 3)]
    let message (settings : Settings) (actions : List Action) :=
      (run settings actions {}).store.log.find? 7
    (∀ a ∈ actions ++ others, a.isCommand = false) ∧
    (∀ i ∈ postedIds actions ++ postedIds others, 0 ≤ i) ∧
    eventsAbout 7 others = eventsAbout 7 actions ∧
    (message {} actions).map (fun m => (m.text, m.editedTs, m.deleted, m.pinned, m.channelId)) =
      some (("edited" : Text), some 3, true, false, 5) ∧
    message { systemMessages := false } others = message {} actions := by
  intro event actions others message
  have inputs : ∀ a ∈ actions ++ others, a.isCommand = false := by decide
  have natural : ∀ i ∈ postedIds actions ++ postedIds others, 0 ≤ i := by decide
  have same : eventsAbout 7 others = eventsAbout 7 actions := by decide +kernel
  obtain ⟨told, elsewhere⟩ := content_of_own_events {} (Int.le_refl 0) actions
    (fun a mem => inputs a (List.mem_append_left _ mem))
    (fun i mem => natural i (List.mem_append_left _ mem)) (show 0 ≤ (7 : Int) by decide)
  refine ⟨inputs, natural, same, ?_, ?_⟩
  · show ((run {} actions {}).store.log.find? 7).map _ = _
    rw [told]
    decide +kernel
  · exact elsewhere { systemMessages := false } others (Int.le_refl 0)
      (fun a mem => inputs a (List.mem_append_right _ mem))
      (fun i mem => natural i (List.mem_append_right _ mem)) same

end Session

end VoiceChat
