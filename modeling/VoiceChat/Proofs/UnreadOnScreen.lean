import Mathlib.Data.List.Induction
import VoiceChat.Proofs.Ledger

/-!
# Unread posts on screen

The unread count of a channel is above zero exactly if a post was counted there and the
channel has not been looked at since (`unreadOf_replay_pos_iff`). A look is a look at the
store on show; the channel that is being looked at while a staged store takes its place
is not looked at again. `read_on_screen_iff` says that the channel on screen gets unread
posts by such a switch and by nothing else.
-/

namespace VoiceChat

namespace Store

variable (settings : Settings) (s : Store)

/-! ## What counts as unread -/

/-- Whether an intake counts as unread in `channel`: a new post there, while another
channel is on screen. -/
def counts (channel : Int) : Intake → Bool
  | .event ⟨_, .chatPosted post⟩ _ viewed _ =>
    (s.deliver settings post.toMessage).2 ∧ post.channelId = channel ∧ channel ≠ viewed
  | _ => false

theorem unread_announce (now : Int) (text : Text) :
    (s.announce settings now text).unread = s.unread := by
  unfold announce
  split <;> rfl

/-- Only posts count as unread. -/
theorem unread_receive {body : Event.Body} (h : ∀ post, body ≠ .chatPosted post)
    (viewed now : Int) : (s.receive settings viewed now body).unread = s.unread := by
  cases body with
  | chatPosted post => exact absurd rfl (h post)
  | userJoined => exact unread_announce settings _ now _
  | userLeft id =>
    simp only [receive, leave]
    split
    · exact unread_announce settings _ now _
    · rfl
  | typingSignalled userId username channelId =>
    simp only [receive, noteSignal]
    split <;> rfl
  | videoChanged userId active screenShare =>
    simp only [receive, setVideo]
    split <;> rfl
  | recordingChanged channelId recording startedBy =>
    simp only [receive, setRecording]
    split <;> rfl
  | _ => rfl

theorem unreadOf_post (viewed : Int) (post : Post) (channel : Int) :
    (s.post settings viewed post).unreadOf channel = s.unreadOf channel +
      if (s.deliver settings post.toMessage).2 ∧ post.channelId = channel ∧ channel ≠ viewed
      then 1 else 0 := by
  have same : (s.deliver settings post.toMessage).1.unread = s.unread := rfl
  simp only [Store.post]
  by_cases here : post.channelId = channel
  · subst here
    split
    · next counted => simp [countUnread, unreadOf, same, counted]
    · next passed => simp [unreadOf, same, passed]
  · split
    · simp [countUnread, unreadOf, Table.get?_insert_of_ne (Ne.symm here), same, here]
    · simp [unreadOf, same, here]

theorem unreadOf_take_event (event : Event) (live : Bool) (viewed now channel : Int) :
    (s.take settings (.event event live viewed now)).unreadOf channel =
      s.unreadOf channel + if s.counts settings channel (.event event live viewed now) then 1
        else 0 := by
  obtain ⟨server, body⟩ := event
  by_cases posted : ∃ post, body = .chatPosted post
  · obtain ⟨post, rfl⟩ := posted
    cases live <;> simp [take, receiveLive, receive, unreadOf_post, counts]
  · have other : ∀ post, body ≠ .chatPosted post := fun post same => posted ⟨post, same⟩
    have kept : (s.take settings (.event ⟨server, body⟩ live viewed now)).unread = s.unread := by
      cases live with
      | false => exact unread_receive settings s other viewed now
      | true =>
        cases body with
        | kicked => exact unread_announce settings s now _
        | _ => exact unread_receive settings s other viewed now
    have passed : s.counts settings channel (.event ⟨server, body⟩ live viewed now) = false := by
      cases body with
      | chatPosted post => exact absurd rfl (other post)
      | _ => rfl
    simp [unreadOf, kept, passed]

theorem unreadOf_take_viewed (looked channel : Int) :
    (s.take settings (.viewed looked)).unreadOf channel =
      if channel = looked then 0 else s.unreadOf channel := by
  simp only [take, resetUnread, unreadOf, Table.get?_insert]
  split <;> rfl

/-- Whether a post was counted in `channel` that nobody has looked at since. -/
def Unseen (channel : Int) (intakes : List Intake) : Prop :=
  ∃ before intake after, intakes = before ++ intake :: after ∧
    (({} : Store).replay settings before).counts settings channel intake = true ∧
    .viewed channel ∉ after

theorem not_unseen_nil (channel : Int) : ¬Unseen settings channel [] := by
  rintro ⟨before, intake, after, split, -⟩
  simp at split

theorem unseen_concat_iff {settings : Settings} {channel : Int} {intakes : List Intake}
    {intake : Intake} :
    Unseen settings channel (intakes ++ [intake]) ↔
      (({} : Store).replay settings intakes).counts settings channel intake = true ∨
      Unseen settings channel intakes ∧ intake ≠ .viewed channel := by
  constructor
  · rintro ⟨before, counted, after, split, counts, unseen⟩
    rcases Session.concat_eq_append_cons_iff.1 split with
      ⟨rfl, rfl, -⟩ | ⟨rest, rfl, earlier⟩
    · exact .inl counts
    · rw [List.mem_append, not_or, List.mem_singleton] at unseen
      exact .inr ⟨⟨before, counted, rest, earlier, counts, unseen.1⟩, Ne.symm unseen.2⟩
  · rintro (counts | ⟨⟨before, counted, rest, split, counts, unseen⟩, other⟩)
    · exact ⟨intakes, intake, [], rfl, counts, List.not_mem_nil⟩
    · refine ⟨before, counted, rest ++ [intake],
        Session.concat_eq_append_cons_iff.2 (.inr ⟨rest, rfl, split⟩), counts, ?_⟩
      simp [unseen, Ne.symm other]

/-- The unread count tells whether there is something that nobody has looked at. -/
theorem unreadOf_replay_pos_iff (channel : Int) (intakes : List Intake) :
    0 < (({} : Store).replay settings intakes).unreadOf channel ↔
      Unseen settings channel intakes := by
  induction intakes using List.reverseRecOn with
  | nil => exact iff_of_false (Nat.lt_irrefl 0) (not_unseen_nil settings channel)
  | append_singleton intakes intake ih =>
    rw [replay_concat, unseen_concat_iff, ← ih]
    cases intake with
    | event event live viewed now =>
      rw [unreadOf_take_event]
      split
      · next counts => simp [counts]
      · next passed => simp [passed]
    | viewed looked =>
      rw [unreadOf_take_viewed]
      by_cases here : channel = looked
      · simp [here, counts]
      · simp [here, counts, Ne.symm here]

end Store

namespace Session

/-- Whether every snapshot shows the channel on screen as read. -/
def ReadOnScreen (s : Session) : Prop :=
  ∀ now snapshot, s.snapshot now = .ok snapshot →
    (snapshot.unreadCounts.get? snapshot.viewedChannelId).getD 0 = 0

/-- There is always a moment at which a snapshot can be taken: at the deadline, if one is
set, no time is left to wait. -/
theorem exists_snapshot (s : Session) : ∃ now snapshot, s.snapshot now = .ok snapshot := by
  have waits : ∃ now seconds, s.connection.secondsUntilRetry now = .ok seconds := by
    unfold Connection.secondsUntilRetry
    cases s.connection.reconnect.deadline? with
    | none => exact ⟨0, 0, rfl⟩
    | some deadline =>
      have no_time : Connection.wholeSeconds (deadline - deadline) = .ok 0 := by
        rw [Int.sub_self]
        decide +kernel
      exact ⟨deadline, 0, by simp only [no_time]; rfl⟩
  obtain ⟨now, seconds, waits⟩ := waits
  refine ⟨now, ?_⟩
  simp only [snapshot, Connection.reconnectView, waits]
  exact ⟨_, rfl⟩

theorem snapshot_unread {s : Session} {now : Int} {snapshot : Snapshot}
    (h : s.snapshot now = .ok snapshot) :
    (snapshot.unreadCounts.get? snapshot.viewedChannelId).getD 0 = s.store.unreadOf s.viewed := by
  cases waits : s.connection.secondsUntilRetry now with
  | error fault =>
    simp only [Session.snapshot, Connection.reconnectView, waits] at h
    cases h
  | ok seconds =>
    simp only [Session.snapshot, Connection.reconnectView, waits] at h
    obtain rfl := Except.ok.inj h
    rw [Table.get?_mapValues, Store.unreadOf]
    cases s.store.unread.get? s.viewed <;> rfl

theorem readOnScreen_iff {s : Session} : s.ReadOnScreen ↔ s.store.unreadOf s.viewed = 0 := by
  constructor
  · intro read
    obtain ⟨now, snapshot, shown⟩ := s.exists_snapshot
    have zero := read now snapshot shown
    rw [snapshot_unread shown] at zero
    omega
  · intro zero now snapshot shown
    rw [snapshot_unread shown, zero]
    rfl

theorem viewed_conclude (settings : Settings) (s : Session) (p : Pending) (error : Text)
    (now : Int) : (s.conclude settings now p error).1.viewed = s.viewed := by
  obtain ⟨_, _, _, same⟩ := conclude_eq settings now p error (s := s)
  rw [same]

end Session

namespace Account

/-- Whether a move is a result that puts a store on show in which a post of the channel on
screen was counted as unread. -/
def Overlooks (settings : Settings) (x : Account) : Session.Move → Prop
  | .conclude p error _ =>
    error = "" ∧ x.session.decidesSwitch p = true ∧
      Store.Unseen settings x.session.viewed ((x.ledger.staged.get? p.address).getD [])
  | _ => False

/-- The invariant behind `Session.ReadOnScreen`. -/
structure Tended (settings : Settings) (x : Account) : Prop where
  read : x.session.store.unreadOf x.session.viewed = 0
  faithful : x.Faithful settings

variable {settings : Settings} {x : Account}

theorem Tended.readOnScreen (hx : x.Tended settings) : x.session.ReadOnScreen :=
  Session.readOnScreen_iff.2 hx.read

/-- A post of the channel on screen does not count. -/
theorem read_receive (hx : x.session.store.unreadOf x.session.viewed = 0) (event : Event)
    (now : Int) :
    let s := x.session.receive settings now event
    s.store.unreadOf s.viewed = 0 := by
  intro s
  cases hr : x.session.route event.serverAddr with
  | active =>
    have passed : x.session.store.counts settings x.session.viewed
        (.event event true x.session.viewed now) = false := by
      obtain ⟨server, body⟩ := event
      cases body <;> simp [Store.counts]
    have kept := Store.unreadOf_take_event settings x.session.store event true x.session.viewed
      now x.session.viewed
    simp only [s, Session.receive, hr]
    rw [Session.receiveActive_store, Session.receiveActive_viewed]
    rw [passed, hx] at kept
    exact kept
  | staged address =>
    simp only [s, Session.receive, hr]
    exact hx
  | nowhere =>
    simp only [s, Session.receive, hr]
    exact hx

theorem unreadOf_conclude (hx : x.Faithful settings) {p : Pending}
    (decides : x.session.decidesSwitch p = true) (now : Int) :
    let s := (x.session.conclude settings now p "").1
    0 < s.store.unreadOf s.viewed ↔
      Store.Unseen settings x.session.viewed ((x.ledger.staged.get? p.address).getD []) := by
  intro s
  have store := (Session.conclude_of_decidesSwitch settings "" now decides).1
  rw [if_pos rfl, hx.get?] at store
  rw [Session.viewed_conclude, store]
  exact Store.unreadOf_replay_pos_iff settings _ _

theorem read_conclude (hx : x.Tended settings) {p : Pending} {error : Text} {now : Int}
    (h : ¬x.Overlooks settings (.conclude p error now)) :
    let s := (x.session.conclude settings now p error).1
    s.store.unreadOf s.viewed = 0 := by
  intro s
  by_cases promotes : error = "" ∧ x.session.decidesSwitch p = true
  · obtain ⟨rfl, decides⟩ := promotes
    apply Nat.eq_zero_of_not_pos
    intro positive
    exact h ⟨rfl, decides, (unreadOf_conclude hx.faithful decides now).1 positive⟩
  · have store : s.store = x.session.store := by
      cases decides : x.session.decidesSwitch p with
      | true =>
        have failed : error ≠ "" := fun success => promotes ⟨success, decides⟩
        rw [(Session.conclude_of_decidesSwitch settings error now decides).1, if_neg failed]
      | false => exact (Session.conclude_of_not_decidesSwitch settings error now decides).1
    rw [Session.viewed_conclude, store]
    exact hx.read

theorem tended_move (hx : x.Tended settings) {m : Session.Move} (h : ¬x.Overlooks settings m) :
    (x.move settings m).Tended settings := by
  refine ⟨?_, faithful_move hx.faithful m⟩
  cases m with
  | receive event now => exact read_receive hx.read event now
  | view channel =>
    have looked := Store.unreadOf_take_viewed settings x.session.store channel channel
    rw [if_pos rfl] at looked
    exact looked
  | tick | cancelReconnect => exact hx.read
  | prepare command =>
    cases command with
    | disconnect => rfl
    | _ => exact hx.read
  | conclude p error now => exact read_conclude hx h

theorem not_readOnScreen_of_overlooks (hx : x.Tended settings) {m : Session.Move}
    (h : x.Overlooks settings m) : ¬(x.move settings m).session.ReadOnScreen := by
  cases m with
  | conclude p error now =>
    obtain ⟨rfl, decides, unseen⟩ := h
    have positive := (unreadOf_conclude hx.faithful decides now).2 unseen
    rw [Session.readOnScreen_iff]
    exact Nat.ne_of_gt positive
  | _ => exact h.elim

/-- At every moment of a run the channel on screen is shown as read, exactly if no result of
the run puts a store on show in which a post of the channel then on screen was counted.
The ledger accounts for the stores all along. -/
theorem read_on_screen_iff (settings : Settings) (actions : List Session.Action) :
    let moves := Session.journal settings actions {}
    let s := Session.run settings actions {}
    s = (after settings moves).session.withFlight s.calling s.queue ∧
    (∀ before, before <+: moves → (after settings before).Faithful settings) ∧
    ((∀ before, before <+: moves → (after settings before).session.ReadOnScreen) ↔
      ∀ before m, before ++ [m] <+: moves → ¬(after settings before).Overlooks settings m) := by
  intro moves s
  refine ⟨?_, ?_, ?_⟩
  · rw [session_after]
    exact Session.run_eq_journal settings actions {}
  · intro before _
    exact faithful_after before
  · apply Session.foldl_throughout_iff_of_mem (I := Tended settings)
      (P := fun x : Account => x.session.ReadOnScreen)
    · intro x hx
      exact hx.readOnScreen
    · intro m _ x hx h
      exact tended_move hx h
    · intro m _ x hx overlooks
      exact not_readOnScreen_of_overlooks hx overlooks
    · exact ⟨rfl, ⟨rfl, rfl⟩⟩

/-- A switch to a server whose post came in while another channel was on screen. -/
def overlooked : List Session.Action :=
  [.issue (.connect "b:2" "me"),
    .event ⟨"b:2", .chatPosted { msgId := 1, channelId := 5 }⟩ 0,
    .view 5, .resolve 0 (.answered "") 0]

theorem unread_on_screen_after_switch :
    let s := Session.run {} overlooked {}
    s.viewed = 5 ∧ s.connection.server = .connected ∧ s.store.unreadOf 5 = 1 ∧
    ¬s.ReadOnScreen := by
  have shown : (Session.run {} overlooked {}).viewed = 5 ∧
      (Session.run {} overlooked {}).connection.server = .connected ∧
      (Session.run {} overlooked {}).store.unreadOf 5 = 1 := by
    decide +kernel
  obtain ⟨viewed, connected, unread⟩ := shown
  refine ⟨viewed, connected, unread, ?_⟩
  rw [Session.readOnScreen_iff, viewed, unread]
  exact Nat.one_ne_zero

end Account

end VoiceChat
