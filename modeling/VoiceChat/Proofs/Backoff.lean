import Mathlib.Data.List.Induction
import VoiceChat.Connection.Run
import VoiceChat.Proofs.Flags

/-!
# The backoff schedule

A countdown waits and tries by turns. `Stage.Next` is the schedule on its own: an attempt is
made when the delay that belongs to it has passed, it has the next number, and its failure
starts the next delay. A connection follows the schedule from the change that starts a
countdown up to the first that ends it (`course_run`), whatever else happens meanwhile, and no
attempt is made outside of a countdown (`exists_underway`). `backoff_schedule` puts this
together for every run.
-/

namespace VoiceChat.Connection

/-! ## The schedule -/

/-- Where a countdown is. -/
inductive Stage where
  /-- `attempts` have been made, and the delay before the next one counts from `since`. -/
  | waiting (attempts : Nat) (since : Int)
  /-- The attempt numbered `attempt` is under way. -/
  | trying (attempt : Nat)

/-- What carries a countdown on. -/
inductive Mark where
  | fired (attempt : Nat) (now : Int)
  | failed (now : Int)
deriving DecidableEq

/-- When the next attempt is due, in Unix milliseconds; the last delay repeats. -/
def dueAt (delays : List Int) (attempts : Nat) (since : Int) : Int :=
  since + 1000 * delays.getD (min attempts (delays.length - 1)) 0

namespace Stage

/-- The schedule: an attempt is made when it is due and gets the next number, and the delay of
the one after it counts from its failure. -/
inductive Next (delays : List Int) : Stage → Mark → Stage → Prop where
  | fired {attempts : Nat} {since now : Int} (due : dueAt delays attempts since ≤ now) :
    Next delays (waiting attempts since) (.fired (attempts + 1) now) (trying (attempts + 1))
  | failed (attempt : Nat) (now : Int) :
    Next delays (trying attempt) (.failed now) (waiting attempt now)

/-- A countdown that is carried on by the marks, in order. -/
inductive Course (delays : List Int) : Stage → List Mark → Stage → Prop where
  | nil (stage : Stage) : Course delays stage [] stage
  | cons {stage next last : Stage} {mark : Mark} {marks : List Mark}
    (first : Next delays stage mark next) (rest : Course delays next marks last) :
    Course delays stage (mark :: marks) last

theorem Course.append {delays : List Int} {stage next last : Stage} {marks more : List Mark}
    (h : Course delays stage marks next) (h' : Course delays next more last) :
    Course delays stage (marks ++ more) last := by
  induction h with
  | nil => exact h'
  | cons first _ ih => exact .cons first (ih h')

/-- How a connection records a stage. -/
def reconnect (delays : List Int) : Stage → Reconnect
  | waiting attempts since => .retrying attempts (some (dueAt delays attempts since))
  | trying attempt => .connecting attempt

theorem isActive_reconnect (delays : List Int) (stage : Stage) :
    (stage.reconnect delays).isActive = true := by
  cases stage <;> rfl

end Stage

/-! ## Countdowns of a run -/

/-- The changes that start a countdown, and the moment that it counts from. -/
inductive Starts (c : Connection) (now : Int) : Change → Prop where
  | called (reason : Text) (idle : c.reconnect = .inactive) :
    Starts c now (.startReconnect reason now)
  | lost (reason : Text) (idle : c.reconnect = .inactive) (connected : c.isConnected = true) :
    Starts c now (.lose reason now)

/-- Whether a change ends a countdown. -/
def Change.ends : Change → Bool
  | .connectSucceeded _ | .disconnect | .kicked | .cancelReconnect => true
  | _ => false

/-- A countdown that is under way after a run: `change` started it at the moment `start`, and
none of the changes `after` has ended it. -/
structure Underway (settings : Settings) (changes before : List Change) (change : Change)
    (start : Int) (after : List Change) : Prop where
  changes_eq : changes = before ++ change :: after
  starts : Starts (run settings before {}) start change
  lasts : ∀ d ∈ after, d.ends = false

/-- An attempt that a change makes, or a failure that has an effect. -/
def mark? (settings : Settings) (c : Connection) : Change → Option Mark
  | .poll now => (c.poll now).2.map (.fired · now)
  | .reconnectFailed error now =>
    if (c.reconnectFailed settings error now).1 = c then none else some (.failed now)
  | _ => none

/-- The attempts made and the failures that have an effect in the course of a run. -/
def marks (settings : Settings) : List Change → Connection → List Mark
  | [], _ => []
  | d :: ds, c => (mark? settings c d).toList ++ marks settings ds (step settings c d)

/-! ## A connection follows the schedule -/

section

variable {settings : Settings} {c : Connection} {stage : Stage} {d : Change} {now : Int}

theorem waiting_eq (some : settings.reconnectBackoffSeconds ≠ []) (attempts : Nat) (now : Int) :
    waiting settings attempts now =
      (Stage.waiting attempts now).reconnect settings.reconnectBackoffSeconds := by
  obtain ⟨delay, found⟩ := Option.isSome_iff_exists.1 (delay?_isSome some attempts)
  have listed : settings.reconnectBackoffSeconds.getD
      (min attempts (settings.reconnectBackoffSeconds.length - 1)) 0 = delay := by
    rw [List.getD_eq_getElem?_getD, ← delay?, found, Option.getD_some]
  rw [waiting, found, Stage.reconnect, dueAt, listed, Int.mul_comm, Option.map_some]

/-- A poll makes the attempt that the schedule has at that moment. -/
theorem poll_fires_iff {delays : List Int} (recorded : c.reconnect = stage.reconnect delays)
    (now : Int) (attempt : Nat) :
    (c.poll now).2 = some attempt ↔ ∃ next, Stage.Next delays stage (.fired attempt now) next := by
  cases stage with
  | waiting attempts since =>
    have recorded : c.reconnect = .retrying attempts (some (dueAt delays attempts since)) :=
      recorded
    by_cases due : dueAt delays attempts since ≤ now
    · have fires : (c.poll now).2 = some (attempts + 1) := by
        simp [poll, isDue, recorded, Reconnect.deadline?, due, Reconnect.attempt]
      rw [fires]
      constructor
      · rintro ⟨⟩
        exact ⟨_, .fired due⟩
      · rintro ⟨next, ⟨⟩⟩
        rfl
    · have waits : (c.poll now).2 = none := by
        simp [poll, isDue, recorded, Reconnect.deadline?, due]
      rw [waits]
      refine iff_of_false (Option.some_ne_none attempt).symm ?_
      rintro ⟨next, ⟨due'⟩⟩
      exact due due'
  | trying =>
    have recorded : c.reconnect = .connecting _ := recorded
    have waits : (c.poll now).2 = none := by simp [poll, isDue, recorded, Reconnect.deadline?]
    rw [waits]
    refine iff_of_false (Option.some_ne_none attempt).symm ?_
    rintro ⟨next, ⟨⟩⟩

theorem poll_of_none (waits : (c.poll now).2 = none) : (c.poll now).1 = c := by
  unfold poll at waits ⊢
  split
  · next due => simp [due] at waits
  · rfl

theorem course_poll {delays : List Int} (recorded : c.reconnect = stage.reconnect delays)
    (now : Int) :
    ∃ next, Stage.Course delays stage (mark? settings c (.poll now)).toList next ∧
      (c.poll now).1.reconnect = next.reconnect delays := by
  cases fired : (c.poll now).2 with
  | none =>
    refine ⟨stage, ?_, ?_⟩
    · rw [mark?, fired]
      exact .nil stage
    · rw [poll_of_none fired, recorded]
  | some attempt =>
    obtain ⟨next, made⟩ := (poll_fires_iff recorded now attempt).1 fired
    refine ⟨next, ?_, ?_⟩
    · rw [mark?, fired]
      exact .cons made (.nil next)
    · cases made with
      | fired due =>
        simp [poll, isDue, recorded, Stage.reconnect, Reconnect.deadline?, due, Reconnect.attempt]

theorem course_failed (some : settings.reconnectBackoffSeconds ≠ [])
    (recorded : c.reconnect = stage.reconnect settings.reconnectBackoffSeconds) (error : Text)
    (now : Int) :
    ∃ next, Stage.Course settings.reconnectBackoffSeconds stage
        (mark? settings c (.reconnectFailed error now)).toList next ∧
      (c.reconnectFailed settings error now).1.reconnect =
        next.reconnect settings.reconnectBackoffSeconds := by
  cases stage with
  | waiting attempts since =>
    have same : (c.reconnectFailed settings error now).1 = c := by
      simp [reconnectFailed, recorded, Stage.reconnect]
    refine ⟨.waiting attempts since, ?_, by rw [same, recorded]⟩
    rw [mark?, if_pos same]
    exact .nil _
  | trying attempt =>
    have rescheduled : (c.reconnectFailed settings error now).1.reconnect =
        (Stage.waiting attempt now).reconnect settings.reconnectBackoffSeconds := by
      rw [← waiting_eq some]
      simp only [reconnectFailed, recorded, Stage.reconnect, schedule_eq]
    refine ⟨.waiting attempt now, ?_, rescheduled⟩
    have effective : (c.reconnectFailed settings error now).1 ≠ c := by
      intro same
      rw [same, recorded] at rescheduled
      cases rescheduled
    rw [mark?, if_neg effective]
    exact .cons (.failed attempt now) (.nil _)

theorem startReconnect_of_isActive (active : c.reconnect.isActive = true) (reason : Text)
    (now : Int) : (c.startReconnect settings reason now).1 = c := by
  rw [startReconnect, if_pos active]

theorem reconnect_lose_of_isActive (active : c.reconnect.isActive = true) (reason : Text)
    (now : Int) : (c.lose settings reason now).1.reconnect = c.reconnect := by
  unfold lose
  split
  · have active : ({ c with server := .disconnected } : Connection).leaveVoice.reconnect.isActive =
        true := active
    rw [startReconnect_of_isActive active]
    rfl
  · rfl

/-- As long as nothing ends the countdown, a change carries it on by the schedule or leaves it
where it is. -/
theorem course_step (some : settings.reconnectBackoffSeconds ≠ [])
    (recorded : c.reconnect = stage.reconnect settings.reconnectBackoffSeconds)
    (lasts : d.ends = false) :
    ∃ next, Stage.Course settings.reconnectBackoffSeconds stage (mark? settings c d).toList next ∧
      (step settings c d).reconnect = next.reconnect settings.reconnectBackoffSeconds := by
  have active : c.reconnect.isActive = true := recorded ▸ stage.isActive_reconnect _
  cases d with
  | poll now => exact course_poll recorded now
  | reconnectFailed error now => exact course_failed some recorded error now
  | lose reason now =>
    exact ⟨stage, .nil stage, (reconnect_lose_of_isActive active reason now).trans recorded⟩
  | startReconnect reason now =>
    have same : (step settings c (.startReconnect reason now)).reconnect = c.reconnect :=
      congrArg Connection.reconnect (startReconnect_of_isActive active reason now)
    exact ⟨stage, .nil stage, same.trans recorded⟩
  | connectSucceeded | disconnect | kicked | cancelReconnect => cases lasts
  | _ => exact ⟨stage, .nil stage, recorded⟩

theorem course_run (some : settings.reconnectBackoffSeconds ≠ []) {changes : List Change}
    (lasts : ∀ d ∈ changes, d.ends = false)
    (recorded : c.reconnect = stage.reconnect settings.reconnectBackoffSeconds) :
    ∃ next, Stage.Course settings.reconnectBackoffSeconds stage (marks settings changes c) next ∧
      (run settings changes c).reconnect = next.reconnect settings.reconnectBackoffSeconds := by
  induction changes generalizing c stage with
  | nil => exact ⟨stage, .nil stage, recorded⟩
  | cons d changes ih =>
    rw [List.forall_mem_cons] at lasts
    obtain ⟨next, first, recorded⟩ := course_step some recorded lasts.1
    obtain ⟨last, rest, recorded⟩ := ih lasts.2 recorded
    exact ⟨last, first.append rest, recorded⟩

theorem Starts.reconnect (h : Starts c now d) :
    (step settings c d).reconnect = waiting settings 0 now := by
  cases h with
  | called reason idle =>
    show (c.startReconnect settings reason now).1.reconnect = _
    rw [startReconnect, idle]
    exact congrArg Connection.reconnect (schedule_eq settings _ now 0)
  | lost reason idle connected =>
    show (c.lose settings reason now).1.reconnect = _
    rw [lose, if_pos connected, startReconnect]
    simp only [leaveVoice, idle]
    exact congrArg Connection.reconnect (schedule_eq settings _ now 0)

/-! ## Where countdowns begin -/

theorem inactive_of_ends (ends : d.ends = true) :
    (step settings c d).reconnect = .inactive := by
  cases d with
  | connectSucceeded | disconnect | kicked => rfl
  | cancelReconnect =>
    show c.cancelReconnect.reconnect = .inactive
    unfold cancelReconnect
    split <;> rfl
  | _ => cases ends

theorem starts_of_isActive (idle : c.reconnect = .inactive)
    (active : (step settings c d).reconnect.isActive = true) : ∃ now, Starts c now d := by
  have unchanged (same : (step settings c d).reconnect = c.reconnect) : ∃ now, Starts c now d := by
    rw [same, idle] at active
    cases active
  cases d with
  | startReconnect reason now => exact ⟨now, .called reason idle⟩
  | lose reason now =>
    cases connected : c.isConnected with
    | true => exact ⟨now, .lost reason idle connected⟩
    | false => exact unchanged (by simp [step, perform, lose, connected])
  | poll now => exact unchanged (by simp [step, perform, poll, isDue, idle, Reconnect.deadline?])
  | reconnectFailed error now => exact unchanged (by simp [step, perform, reconnectFailed, idle])
  | connectSucceeded | disconnect | kicked | cancelReconnect =>
    rw [inactive_of_ends rfl] at active
    cases active
  | _ => exact unchanged rfl

/-- Whenever a countdown is recorded, one has been started and is under way. -/
theorem exists_underway {changes : List Change}
    (active : (run settings changes {}).reconnect.isActive = true) :
    ∃ before change start after, Underway settings changes before change start after := by
  induction changes using List.reverseRecOn with
  | nil => cases active
  | append_singleton changes d ih =>
    -- the last change starts the countdown, or goes on with the one before
    rw [run_append, run_cons, run_nil] at active
    cases before : (run settings changes {}).reconnect.isActive with
    | false =>
      have idle : (run settings changes {}).reconnect = .inactive := by
        cases recorded : (run settings changes {}).reconnect with
        | inactive => rfl
        | _ =>
          rw [recorded] at before
          cases before
      obtain ⟨now, starts⟩ := starts_of_isActive idle active
      exact ⟨changes, d, now, [], rfl, starts, nofun⟩
    | true =>
      obtain ⟨front, change, start, after, underway⟩ := ih before
      have lasts : d.ends = false := by
        by_contra ends
        rw [inactive_of_ends (by simpa using ends)] at active
        cases active
      refine ⟨front, change, start, after ++ [d], ?_, underway.starts, ?_⟩
      · rw [underway.changes_eq, List.append_assoc, List.cons_append]
      · rw [List.forall_mem_append]
        exact ⟨underway.lasts, by simpa using lasts⟩

end

/-- Whenever there are delays, a connection follows the backoff schedule in every run. While a
countdown is under way, the attempts that were made since its start and the failures that had
an effect are those of a course of the schedule, and a poll makes the attempt that the schedule
has for that moment, if it has one. Without a countdown under way no poll makes an attempt. -/
theorem backoff_schedule (settings : Settings) (delays : settings.reconnectBackoffSeconds ≠ [])
    (changes : List Change) :
    let b := settings.reconnectBackoffSeconds
    let c := run settings changes {}
    (∀ before change start after, Underway settings changes before change start after →
      ∃ stage, Stage.Course b (.waiting 0 start)
          (marks settings after (run settings (before ++ [change]) {})) stage ∧
        ∀ now attempt, (c.poll now).2 = some attempt ↔
          ∃ next, Stage.Next b stage (.fired attempt now) next) ∧
    ∀ now attempt, (c.poll now).2 = some attempt →
      ∃ before change start after, Underway settings changes before change start after := by
  intro b c
  constructor
  · rintro before change start after ⟨changes_eq, starts, lasts⟩
    have recorded : (run settings (before ++ [change]) {}).reconnect =
        (Stage.waiting 0 start).reconnect b := by
      rw [run_append, run_cons, run_nil, starts.reconnect, waiting_eq delays]
    obtain ⟨stage, course, recorded⟩ := course_run delays lasts recorded
    have reached : c = run settings after (run settings (before ++ [change]) {}) := by
      rw [← run_append, List.append_assoc, List.singleton_append, ← changes_eq]
    rw [reached]
    exact ⟨stage, course, poll_fires_iff recorded⟩
  · intro now attempt fires
    have active : c.reconnect.isActive = true := by
      cases recorded : c.reconnect with
      | inactive => simp [poll, isDue, recorded, Reconnect.deadline?] at fires
      | _ => rfl
    exact exists_underway active

/-- With delays of one and three seconds. A second start and a second failure have no effect,
and neither has a connect that fails meanwhile. -/
theorem third_attempt_on_schedule :
    let settings : Settings := { reconnectBackoffSeconds := [1, 3] }
    let before : List Change := [.connectSucceeded "a:1"]
    let after : List Change := [.startReconnect "again" 200, .poll 999, .poll 1000, .poll 1000,
      .beginConnect "b:2", .reconnectFailed "refused" 2000, .connectFailed "refused",
      .poll 4999, .poll 5500, .reconnectFailed "refused" 7000, .reconnectFailed "refused" 7500]
    let changes := before ++ .lose "gone" 0 :: after
    settings.reconnectBackoffSeconds ≠ [] ∧
    Underway settings changes before (.lose "gone" 0) 0 after ∧
    ∃ stage, Stage.Course [1, 3] (.waiting 0 0)
        [.fired 1 1000, .failed 2000, .fired 2 5500, .failed 7000] stage ∧
      ((run settings changes {}).poll 9999).2 = none ∧
      ∃ next, Stage.Next [1, 3] stage (.fired 3 10000) next := by
  intro settings before after changes
  have delays : settings.reconnectBackoffSeconds ≠ [] := by decide
  have underway : Underway settings changes before (.lose "gone" 0) 0 after :=
    ⟨rfl, .lost "gone" rfl rfl, by decide⟩
  have listed : marks settings after (run settings (before ++ [.lose "gone" 0]) {}) =
      [.fired 1 1000, .failed 2000, .fired 2 5500, .failed 7000] := by decide +kernel
  have third : ((run settings changes {}).poll 10000).2 = some 3 := by decide +kernel
  obtain ⟨stage, course, fires⟩ :=
    (backoff_schedule settings delays changes).1 before _ 0 after underway
  rw [listed] at course
  exact ⟨delays, underway, stage, course, by decide +kernel, (fires 10000 3).1 third⟩

end VoiceChat.Connection
