import VoiceChat.Proofs.ControllerFields
import VoiceChat.Proofs.Flags

/-!
# Phases and what is kept for them

Whenever delays are configured, the three axes of a controller agree with what is kept
beside them: nobody reconnects to a server that is connected, a deadline is set while an
attempt is waited for and only then, no attempt is counted while nobody reconnects, one that
is being made has a number from one on, and there is a voice channel unless voice is idle.
Every change a session asks for keeps it so (`Coherent.step`), and the generation counts the
disconnects (`coherent_throughout`).
-/

namespace VoiceChat

namespace Controller

open Connection (Change)

/-- The phases of a controller agree with what is kept beside them. -/
structure Coherent (k : Controller) : Prop where
  quiet : k.server = .connected → k.reconnect = .inactive
  retrying_iff : k.reconnect = .retrying ↔ k.retryAt.isSome = true
  attempt_of_inactive : k.reconnect = .inactive → k.attempt = 0
  attempt_of_connecting : k.reconnect = .connecting → 1 ≤ k.attempt
  idle_iff : k.voice = .idle ↔ k.channel = none

variable {settings : Settings} {k : Controller}

/-! ## Changes -/

/-- Once nobody reconnects, only the voice channel has anything to agree with. -/
theorem coherent_stopReconnect (voice : k.voice = .idle ↔ k.channel = none) :
    k.stopReconnect.Coherent where
  quiet _ := rfl
  retrying_iff := ⟨nofun, nofun⟩
  attempt_of_inactive _ := rfl
  attempt_of_connecting := nofun
  idle_iff := voice

theorem idle_iff_leaveVoice : k.leaveVoice.voice = .idle ↔ k.leaveVoice.channel = none :=
  ⟨fun _ => rfl, fun _ => rfl⟩

/-- The deadline is set along with the phase, as there is a delay. -/
theorem coherent_schedule (delays : settings.reconnectBackoffSeconds ≠ [])
    (down : k.server ≠ .connected) (voice : k.voice = .idle ↔ k.channel = none) (now : Int) :
    (k.schedule settings now).1.Coherent := by
  obtain ⟨delay, found⟩ := Option.isSome_iff_exists.1
    (Connection.delay?_isSome delays k.attempt)
  simp only [schedule, found]
  exact {
    quiet := fun connected => absurd connected down
    retrying_iff := ⟨fun _ => rfl, fun _ => rfl⟩
    attempt_of_inactive := by simp
    attempt_of_connecting := by simp
    idle_iff := voice }

namespace Coherent

theorem setError (h : k.Coherent) (error : Text) : (k.setError error).Coherent :=
  ⟨h.quiet, h.retrying_iff, h.attempt_of_inactive, h.attempt_of_connecting, h.idle_iff⟩

theorem beginConnect (h : k.Coherent) (address : Text) : (k.beginConnect address).Coherent := by
  simp only [Controller.beginConnect]
  split
  · exact ⟨by simp, h.retrying_iff, h.attempt_of_inactive, h.attempt_of_connecting, h.idle_iff⟩
  · exact ⟨h.quiet, h.retrying_iff, h.attempt_of_inactive, h.attempt_of_connecting, h.idle_iff⟩

theorem connectFailed (h : k.Coherent) (error : Text) : (k.connectFailed error).Coherent := by
  simp only [Controller.connectFailed]
  split
  · exact ⟨by simp, h.retrying_iff, h.attempt_of_inactive, h.attempt_of_connecting, h.idle_iff⟩
  · exact ⟨h.quiet, h.retrying_iff, h.attempt_of_inactive, h.attempt_of_connecting, h.idle_iff⟩

theorem kicked (settings : Settings) (k : Controller) : (k.kicked settings).Coherent := by
  have stopped : Coherent { k with server := .disconnected }.leaveVoice.stopReconnect :=
    coherent_stopReconnect idle_iff_leaveVoice
  exact stopped.setError settings.kickedReason

/-- Nobody reconnects when the server that is connected is lost, so the first attempt is
scheduled. -/
theorem lose (delays : settings.reconnectBackoffSeconds ≠ []) (h : k.Coherent) (reason : Text)
    (now : Int) : (k.lose settings reason now).1.Coherent := by
  unfold Controller.lose
  split
  · exact h
  · next connected =>
    have inactive : k.reconnect = .inactive := h.quiet (Decidable.not_not.1 connected)
    have scheduled := coherent_schedule delays (k := { k with
      server := .disconnected
      voice := .idle
      channel := none
      reason := if reason = "" then settings.connectionLostReason else reason
      attempt := 0 }) nofun ⟨fun _ => rfl, fun _ => rfl⟩ now
    simpa [startReconnect, Controller.leaveVoice, inactive] using scheduled

theorem poll (h : k.Coherent) (now : Int) : (k.poll now).1.Coherent := by
  unfold Controller.poll
  split
  · split
    · exact h
    · exact {
        quiet := nofun
        retrying_iff := ⟨nofun, nofun⟩
        attempt_of_inactive := nofun
        attempt_of_connecting := fun _ => Nat.le_add_left 1 k.attempt
        idle_iff := h.idle_iff }
  · exact h

theorem reconnectFailed (delays : settings.reconnectBackoffSeconds ≠ []) (h : k.Coherent)
    (error : Text) (now : Int) : (k.reconnectFailed settings error now).1.Coherent := by
  unfold Controller.reconnectFailed
  split
  · exact h
  · exact coherent_schedule delays (k := { k with server := .disconnected, error }) nofun
      h.idle_iff now

theorem cancelReconnect (h : k.Coherent) : k.cancelReconnect.Coherent := by
  unfold Controller.cancelReconnect
  split <;> exact coherent_stopReconnect h.idle_iff

theorem beginJoin (h : k.Coherent) (channel : Int) : (k.beginJoin channel).Coherent :=
  ⟨h.quiet, h.retrying_iff, h.attempt_of_inactive, h.attempt_of_connecting, nofun, nofun⟩

theorem joined (h : k.Coherent) (channel : Int) : (k.joined channel).Coherent :=
  ⟨h.quiet, h.retrying_iff, h.attempt_of_inactive, h.attempt_of_connecting, nofun, nofun⟩

theorem leaveVoice (h : k.Coherent) : k.leaveVoice.Coherent :=
  ⟨h.quiet, h.retrying_iff, h.attempt_of_inactive, h.attempt_of_connecting, idle_iff_leaveVoice⟩

/-- As long as there are delays, every change keeps a controller coherent, save that
reconnecting may be started while a server is connected. -/
theorem step (delays : settings.reconnectBackoffSeconds ≠ []) (h : k.Coherent) {change : Change}
    (unstarted : ∀ reason now, change ≠ .startReconnect reason now) :
    (k.step settings change).Coherent := by
  cases change with
  | setError error => exact h.setError error
  | beginConnect address => exact h.beginConnect address
  | connectSucceeded => exact coherent_stopReconnect h.idle_iff
  | connectFailed error => exact h.connectFailed error
  | disconnect => exact coherent_stopReconnect idle_iff_leaveVoice
  | kicked => exact kicked settings k
  | lose reason now => exact h.lose delays reason now
  | startReconnect reason now => exact absurd rfl (unstarted reason now)
  | poll now => exact h.poll now
  | reconnectFailed error now => exact h.reconnectFailed delays error now
  | cancelReconnect => exact h.cancelReconnect
  | beginJoin channel => exact h.beginJoin channel
  | joined channel => exact h.joined channel
  | joinFailed error => exact h.leaveVoice.setError error
  | leaveVoice => exact h.leaveVoice

theorem run (delays : settings.reconnectBackoffSeconds ≠ []) {changes : List Change}
    (unstarted : ∀ change ∈ changes, ∀ reason now, change ≠ .startReconnect reason now)
    {k : Controller} (h : k.Coherent) : (Controller.run settings changes k).Coherent := by
  induction changes generalizing k with
  | nil => exact h
  | cons change changes ih =>
    obtain ⟨first, rest⟩ := List.forall_mem_cons.1 unstarted
    exact ih rest (h.step delays first)

end Coherent

theorem coherent_empty : ({} : Controller).Coherent :=
  ⟨nofun, ⟨nofun, nofun⟩, fun _ => rfl, nofun, fun _ => rfl, fun _ => rfl⟩

end Controller

namespace Session

open Connection (Change)

variable {settings : Settings}

/-! ## Runs -/

/-- A session starts reconnecting only by way of a loss. -/
theorem unstarted_of_mem_changes {s : Session} {m : Move} {change : Change}
    (asked : change ∈ s.changes m) (reason : Text) (now : Int) :
    change ≠ .startReconnect reason now := by
  rintro rfl
  cases m with
  | receive event =>
    cases hb : event.body <;> simp [changes, changeOf, hb] at asked
  | view | tick | cancelReconnect => simp [changes] at asked
  | prepare command => cases command <;> simp [changes, changeAtIssue] at asked
  | conclude p error =>
    simp only [changes, changeAtResult] at asked
    split at asked <;> (repeat' split at asked) <;> simp at asked

theorem unstarted_of_mem_changesAlong {moves : List Move} {s : Session} {change : Change}
    (asked : change ∈ changesAlong settings moves s) (reason : Text) (now : Int) :
    change ≠ .startReconnect reason now := by
  induction moves generalizing s with
  | nil => cases asked
  | cons m moves ih =>
    rcases List.mem_append.1 asked with first | later
    · exact unstarted_of_mem_changes first reason now
    · exact ih later

/-- As long as there are delays, the phases of the controller agree with what is kept
beside them after every change of every run, and the generation is the number of disconnects
so far. -/
theorem coherent_throughout {settings : Settings}
    (delays : settings.reconnectBackoffSeconds ≠ []) (actions : List Action) :
    let moves := journal settings actions {}
    (∀ front, front <+: moves →
      let k := Controller.run settings (changesAlong settings front {}) {}
      k = (front.foldl (move settings) {}).connection.fields ∧ k.Coherent ∧
      k.generation = front.countP Move.isDisconnect) ∧
    let k := Controller.run settings (changesAlong settings moves {}) {}
    k = (run settings actions {}).connection.fields ∧ k.Coherent ∧
      k.generation = actions.count (.issue .disconnect) := by
  intro moves
  have kept (front : List Move) :
      Controller.run settings (changesAlong settings front {}) {} =
        (front.foldl (move settings) {}).connection.fields := fields_foldl settings front {}
  have coherent (front : List Move) :
      (Controller.run settings (changesAlong settings front {}) {}).Coherent :=
    Controller.Coherent.run delays (fun _ asked => unstarted_of_mem_changesAlong asked)
      Controller.coherent_empty
  have counted (front : List Move) :
      (Controller.run settings (changesAlong settings front {}) {}).generation =
        front.countP Move.isDisconnect := by
    rw [kept]
    exact (generation_foldl settings front {}).trans (Nat.zero_add _)
  refine ⟨fun front _ => ⟨kept front, coherent front, counted front⟩, ?_, coherent moves, ?_⟩
  · rw [kept, connection_run]
  · calc (Controller.run settings (changesAlong settings moves {}) {}).generation
        = moves.countP Move.isDisconnect := counted moves
      _ = actions.countP (Action.issues (· = .disconnect)) := countP_journal settings _ actions {}
      _ = actions.count (.issue .disconnect) := by
        refine List.countP_congr fun a _ => ?_
        cases a <;> simp [Action.issues]

/-- A loss in the middle of a join, an attempt that fails, and a disconnect. -/
theorem coherent_after_failed_attempt :
    let actions := [.issue (.connect "a:1" "me"), .resolve 0 (.answered "") 0,
      .issue (.joinVoice 3), .event ⟨"a:1", .connectionLost "gone"⟩ 1, .tick 2000,
      .issue .reconnect, .resolve 1 (.answered "") 2001, .resolve 2 (.raised "refused") 2002]
    let failed := (run {} actions {}).connection.fields
    let left := (run {} (actions ++ [.issue .disconnect]) {}).connection.fields
    failed.Coherent ∧ failed.reconnect = .retrying ∧ failed.retryAt = some 4002 ∧
      left.generation = 1 := by
  intro actions failed left
  have delays : ({} : Settings).reconnectBackoffSeconds ≠ [] := by decide
  obtain ⟨-, same, coherent, -⟩ := coherent_throughout delays actions
  obtain ⟨-, same', -, counted⟩ := coherent_throughout delays (actions ++ [.issue .disconnect])
  rw [same] at coherent
  rw [same'] at counted
  exact ⟨coherent, by decide +kernel, by decide +kernel, counted⟩

end Session

end VoiceChat
