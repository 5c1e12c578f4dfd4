import Mathlib.Data.List.Induction
import VoiceChat.Proofs.Flags
import VoiceChat.Proofs.Origins

/-!
# When a reconnect fails late

The failure of a reconnect ends the attempt that it belongs to, and the wait for the next one
starts. It tells its attempt by the phase alone. An attempt under way either has been under
way since the reconnect was issued, or was made by a tick since (`current_or_madeSince`), and a
failure that comes after such a tick ends an attempt that it does not belong to
(`failure_is_timely_iff`).
-/

namespace VoiceChat

/-- The phase of the server, and the phase, the number and the deadline of the attempts to
reconnect. -/
def Connection.progress (c : Connection) : ServerPhase × Reconnect := (c.server, c.reconnect)

namespace Session

/-- Whether an attempt is under way now, and the same one after each of these moves. -/
def Current (settings : Settings) (s : Session) (since : List Move) : Prop :=
  ∃ attempt, ∀ mid, mid <+: since →
    (mid.foldl (move settings) s).connection.reconnect = .connecting attempt

/-- Whether one of these moves makes an attempt that stays under way up to the last. -/
def MadeSince (settings : Settings) (s : Session) (since : List Move) : Prop :=
  ∃ mid now after, since = mid ++ .tick now :: after ∧
    (mid.foldl (move settings) s).connection.isDue now = true ∧
    Current settings ((mid ++ [.tick now]).foldl (move settings) s) after

variable {settings : Settings} {s : Session} {since : List Move}

/-! ## Attempts under way -/

theorem Current.outstanding (h : Current settings s since) :
    ∃ attempt, (since.foldl (move settings) s).connection.reconnect = .connecting attempt := by
  obtain ⟨attempt, always⟩ := h
  exact ⟨attempt, always since List.prefix_rfl⟩

theorem MadeSince.outstanding (h : MadeSince settings s since) :
    ∃ attempt, (since.foldl (move settings) s).connection.reconnect = .connecting attempt := by
  obtain ⟨mid, now, after, rfl, -, current⟩ := h
  obtain ⟨attempt, last⟩ := current.outstanding
  refine ⟨attempt, ?_⟩
  rw [List.append_cons, List.foldl_append]
  exact last

theorem current_nil {attempt : Nat} (h : s.connection.reconnect = .connecting attempt) :
    Current settings s [] := by
  refine ⟨attempt, ?_⟩
  intro mid pre
  rw [List.prefix_nil.1 pre]
  exact h

theorem Current.concat {m : Move} (h : Current settings s since)
    (same : ((since ++ [m]).foldl (move settings) s).connection.reconnect =
      (since.foldl (move settings) s).connection.reconnect) :
    Current settings s (since ++ [m]) := by
  obtain ⟨attempt, always⟩ := h
  refine ⟨attempt, ?_⟩
  intro mid pre
  rcases List.prefix_concat_iff.1 pre with rfl | earlier
  · rw [same]
    exact always since List.prefix_rfl
  · exact always mid earlier

theorem MadeSince.concat {m : Move} (h : MadeSince settings s since)
    (same : ((since ++ [m]).foldl (move settings) s).connection.reconnect =
      (since.foldl (move settings) s).connection.reconnect) :
    MadeSince settings s (since ++ [m]) := by
  obtain ⟨mid, now, after, rfl, due, current⟩ := h
  refine ⟨mid, now, after ++ [m], by simp, due, current.concat ?_⟩
  rw [← List.foldl_append, ← List.foldl_append]
  simpa using same

/-- An attempt that is under way was made before these moves, or by one of them. -/
theorem current_or_madeSince {attempt : Nat}
    (h : (since.foldl (move settings) s).connection.reconnect = .connecting attempt) :
    Current settings s since ∨ MadeSince settings s since := by
  -- on the last move: it either makes the attempt or leaves it alone
  induction since using List.reverseRecOn with
  | nil => exact .inl (current_nil h)
  | append_singleton since m ih =>
    have last : (since ++ [m]).foldl (move settings) s =
        (since.foldl (move settings) s).move settings m := List.foldl_concat ..
    have shape := retried settings (since.foldl (move settings) s) m
    rw [← last, h] at shape
    generalize hr : Reconnect.connecting attempt = r at shape
    cases shape with
    | unchanged =>
      have same := h.trans hr
      rcases ih hr.symm with current | made
      · exact .inl (current.concat same)
      · exact .inr (made.concat same)
    | stopped | started | failed => cases hr
    | fired now waiting due => exact .inr ⟨since, now, [], rfl, due, current_nil h⟩

/-- While the attempt is under way, no other is due. -/
theorem Current.not_madeSince (h : Current settings s since) : ¬MadeSince settings s since := by
  rintro ⟨mid, now, after, rfl, due, -⟩
  obtain ⟨attempt, always⟩ := h
  have under := always mid (List.prefix_append mid _)
  rw [Connection.isDue, under] at due
  cases due

/-! ## Failures -/

/-- The failure of a reconnect has an effect, unless it is stale, if an attempt is under way. -/
theorem progress_failure_iff {p : Pending} (reconnects : p.command = .reconnect) {error : Text}
    (failed : error ≠ "") (now : Int) :
    (s.conclude settings now p error).1.connection.progress ≠ s.connection.progress ↔
      ¬s.isStale p = true ∧ ∃ attempt, s.connection.reconnect = .connecting attempt := by
  cases stale : s.isStale p with
  | true => simp [conclude, reconnects, stale]
  | false =>
    have failure : (s.conclude settings now p error).1.connection =
        (s.connection.reconnectFailed settings error now).1 := by
      simp [conclude, reconnects, stale, concludeReconnect, failed]
    rw [failure]
    cases hr : s.connection.reconnect with
    | connecting attempt =>
      have waits : (s.connection.reconnectFailed settings error now).1.reconnect =
          Connection.waiting settings attempt now := by
        simp only [Connection.reconnectFailed, hr]
        rw [Connection.schedule_eq]
      refine iff_of_true ?_ ⟨Bool.false_ne_true, attempt, rfl⟩
      intro same
      have kept := congrArg Prod.snd same
      simp only [Connection.progress, waits, hr] at kept
      cases kept
    | _ => simp [Connection.reconnectFailed, hr]

/-- In every run, the failure of a reconnect changes the phase of the server or the attempts to
reconnect exactly if no disconnect has made it stale and an attempt is under way. That this is
the one during which the reconnect was issued holds exactly if the failure is stale, or no
attempt made since is under way. -/
theorem failure_is_timely_iff {actions : List Action} {front : List Move} {p : Pending}
    {error : Text} {now : Int}
    (pre : front ++ [.conclude p error now] <+: journal settings actions {})
    (reconnects : p.command = .reconnect) (failed : error ≠ "") :
    let s := front.foldl (move settings) {}
    let changes :=
      (s.move settings (.conclude p error now)).connection.progress ≠ s.connection.progress
    ∃ before since, Issued settings front before since p ∧
      let fresh := ¬∃ m ∈ since, m.isDisconnect = true
      let issuedIn := before.foldl (move settings) {}
      (changes ↔ fresh ∧ ∃ attempt, s.connection.reconnect = .connecting attempt) ∧
      ((changes → Current settings issuedIn since) ↔
        ¬(fresh ∧ MadeSince settings issuedIn since)) := by
  intro s changes
  obtain ⟨before, since, issued⟩ := issue_of_conclude pre
  refine ⟨before, since, issued, ?_⟩
  intro fresh issuedIn
  have reached : s = since.foldl (move settings) issuedIn := by
    have from_issue := issued.foldl_eq
    rwa [reconnects] at from_issue
  have effect : changes ↔ fresh ∧ ∃ attempt, s.connection.reconnect = .connecting attempt := by
    have stale : ¬s.isStale p = true ↔ fresh := not_congr issued.isStale_iff
    rw [← stale]
    exact progress_failure_iff reconnects failed now
  refine ⟨effect, ?_⟩
  rw [effect]
  constructor
  · rintro timely ⟨current, made⟩
    have outstanding := reached ▸ made.outstanding
    exact (timely ⟨current, outstanding⟩).not_madeSince made
  · rintro never ⟨current, attempt, outstanding⟩
    rw [reached] at outstanding
    rcases current_or_madeSince outstanding with throughout | made
    · exact throughout
    · exact absurd ⟨current, made⟩ never

/-- The attempt fails during which the reconnect was issued. -/
theorem failure_ends_own_attempt :
    let front := journal {} [.issue (.connect "a:1" "me"), .resolve 0 (.answered "") 0,
      .event ⟨"a:1", .connectionLost "gone"⟩ 1, .tick 2000, .issue .reconnect] {}
    let s := front.foldl (move {}) {}
    let p := s.note .reconnect 1
    ∃ before since, Issued {} front before since p ∧
      (s.move {} (.conclude p "refused" 2001)).connection.progress ≠ s.connection.progress ∧
      Current {} (before.foldl (move {}) {}) since := by
  intro front s p
  have pre : front ++ [.conclude p "refused" 2001] <+:
      journal {} [.issue (.connect "a:1" "me"), .resolve 0 (.answered "") 0,
        .event ⟨"a:1", .connectionLost "gone"⟩ 1, .tick 2000, .issue .reconnect,
        .resolve 1 (.answered "refused") 2001] {} := ⟨[], rfl⟩
  obtain ⟨before, since, issued, -, timely⟩ := failure_is_timely_iff pre rfl (by decide)
  have changes : (s.move {} (.conclude p "refused" 2001)).connection.progress ≠
      s.connection.progress := by decide +kernel
  have known : Issued {} front [.prepare (.connect "a:1" "me"),
      .conclude (({} : Session).note (.connect "a:1" "me") 0) "" 0,
      .receive ⟨"a:1", .connectionLost "gone"⟩ 1, .tick 2000] [] p := ⟨rfl, by decide +kernel⟩
  refine ⟨before, since, issued, changes, timely.2 ?_ changes⟩
  rintro ⟨-, mid, now, after, made, -⟩
  obtain ⟨-, rfl⟩ := issued.unique known
  simp at made

/-- The attempt of the reconnect is cancelled, a connect that was in flight succeeds, and the
server is lost again: the failure ends the first attempt of the second countdown. -/
theorem failure_ends_later_attempt :
    let issued := run {} [.issue (.connect "a:1" "me"), .resolve 0 (.answered "") 0,
      .issue (.connect "a:1" "me"), .event ⟨"a:1", .connectionLost "gone"⟩ 0, .tick 1000,
      .issue .reconnect] {}
    let cancelled := issued.step {} .cancelReconnect
    let connected := cancelled.step {} (.resolve 1 (.answered "") 1000)
    let s := run {} [.event ⟨"a:1", .connectionLost "gone again"⟩ 1000, .tick 2000] connected
    let result := s.perform {} (.resolve 2 (.answered "refused") 2000)
    issued.connection.progress = (.connecting, .connecting 1) ∧
      cancelled.connection.progress = (.disconnected, .inactive) ∧
      connected.connection.progress = (.connected, .inactive) ∧
      s.connection.progress = (.connecting, .connecting 1) ∧
      s.inFlight.map Pending.command = [.reconnect] ∧
      result.2 = [(2, .returned "refused")] ∧
      result.1.connection.progress = (.disconnected, .retrying 1 (some 4000)) := by
  decide +kernel

end Session

end VoiceChat
