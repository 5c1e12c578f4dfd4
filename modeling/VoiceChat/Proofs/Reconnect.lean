import Mathlib.Data.List.Induction
import VoiceChat.Proofs.Flags

/-!
# Where a reconnect goes

A countdown goes back to a loss of the server that was connected, and as long as it is
under way that server stays the one connected to last (`exists_countdown`). A reconnect
asks for the server of the connect issued last (`credentials_run`), be it a switch that
failed long before the loss. The two agree unless a connect to another server was
the last one issued (`reconnect_returns_iff`).
-/

namespace VoiceChat.Session

/-- The address and the name that a reconnect will use. -/
def credentials (s : Session) : Text × Text := (s.lastAddress, s.lastUsername)

/-- Address and name of the connect issued last, given those known before an action. -/
def lastOf (last : Text × Text) : Action → Text × Text
  | .issue (.connect address username) => (address, username)
  | _ => last

/-- Address and name of the connect issued last, empty if there was none. -/
def lastConnect (actions : List Action) : Text × Text := actions.foldl lastOf ("", "")

/-- A countdown that is under way after a run: the loss that started it, and what has
happened before and after. -/
structure Countdown (settings : Settings) (actions before : List Action) (event : Event)
    (now : Int) (after : List Action) : Prop where
  actions_eq : actions = before ++ .event event now :: after
  loses : (run settings before {}).losesServer event = true
  since : ∀ front, front <+: after →
    (run settings (before ++ .event event now :: front) {}).connection.reconnect.isActive = true

variable {settings : Settings} {s : Session}

/-! ## What a reconnect will use -/

theorem credentials_move {m : Move} (h : ∀ command, m ≠ .prepare command) :
    (s.move settings m).credentials = s.credentials := by
  cases m with
  | receive event now =>
    obtain ⟨_, _, _, received⟩ := receive_eq settings (s := s) now event
    simp only [move, received]
    rfl
  | conclude p error now =>
    obtain ⟨_, _, _, concluded⟩ := conclude_eq settings (s := s) now p error
    simp only [move, concluded]
    rfl
  | prepare command => exact absurd rfl (h command)
  | view | tick | cancelReconnect => rfl

theorem credentials_step (s : Session) (a : Action) :
    (s.step settings a).credentials = lastOf s.credentials a := by
  have untouched (h : ∀ command, a ≠ .issue command) :
      (s.step settings a).credentials = s.credentials := by
    refine step_keeps settings (P := fun t => t.credentials = s.credentials)
      (fun _ _ _ same => same) (fun m hm t same => ?_) rfl
    refine (credentials_move fun command prepares => ?_).trans same
    exact h command (issue_of_prepare (prepares ▸ hm))
  cases a with
  | issue command => cases command <;> rfl
  | _ => exact untouched nofun

theorem credentials_run (actions : List Action) (s : Session) :
    (run settings actions s).credentials = actions.foldl lastOf s.credentials := by
  induction actions generalizing s with
  | nil => rfl
  | cons a actions ih => rw [run_cons, ih, credentials_step, List.foldl_cons]

/-! ## What started the countdown -/

theorem reconnecting_of_step {a : Action}
    (h : (s.step settings a).connection.reconnect.isActive = true) :
    (s.connection.reconnect.isActive = true ∧
      (s.step settings a).connection.address = s.connection.address) ∨
    ∃ event now, a = .event event now ∧ s.losesServer event = true := by
  have continued (other : ∀ event now, a ≠ .event event now) :
      (s.step settings a).connection.reconnect.isActive = true →
        s.connection.reconnect.isActive = true ∧
          (s.step settings a).connection.address = s.connection.address := by
    refine step_keeps settings (P := fun t => t.connection.reconnect.isActive = true →
        s.connection.reconnect.isActive = true ∧ t.connection.address = s.connection.address)
      (fun _ _ _ same => same) (fun m hm t same active => ?_) (fun active => ⟨active, rfl⟩)
    rcases reconnecting_of_move active with ⟨before, kept⟩ | ⟨event, now, rfl, -⟩
    · obtain ⟨first, address⟩ := same before
      exact ⟨first, kept.trans address⟩
    · exact absurd (event_of_receive hm) (other event now)
  cases a with
  | event event now =>
    rcases reconnecting_of_move (m := .receive event now) h with same | ⟨_, _, made, loses⟩
    · exact .inl same
    · cases made
      exact .inr ⟨event, now, rfl, loses⟩
  | _ =>
    left
    apply continued _ h
    intro event now same
    cases same

theorem Countdown.snoc {actions before after : List Action} {event : Event} {now : Int}
    (h : Countdown settings actions before event now after) (a : Action)
    (active : (run settings (actions ++ [a]) {}).connection.reconnect.isActive = true) :
    Countdown settings (actions ++ [a]) before event now (after ++ [a]) where
  actions_eq := by simp [h.actions_eq]
  loses := h.loses
  since front pre := by
    rcases List.prefix_concat_iff.1 pre with rfl | earlier
    · simpa [h.actions_eq] using active
    · exact h.since front earlier

/-- A countdown under way was started by a loss, and the server lost is still the one
connected to last. -/
theorem exists_countdown {actions : List Action}
    (active : (run settings actions {}).connection.reconnect.isActive = true) :
    ∃ before event now after, Countdown settings actions before event now after ∧
      (run settings actions {}).connection.address =
        (run settings before {}).connection.address := by
  -- on the last action: it either started the countdown or kept the one before
  induction actions using List.reverseRecOn with
  | nil => cases active
  | append_singleton actions a ih =>
    have last : run settings (actions ++ [a]) {} = (run settings actions {}).step settings a :=
      run_append settings actions [a] {}
    rw [last] at active
    rcases reconnecting_of_step active with ⟨before, same⟩ | ⟨event, now, rfl, loses⟩
    · obtain ⟨front, event, now, after, countdown, address⟩ := ih before
      refine ⟨front, event, now, after ++ [a], countdown.snoc a (last ▸ active), ?_⟩
      rw [last, same, address]
    · refine ⟨actions, event, now, [], ⟨rfl, loses, fun front pre => ?_⟩, ?_⟩
      · rw [List.prefix_nil.1 pre, last]
        exact active
      · rw [last]
        exact congrArg Prod.fst (servers_receive settings now event)

/-! ## Where it goes -/

/-- While an attempt is being made, the server connected to last is the one whose loss started
the countdown. A reconnect asks for the server of the connect issued last, which is
the same one exactly if that connect went there. -/
theorem reconnect_returns_iff (actions : List Action) {attempt : Nat}
    (outstanding : (run settings actions {}).connection.reconnect = .connecting attempt) :
    let s := run settings actions {}
    let call := (s.issue .reconnect).2.call
    ∃ before event now after, Countdown settings actions before event now after ∧
      let lost := (run settings before {}).connection.address
      s.connection.address = lost ∧
      call = .connect (lastConnect actions).1 (lastConnect actions).2 ∧
      ((∃ username, call = .connect lost username) ↔ (lastConnect actions).1 = lost) := by
  intro s call
  have active : s.connection.reconnect.isActive = true := by
    rw [outstanding]
    rfl
  obtain ⟨before, event, now, after, countdown, address⟩ := exists_countdown active
  have asked : call = .connect (lastConnect actions).1 (lastConnect actions).2 := by
    have known : s.credentials = lastConnect actions := credentials_run actions {}
    rw [← known]
    rfl
  refine ⟨before, event, now, after, countdown, address, asked, ?_⟩
  rw [asked]
  constructor
  · rintro ⟨username, same⟩
    exact (Command.connect.inj same).1
  · intro same
    exact ⟨(lastConnect actions).2, by rw [same]⟩

/-- Before the loss a switch to another server was tried, and the server was connected to
again. -/
theorem returns_after_switching_back :
    let actions := [.issue (.connect "a:1" "me"), .resolve 0 (.answered "") 0,
      .issue (.connect "b:2" "me"), .resolve 1 (.raised "refused") 1,
      .issue (.connect "a:1" "you"), .resolve 2 (.answered "") 2,
      .event ⟨"", .connectionLost "gone"⟩ 3, .tick 2000]
    let s := run {} actions {}
    s.connection.reconnect = .connecting 1 ∧
      ∃ before event now after, Countdown {} actions before event now after ∧
        ∃ username, (s.issue .reconnect).2.call =
          .connect (run {} before {}).connection.address username := by
  intro actions s
  have outstanding : s.connection.reconnect = .connecting 1 := by decide +kernel
  have here : s.connection.address = (lastConnect actions).1 := by decide +kernel
  obtain ⟨before, event, now, after, countdown, address, -, returns⟩ :=
    reconnect_returns_iff actions outstanding
  exact ⟨outstanding, before, event, now, after, countdown,
    returns.2 (here.symm.trans address)⟩

/-- A switch that failed before the loss: the reconnect asks for the server that refused. -/
theorem reconnect_strays_after_failed_switch :
    let actions := [.issue (.connect "a:1" "me"), .resolve 0 (.answered "") 0,
      .issue (.connect "b:2" "me"), .resolve 1 (.raised "refused") 1]
    let lost := run {} actions {}
    let s := run {} [.event ⟨"a:1", .connectionLost "gone"⟩ 2, .tick 2000] lost
    lost.losesServer ⟨"a:1", .connectionLost "gone"⟩ = true ∧
      lost.connection.address = "a:1" ∧ s.connection.address = "a:1" ∧
      s.connection.reconnect = .connecting 1 ∧
      (s.issue .reconnect).2.call = .connect "b:2" "me" := by
  decide +kernel

end VoiceChat.Session
