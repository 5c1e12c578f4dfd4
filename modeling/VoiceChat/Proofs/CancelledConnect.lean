import VoiceChat.Proofs.FailedSwitch
import VoiceChat.Proofs.Origins

/-!
# A cancelled connect is not undone

A connect counts as under way as soon as it is issued: its address is pending, its stage is
there, and the session is connecting unless a server is connected. The result of the connect
ends that, and a cancelled one has no result. Cancelling it comes to the same as its failure
only where nothing of it is left (`cancelled_connect_rolls_back_iff`).
-/

namespace VoiceChat.Session

/-- Agreement on the phase of the server, the server connected to last, the pending address,
and the servers that have a stage. -/
structure SameStanding (x y : Session) : Prop where
  server : x.connection.server = y.connection.server
  address : x.connection.address = y.connection.address
  pendingAddress : x.connection.pendingAddress = y.connection.pendingAddress
  staged : ∀ server, x.staged.contains server = y.staged.contains server

/-- Whether nothing is left of what a connect did when it was issued. -/
structure Traceless (s : Session) (p : Pending) : Prop where
  server : s.connection.server ≠ .connecting
  pendingAddress : s.connection.pendingAddress = ""
  unstaged : p.switching = true → s.staged.contains p.address = false

variable {settings : Settings} {s : Session} {p : Pending}

/-! ## What the failure would undo -/

theorem sameStanding_failure_iff (settings : Settings) {address username error : Text}
    (connects : p.command = .connect address username) (failed : error ≠ "") (now : Int) :
    SameStanding s (s.conclude settings now p error).1 ↔ s.isStale p = true ∨ s.Traceless p := by
  cases stale : s.isStale p with
  | true =>
    have still : (s.conclude settings now p error).1 = s := by simp [conclude, connects, stale]
    rw [still]
    exact iff_of_true ⟨rfl, rfl, rfl, fun _ => rfl⟩ (.inl rfl)
  | false =>
    have undone : (s.conclude settings now p error).1 =
        { s with
          connection := s.connection.connectFailed error
          staged := if p.switching then s.staged.erase p.address else s.staged } := by
      simp [conclude, connects, stale, concludeConnect, failed]
    rw [undone]
    simp only [Bool.false_eq_true, false_or]
    constructor
    · intro same
      refine ⟨?_, same.pendingAddress, ?_⟩
      · intro connecting
        have server := same.server
        simp [Connection.connectFailed, connecting] at server
      · intro switching
        have staged := same.staged p.address
        simpa [switching, Table.contains, Table.get?_erase] using staged
    · intro none
      refine ⟨?_, rfl, none.pendingAddress, ?_⟩
      · simp [Connection.connectFailed, none.server]
      · intro server
        cases switching : p.switching with
        | true =>
          have absent : p.address ∉ s.staged.keys := by
            rw [← Table.get?_isSome_iff]
            exact Bool.eq_false_iff.1 (none.unstaged switching)
          simp [Table.erase_of_notMem absent]
        | false => rfl

/-! ## What is left of a connect -/

theorem servers_foldl {moves : List Move} (h : ∀ m ∈ moves, m.steers = false) (s : Session) :
    (moves.foldl (move settings) s).connection.servers = s.connection.servers := by
  refine foldl_keeps settings (P := fun t => t.connection.servers = s.connection.servers) ?_ rfl
  intro m made t same
  exact (servers_move settings (h m made)).trans same

/-- As long as nothing else steers the connection, a connect to a named server leaves its traces
and is not stale. -/
theorem Issued.traces {front before since : List Move} (h : Issued settings front before since p)
    {address username : Text} (connects : p.command = .connect address username)
    (named : address ≠ "") (idle : ∀ m ∈ since, m.steers = false) :
    let s := front.foldl (move settings) {}
    ¬(s.isStale p = true ∨ s.Traceless p) := by
  intro s
  have servers : s.connection.servers =
      ((before.foldl (move settings) {}).prepare p.command).connection.servers := by
    have reached : s = _ := h.foldl_eq
    rw [reached]
    exact servers_foldl idle _
  rintro (stale | none)
  · obtain ⟨m, made, disconnects⟩ := h.isStale_iff.1 stale
    cases m with
    | prepare command =>
      have steady := idle _ made
      cases command <;> cases disconnects
      cases steady
    | _ => cases disconnects
  · have pending : s.connection.pendingAddress = address := by
      rw [connects] at servers
      exact congrArg (·.2.1) servers
    exact named (pending.symm.trans none.pendingAddress)

/-! ## Cancelling a connect -/

/-- What else is in flight does not matter to the traces. -/
theorem traces_withFlight_iff (calling : List Pending) (queue : TurnQueue (Pending × Text)) :
    ((s.withFlight calling queue).isStale p = true ∨ (s.withFlight calling queue).Traceless p) ↔
      (s.isStale p = true ∨ s.Traceless p) :=
  or_congr Iff.rfl
    ⟨fun h => ⟨h.server, h.pendingAddress, h.unstaged⟩,
      fun h => ⟨h.server, h.pendingAddress, h.unstaged⟩⟩

/-- In every reachable state in which a connect is the only command in flight, cancelling it
brings about what its failure would have brought about exactly if the connect is stale or has left
no traces. As long as nothing else has steered the connection since it was issued, a
connect to a named server is not undone when it is cancelled. -/
theorem cancelled_connect_rolls_back_iff {actions : List Action} {address username : Text}
    (alone : (run settings actions {}).inFlight = [p])
    (connects : p.command = .connect address username)
    {reply : Reply} (failed : p.command.errorOf reply ≠ "") (now : Int) :
    let s := run settings actions {}
    let cancelled := s.perform settings (.cancel p.ticket now)
    let refused := s.perform settings (.resolve p.ticket reply now)
    cancelled.2 = [(p.ticket, .cancelled)] ∧
      refused.2 = [(p.ticket, .returned (p.command.errorOf reply))] ∧
      (SameStanding cancelled.1 refused.1 ↔ s.isStale p = true ∨ s.Traceless p) ∧
      ∃ before since, Issued settings (journal settings actions {}) before since p ∧
        (address ≠ "" → (∀ m ∈ since, m.steers = false) →
          ¬SameStanding cancelled.1 refused.1) := by
  intro s cancelled refused
  have inTurn : s.InTurn := Reachable.inTurn ⟨actions, rfl⟩
  obtain ⟨calling, waiting, turn⟩ := inTurn.alone alone
  have left : cancelled = _ := cancel_alone settings calling waiting turn now
  have ended : refused = _ := resolve_alone settings calling waiting turn reply now
  have standing : SameStanding cancelled.1 refused.1 ↔ s.isStale p = true ∨ s.Traceless p := by
    have undone := sameStanding_failure_iff settings (s := s.withFlight [] s.queue.advance)
      connects failed now
    rw [traces_withFlight_iff] at undone
    rw [left, ended]
    exact undone
  refine ⟨congrArg Prod.snd left, ?_, standing, ?_⟩
  · rw [ended]
    simp [conclude, outcomeOf, connects]
  · have inFlight : p ∈ s.inFlight := alone ▸ List.mem_singleton_self p
    obtain ⟨before, since, issued⟩ := issue_of_mem_inFlight inFlight
    refine ⟨before, since, issued, ?_⟩
    intro named idle
    have reached : s = _ := run_eq_journal settings actions {}
    rw [standing, reached, traces_withFlight_iff]
    exact issued.traces connects named idle

/-- The server of the connect is active already, another connect to it having succeeded in
the meantime: nothing is left to undo. -/
theorem nothing_to_undo_after_other_connect :
    let actions := [.issue (.connect "a:1" "me"), .issue (.connect "a:1" "me"),
      .resolve 0 (.answered "") 0]
    let s := run {} actions {}
    s.inFlight = [({} : Session).note (.connect "a:1" "me") 1] ∧
      SameStanding (s.perform {} (.cancel 1 0)).1 (s.perform {} (.resolve 1 (.raised "") 0)).1 := by
  intro actions s
  have alone : s.inFlight = [({} : Session).note (.connect "a:1" "me") 1] := by decide +kernel
  obtain ⟨-, -, standing, -⟩ := cancelled_connect_rolls_back_iff alone rfl
    (by decide : (Command.connect "a:1" "me").errorOf (.raised "") ≠ "") 0
  refine ⟨alone, standing.2 (.inr ?_)⟩
  exact ⟨by decide +kernel, by decide +kernel, fun _ => by decide +kernel⟩

/-- The first connect of a session is cancelled. -/
theorem session_connects_after_cancel :
    let s := run {} [.issue (.connect "a:1" "me")] {}
    let cancelled := (s.perform {} (.cancel 0 0)).1
    let refused := (s.perform {} (.resolve 0 (.raised "refused") 0)).1
    s.inFlight.map Pending.command = [.connect "a:1" "me"] ∧ cancelled.inFlight = [] ∧
      cancelled.connection.server = .connecting ∧ cancelled.connection.pendingAddress = "a:1" ∧
      cancelled.staged.contains "a:1" = true ∧
      refused.connection.server = .disconnected ∧ refused.connection.pendingAddress = "" ∧
      refused.staged.contains "a:1" = false := by
  decide +kernel

end VoiceChat.Session
