import VoiceChat.Proofs.ResultOrder
import VoiceChat.Session.Loop

/-!
# The moves of the event loop

A moment of the event loop rearranges the commands in flight (`flight`), and then makes
at most one move of a session (`step_eq_moves`). What a moment does to a command is told
apart here: its call ends at its turn or before it, it is woken, or it is cancelled.
-/

namespace VoiceChat.Loop

open Session (Move Flight move)

/-! ## What a moment does -/

/-- What a moment makes of the commands in flight. -/
def flight (s : Session) : Moment → Flight
  | .issue command =>
    { calling := s.calling ++ [s.note command s.queue.next], queue := s.queue.issue.1 }
  | .endCall ticket ending _ =>
    match s.calling.find? (·.ticket = ticket) with
    | some p =>
      let rest := s.calling.filter (·.ticket ≠ ticket)
      match ending with
      | .untellable => { calling := rest, queue := s.queue }
      | .replied reply =>
        let result := (p, p.command.errorOf reply)
        if ticket = s.queue.serving then
          { calling := rest, queue := s.queue.advance, admitted := [result] }
        else { calling := rest, queue := s.queue.await ticket result }
    | none => { calling := s.calling, queue := s.queue }
  | .wake _ =>
    match s.queue.turn? with
    | some (holder, left) =>
      { calling := s.calling, queue := left.advance, admitted := [holder.value] }
    | none => { calling := s.calling, queue := s.queue }
  | .cancel ticket =>
    if s.isRunning ticket then
      let line := { s.queue with waiting := s.queue.waiting.eraseP (·.ticket = ticket) }
      { calling := s.calling.filter (·.ticket ≠ ticket), queue := line.forsake ticket }
    else { calling := s.calling, queue := s.queue }
  | _ => { calling := s.calling, queue := s.queue }

/-- The moves of a moment, one at most. -/
def moves (s : Session) (m : Moment) : List Move :=
  match m with
  | .event event now => [.receive event now]
  | .view channel => [.view channel]
  | .tick now => [.tick now]
  | .cancelReconnect => [.cancelReconnect]
  | .issue command => [.prepare command]
  | .endCall _ _ now => (flight s m).admitted.map fun r => .conclude r.1 r.2 now
  | .wake now => (flight s m).admitted.map fun r => .conclude r.1 r.2 now
  | .cancel _ => []

/-- The moves of some moments, in order. -/
def journal (settings : Settings) : List Moment → Session → List Move
  | [], _ => []
  | m :: ms, s => moves s m ++ journal settings ms (step settings s m)

variable (settings : Settings)

/-- Whether a result fails does not depend on what is in flight. -/
theorem fault_withFlight {s : Session} (calling : List Pending)
    (queue : TurnQueue (Pending × Text)) (now : Int) (p : Pending) (error : Text) :
    ((s.withFlight calling queue).conclude settings now p error).2 =
      (s.conclude settings now p error).2 := by
  have same : (s.withFlight calling queue).isStale p = s.isStale p := rfl
  cases hc : p.command with
  | reconnect =>
    simp only [Session.conclude, hc, same]
    split
    · rfl
    · unfold Session.concludeReconnect
      split <;> rfl
  | _ => simp only [Session.conclude, hc]

theorem takeTurn_eq (now : Int) (p : Pending) (error : Text) (s : Session) :
    takeTurn settings now p error s =
      let concluded := (s.withFlight s.calling s.queue.advance).conclude settings now p error
      (concluded.1, [(p.ticket, .ended (Session.outcomeOf p error concluded.2))]) := by
  have calling : (s.conclude settings now p error).1.calling = s.calling :=
    Session.calling_move settings (.conclude p error now)
  have queue : (s.conclude settings now p error).1.queue = s.queue :=
    Session.queue_move settings (.conclude p error now)
  simp only [takeTurn, fault_withFlight, Session.conclude_withFlight]
  rw [queue, Session.withFlight, ← calling]

theorem step_eq_moves (s : Session) (m : Moment) :
    step settings s m =
      (moves s m).foldl (move settings) (s.withFlight (flight s m).calling (flight s m).queue) := by
  cases m with
  | event | view | tick | cancelReconnect => rfl
  | issue command => cases command <;> rfl
  | endCall ticket ending now =>
    cases found : s.calling.find? (·.ticket = ticket) with
    | none =>
      simp only [step, perform, endCall, moves, flight, found]
      rfl
    | some p =>
      cases ending with
      | untellable =>
        simp only [step, perform, endCall, moves, flight, found]
        rfl
      | replied reply =>
        simp only [step, perform, endCall, moves, flight, found, takeTurn_eq]
        split <;> rfl
  | wake now =>
    cases found : s.queue.turn? with
    | none =>
      simp only [step, perform, wake, moves, flight, found]
      rfl
    | some turn =>
      simp only [step, perform, wake, moves, flight, found, takeTurn_eq]
      rfl
  | cancel ticket =>
    simp only [step, perform, cancel, moves, flight]
    split <;> rfl

theorem journal_append (ms later : List Moment) (s : Session) :
    journal settings (ms ++ later) s =
      journal settings ms s ++ journal settings later (run settings ms s) := by
  induction ms generalizing s with
  | nil => rfl
  | cons m ms ih => simp [journal, ih]

/-- After a moment exactly the commands that it has arranged are in flight. -/
theorem flight_step (s : Session) (m : Moment) :
    (step settings s m).calling = (flight s m).calling ∧
    (step settings s m).queue = (flight s m).queue := by
  rw [step_eq_moves, Session.foldl_withFlight]
  exact ⟨rfl, rfl⟩

theorem foldl_step (s : Session) (m : Moment) (ms : List Move) :
    ms.foldl (move settings) (step settings s m) =
      (ms.foldl (move settings) ((moves s m).foldl (move settings) s)).withFlight
        (flight s m).calling (flight s m).queue := by
  rw [step_eq_moves, Session.foldl_withFlight, Session.foldl_withFlight]

/-- Apart from what is in flight, some moments lead to where their moves lead. -/
theorem run_eq_journal (ms : List Moment) (s : Session) :
    run settings ms s =
      ((journal settings ms s).foldl (move settings) s).withFlight
        (run settings ms s).calling (run settings ms s).queue := by
  induction ms generalizing s with
  | nil => rfl
  | cons m ms ih =>
    have rest := ih (step settings s m)
    rw [foldl_step] at rest
    rw [run_cons, journal, List.foldl_append]
    exact rest

section

variable {settings} {s : Session} {p : Pending} (reply : Reply)
  (found : s.calling.find? (·.ticket = p.ticket) = some p)
include found

theorem flight_endCall_turn (turn : p.ticket = s.queue.serving) (now : Int) :
    flight s (.endCall p.ticket (.replied reply) now) =
      { calling := s.calling.filter (·.ticket ≠ p.ticket)
        queue := s.queue.advance
        admitted := [(p, p.command.errorOf reply)] } := by
  simp only [flight, found, if_pos turn]

theorem notice_endCall_turn (turn : p.ticket = s.queue.serving) (now : Int) :
    (perform settings s (.endCall p.ticket (.replied reply) now)).2 =
      let error := p.command.errorOf reply
      [(p.ticket, .ended (Session.outcomeOf p error (s.conclude settings now p error).2))] := by
  simp only [perform, endCall, found, if_pos turn, takeTurn_eq, fault_withFlight]
  have same := fault_withFlight settings (s := s) (s.calling.filter (·.ticket ≠ p.ticket)) s.queue
    now p (p.command.errorOf reply)
  exact congrArg (fun fault => [(p.ticket, Fate.ended (Session.outcomeOf p _ fault))]) same

theorem flight_endCall_wait (early : p.ticket ≠ s.queue.serving) (now : Int) :
    flight s (.endCall p.ticket (.replied reply) now) =
      { calling := s.calling.filter (·.ticket ≠ p.ticket)
        queue := s.queue.await p.ticket (p, p.command.errorOf reply) } := by
  simp only [flight, found, if_neg early]

theorem notice_endCall_wait (early : p.ticket ≠ s.queue.serving) (now : Int) :
    (perform settings s (.endCall p.ticket (.replied reply) now)).2 = [] := by
  simp only [perform, endCall, found, if_neg early]

end

section

variable {settings} {s : Session} {holder : Holder (Pending × Text)}
  {left : TurnQueue (Pending × Text)} (found : s.queue.turn? = some (holder, left))
include found

theorem flight_wake (now : Int) :
    flight s (.wake now) =
      { calling := s.calling, queue := left.advance, admitted := [holder.value] } := by
  simp only [flight, found]

theorem notice_wake (now : Int) :
    (perform settings s (.wake now)).2 =
      let result := holder.value
      [(result.1.ticket,
        .ended (Session.outcomeOf result.1 result.2
          (s.conclude settings now result.1 result.2).2))] := by
  simp only [perform, wake, found, takeTurn_eq, fault_withFlight]
  have same := fault_withFlight settings (s := s) s.calling left now holder.value.1 holder.value.2
  exact congrArg (fun fault => [(_, Fate.ended (Session.outcomeOf _ _ fault))]) same

end

section

variable {settings} {s : Session} {ticket : Int} (running : s.isRunning ticket = true)
include running

theorem flight_cancel :
    flight s (.cancel ticket) =
      { calling := s.calling.filter (·.ticket ≠ ticket)
        queue := TurnQueue.forsake ticket
          { s.queue with waiting := s.queue.waiting.eraseP (·.ticket = ticket) } } := by
  simp only [flight, running, if_true]

theorem notice_cancel :
    (perform settings s (.cancel ticket)).2 = [(ticket, .ended .cancelled)] := by
  simp only [perform, cancel, running, if_true]

end

/-- What holds of the results in line, and of the one that the transport replies, holds of those
that a moment applies or leaves in line. -/
theorem flight_only {P : Pending × Text → Prop} {s : Session} {m : Moment}
    (inLine : ∀ holder ∈ s.queue.waiting, P holder.value)
    (replied : ∀ ticket reply now p, m = .endCall ticket (.replied reply) now →
      s.calling.find? (·.ticket = ticket) = some p → P (p, p.command.errorOf reply)) :
    TurnQueue.Only P ((flight s m).queue, (flight s m).admitted) := by
  have idle : TurnQueue.Only P (s.queue, []) := ⟨fun _ hr => absurd hr List.not_mem_nil, inLine⟩
  cases m with
  | event | view | tick | cancelReconnect => exact idle
  | issue command => exact ⟨fun _ hr => absurd hr List.not_mem_nil, inLine⟩
  | endCall ticket ending now =>
    cases found : s.calling.find? (·.ticket = ticket) with
    | none =>
      simp only [flight, found]
      exact idle
    | some p =>
      cases ending with
      | untellable =>
        simp only [flight, found]
        exact idle
      | replied reply =>
        have told := replied ticket reply now p rfl found
        simp only [flight, found]
        split
        · exact ⟨fun r hr => List.mem_singleton.1 hr ▸ told, inLine⟩
        · refine ⟨fun _ hr => absurd hr List.not_mem_nil, fun holder hh => ?_⟩
          rcases List.mem_append.1 hh with old | new
          · exact inLine holder old
          · exact List.mem_singleton.1 new ▸ told
  | wake now =>
    cases found : s.queue.turn? with
    | none =>
      simp only [flight, found]
      exact idle
    | some turn =>
      obtain ⟨holder, left⟩ := turn
      obtain ⟨-, line, -⟩ := TurnQueue.turn?_eq_some found
      simp only [flight, found]
      refine ⟨fun r hr => ?_, fun other ho => ?_⟩
      · exact List.mem_singleton.1 hr ▸ inLine holder (line.mem_iff.2 List.mem_cons_self)
      · exact inLine other (line.mem_iff.2 (List.mem_cons_of_mem _ ho))
  | cancel ticket =>
    by_cases running : s.isRunning ticket = true
    · rw [flight_cancel running]
      refine ⟨fun _ hr => absurd hr List.not_mem_nil, fun holder hh => ?_⟩
      rw [TurnQueue.waiting_forsake] at hh
      exact inLine holder (List.mem_of_mem_eraseP hh)
    · simp only [flight, running]
      exact idle

end VoiceChat.Loop
