import Mathlib.Data.List.Nodup
import VoiceChat.Proofs.Moves
import VoiceChat.Proofs.Turns

/-!
# Results in the order of issue

Every command of a session holds a ticket, and its result is applied at the
turn of that ticket. `InTurn` ties the commands in flight to the turn queue;
every action keeps it (`inTurn_step`), and with it the results of a whole
run are applied in ascending order of tickets, no command ends twice, and none
is forgotten.
-/

namespace VoiceChat.Session

/-- The tickets of the commands whose results were applied, in order. -/
def applied (reports : List Report) : List Int :=
  (reports.filter (·.2 ≠ .cancelled)).map Prod.fst

/-- The tickets of the commands whose transport call is under way. -/
def called (s : Session) : List Int := s.calling.map Pending.ticket

/-- Every command in flight has its place in the queue, and no turn is left out. -/
structure InTurn (s : Session) : Prop where
  orderly : s.queue.Orderly (·.1.ticket) s.called
  rested : s.queue.Rested

/-! ## The commands that an action ends -/

variable {s : Session}

theorem outcomeOf_ne_cancelled (p : Pending) (error : Text) (fault : Option Fault) :
    outcomeOf p error fault ≠ .cancelled := by
  unfold outcomeOf
  split
  · simp
  · split <;> simp

theorem concludeAll_reports (settings : Settings) (now : Int)
    (results : List (Pending × Text)) (s : Session) :
    (concludeAll settings now results s).2.map Prod.fst = results.map (·.1.ticket) ∧
    applied (concludeAll settings now results s).2 = results.map (·.1.ticket) := by
  induction results generalizing s with
  | nil => exact ⟨rfl, rfl⟩
  | cons r results ih =>
    obtain ⟨p, error⟩ := r
    obtain ⟨tickets, applied'⟩ := ih (s.conclude settings now p error).1
    have ran := outcomeOf_ne_cancelled p error (s.conclude settings now p error).2
    constructor
    · simp only [concludeAll, List.map_cons, tickets]
    · unfold applied at applied' ⊢
      simp only [concludeAll, List.map_cons]
      rw [List.filter_cons_of_pos (by simpa using ran), List.map_cons, applied']

/-- The ticket that an action cancels. -/
def cancels (s : Session) : Action → List Int
  | .cancel ticket _ => if s.isRunning ticket then [ticket] else []
  | _ => []

theorem perform_resolve (settings : Settings) (s : Session) (ticket : Int) (reply : Reply)
    (now : Int) :
    s.perform settings (.resolve ticket reply now) =
      concludeAll settings now (s.flight (.resolve ticket reply now)).admitted
        (s.register (.resolve ticket reply now)) := by
  cases found : s.calling.find? (·.ticket = ticket) with
  | some p =>
    simp only [perform, resolve, register, flight, found]
    rfl
  | none =>
    simp only [perform, resolve, register, flight, found]
    rfl

theorem perform_cancel (settings : Settings) (s : Session) (ticket : Int) (now : Int) :
    s.perform settings (.cancel ticket now) =
      let concluded := concludeAll settings now (s.flight (.cancel ticket now)).admitted
        (s.register (.cancel ticket now))
      (concluded.1, (s.cancels (.cancel ticket now)).map (·, .cancelled) ++ concluded.2) := by
  by_cases running : s.isRunning ticket = true
  · simp only [perform, cancel, register, flight, cancels, running, if_true]
    rfl
  · simp only [perform, cancel, register, flight, cancels, running, Bool.false_eq_true, if_false]
    rfl

/-- An action ends the command that it cancels and those whose results it
applies, and no other. -/
theorem reports_perform (settings : Settings) (a : Action) :
    (s.perform settings a).2.map Prod.fst =
      s.cancels a ++ (s.flight a).admitted.map (·.1.ticket) ∧
    applied (s.perform settings a).2 = (s.flight a).admitted.map (·.1.ticket) := by
  cases a with
  | event | view | tick | cancelReconnect | issue => exact ⟨rfl, rfl⟩
  | resolve ticket reply now =>
    rw [perform_resolve]
    exact concludeAll_reports settings now _ _
  | cancel ticket now =>
    obtain ⟨tickets, applied'⟩ := concludeAll_reports settings now
      (s.flight (.cancel ticket now)).admitted (s.register (.cancel ticket now))
    rw [perform_cancel]
    refine ⟨?_, ?_⟩
    · rw [List.map_append, tickets, List.map_map]
      exact congrArg (· ++ _) (List.map_id _)
    · have none : applied ((s.cancels (.cancel ticket now)).map (·, .cancelled)) = [] := by
        simp [applied]
      rw [applied] at none applied' ⊢
      rw [List.filter_append, List.map_append, none, applied', List.nil_append]

/-- The ticket that an action hands out. -/
def issues (s : Session) : Action → List Int
  | .issue _ => [s.queue.next]
  | _ => []

/-- What becomes of the commands in flight: each one issued or in flight before is
cancelled, has its result applied, or is in flight still. -/
structure Sequenced (s : Session) (f : Flight) (cancelled issued : List Int) : Prop where
  orderly : f.queue.Orderly (·.1.ticket) (f.calling.map Pending.ticket)
  rested : f.queue.Rested
  next_eq : f.queue.next = s.queue.next + issued.length
  le : s.queue.serving ≤ f.queue.serving
  ascending : (f.admitted.map (·.1.ticket)).Pairwise (· < ·)
  within : ∀ t ∈ f.admitted.map (·.1.ticket), s.queue.serving ≤ t ∧ t < f.queue.serving
  split : (cancelled ++ f.admitted.map (·.1.ticket) ++
    (f.calling.map Pending.ticket ++ f.queue.lined)).Perm (issued ++ s.called ++ s.queue.lined)

theorem InTurn.idle (hs : s.InTurn) :
    Sequenced s { calling := s.calling, queue := s.queue } [] [] where
  orderly := hs.orderly
  rested := hs.rested
  next_eq := by simp
  le := Int.le_refl _
  ascending := .nil
  within := by simp
  split := List.Perm.refl _

/-- Tickets that move from the commands called to those in line are not lost, and neither are
those that move on from there. -/
theorem perm_split (cancelled moved : List Int) {admitted before after called lined : List Int}
    (hc : called.Perm (moved ++ after))
    (hl : (cancelled ++ (admitted ++ before)).Perm (moved ++ lined)) :
    (cancelled ++ admitted ++ (after ++ before)).Perm (called ++ lined) := by
  refine List.perm_iff_count.2 fun t => ?_
  have hc := hc.count_eq t
  have hl := hl.count_eq t
  simp only [List.count_append] at hc hl ⊢
  omega

theorem InTurn.called_perm (hs : s.InTurn) {t : Int} (ht : t ∈ s.called) :
    s.called.Perm (t :: (s.calling.filter (·.ticket ≠ t)).map Pending.ticket) := by
  have nodup : s.called.Nodup :=
    (List.nodup_append.1 (List.nodup_append.1 hs.orderly.covers.nodup).1).1
  have taken := perm_cons_filter_ne nodup ht
  rwa [called, List.filter_map] at taken

theorem InTurn.issue (hs : s.InTurn) (command : Command) :
    Sequenced s (s.flight (.issue command)) [] [s.queue.next] where
  orderly := by
    refine (TurnQueue.orderly_issue hs.orderly).perm_out ?_
    simp only [flight, note, called, List.map_append, List.map_cons, List.map_nil]
    exact (List.perm_append_singleton _ _).symm
  rested := ⟨hs.rested.settled, hs.rested.current⟩
  next_eq := by simp [flight, TurnQueue.issue]
  le := Int.le_refl _
  ascending := .nil
  within := by simp [flight]
  split := by
    simp only [flight, note, called, List.map_append, List.map_cons, List.map_nil,
      List.nil_append]
    exact (List.perm_append_singleton _ _).append_right _

theorem InTurn.resolve (hs : s.InTurn) {ticket : Int} {p : Pending}
    (hf : s.calling.find? (·.ticket = ticket) = some p) (reply : Reply) (now : Int) :
    Sequenced s (s.flight (.resolve ticket reply now)) [] [] := by
  have held : p.ticket = ticket := by simpa using List.find?_some hf
  have ht : ticket ∈ s.called := List.mem_map.2 ⟨p, List.mem_of_find?_eq_some hf, held⟩
  have taken := hs.called_perm ht
  obtain ⟨orderly, admits⟩ := TurnQueue.enter_admits (v := (p, p.command.errorOf reply))
    (hs.orderly.perm_out taken) held
  simp only [flight, hf]
  refine ⟨orderly, TurnQueue.rested_enter hs.rested _ _, by simp [admits.next_eq], admits.le,
    admits.ascending, admits.within, ?_⟩
  exact perm_split [] [ticket] taken admits.split

theorem lined_of_isRunning {ticket : Int} (running : s.isRunning ticket = true)
    (ended : ¬s.calling.any (·.ticket = ticket) = true) : ticket ∈ s.queue.lined := by
  simp only [isRunning, ended, Bool.false_eq_true, false_or, decide_eq_true_eq,
    List.any_eq_true] at running
  obtain ⟨holder, mem, held⟩ := running
  exact List.mem_map.2 ⟨holder, mem, held⟩

theorem InTurn.cancel (hs : s.InTurn) {ticket : Int} (hr : s.isRunning ticket = true) (now : Int) :
    Sequenced s (s.flight (.cancel ticket now)) [ticket] [] := by
  simp only [flight, hr, if_true]
  by_cases hc : s.calling.any (·.ticket = ticket) = true
  · have ht : ticket ∈ s.called := by simpa [called] using hc
    have taken := hs.called_perm ht
    obtain ⟨orderly, admits⟩ := TurnQueue.abandon_admits (hs.orderly.perm_out taken)
    simp only [hc, if_true]
    exact ⟨orderly, TurnQueue.rested_abandon hs.rested _, by simp [admits.next_eq], admits.le,
      admits.ascending, admits.within,
      perm_split [ticket] [ticket] taken (admits.split.cons ticket)⟩
  · have ht := lined_of_isRunning hr hc
    have kept : s.calling.filter (·.ticket ≠ ticket) = s.calling := by
      refine List.filter_eq_self.2 fun p hp => ?_
      simp only [List.any_eq_true, not_exists, not_and] at hc
      simpa using hc p hp
    obtain ⟨orderly, admits⟩ := TurnQueue.leave_admits hs.orderly ht
    simp only [hc, kept, Bool.false_eq_true, if_false]
    exact ⟨orderly, TurnQueue.rested_leave hs.rested ht, by simp [admits.next_eq], admits.le,
      admits.ascending, admits.within, perm_split [ticket] [] (List.Perm.refl _)
        ((admits.split.cons ticket).trans (TurnQueue.perm_cons_eraseP ht).symm)⟩

theorem InTurn.sequenced (hs : s.InTurn) (a : Action) :
    Sequenced s (s.flight a) (s.cancels a) (s.issues a) := by
  cases a with
  | event | view | tick | cancelReconnect => exact hs.idle
  | issue command => exact hs.issue command
  | resolve ticket reply now =>
    cases hf : s.calling.find? (·.ticket = ticket) with
    | some p => exact hs.resolve hf reply now
    | none =>
      simp only [flight, hf]
      exact hs.idle
  | cancel ticket now =>
    by_cases hr : s.isRunning ticket = true
    · simp only [cancels, hr, if_true]
      exact hs.cancel hr now
    · simp only [flight, cancels, hr]
      exact hs.idle

/-! ## The tickets of the commands in flight -/

theorem InTurn.tickets_inFlight (hs : s.InTurn) :
    s.inFlight.map Pending.ticket = s.called ++ s.queue.lined := by
  rw [inFlight, List.map_append, List.map_map]
  exact congrArg (s.called ++ ·) (List.map_congr_left hs.orderly.tagged)

theorem isRunning_iff {ticket : Int} :
    s.isRunning ticket = true ↔ ticket ∈ s.called ++ s.queue.lined := by
  simp [isRunning, called, TurnQueue.lined]

/-- No two commands in flight hold the same ticket, nor does one that is just issued. -/
theorem InTurn.nodup_tickets (hs : s.InTurn) (a : Action) :
    ((s.issued a ++ s.inFlight).map Pending.ticket).Nodup := by
  have covers := hs.orderly.covers
  have before := (List.nodup_append.1 covers.nodup).1
  rw [List.map_append, hs.tickets_inFlight]
  cases a with
  | issue command =>
    refine List.nodup_cons.2 ⟨fun mem => ?_, before⟩
    exact Int.lt_irrefl _ ((covers.mem_iff _).1 (List.mem_append_left _ mem)).2
  | _ => exact before

/-- Among commands in flight and just issued, the ticket tells which one it is. -/
theorem InTurn.eq_of_ticket (hs : s.InTurn) {a : Action} {p q : Pending}
    (hp : p ∈ s.inFlight ∨ p ∈ s.issued a) (hq : q ∈ s.inFlight ∨ q ∈ s.issued a)
    (same : p.ticket = q.ticket) : p = q := by
  rw [or_comm, ← List.mem_append] at hp hq
  exact List.inj_on_of_nodup_map (hs.nodup_tickets a) hp hq same

theorem tickets_issued (s : Session) (a : Action) :
    (s.issued a).map Pending.ticket = s.issues a := by
  cases a <;> rfl

/-! ## The ticket being served -/

/-- Either the call of the ticket being served is under way, or nothing is in flight. -/
theorem InTurn.serving_called (hs : s.InTurn) :
    s.queue.serving ∈ s.called ∨ (s.inFlight = [] ∧ s.queue.serving = s.queue.next) := by
  have covers := hs.orderly.covers
  have none : s.queue.serving ∉ s.queue.lined := by
    intro waits
    obtain ⟨holder, mem, held⟩ := List.mem_map.1 waits
    exact hs.rested.settled holder mem held
  have current : s.queue.serving ∉ s.queue.abandoned.elems := hs.rested.current
  rcases Int.lt_or_eq_of_le covers.le with more | last
  · have placed := (covers.mem_iff _).2 ⟨Int.le_refl _, more⟩
    simp only [List.mem_append, none, current, or_false] at placed
    exact .inl placed
  · refine .inr ⟨?_, last⟩
    have empty : s.inFlight.map Pending.ticket = [] := by
      rw [hs.tickets_inFlight]
      refine List.eq_nil_iff_forall_not_mem.2 fun t ht => ?_
      have bound := (covers.mem_iff t).1 (List.mem_append_left _ ht)
      omega
    exact List.map_eq_nil_iff.1 empty

theorem InTurn.serving_eq_next (hs : s.InTurn) (calling : s.calling = []) :
    s.queue.serving = s.queue.next := by
  rcases hs.serving_called with called | ⟨-, next⟩
  · rw [Session.called, calling] at called
    cases called
  · exact next

/-! ## A command alone in flight -/

/-- The call of a command alone in flight is under way, and its ticket is being served. -/
theorem InTurn.alone (hs : s.InTurn) {p : Pending} (h : s.inFlight = [p]) :
    s.calling = [p] ∧ s.queue.waiting = [] ∧ p.ticket = s.queue.serving := by
  have served : s.queue.serving ∈ s.called := by
    apply hs.serving_called.resolve_right
    rintro ⟨none, -⟩
    rw [h] at none
    cases none
  rw [inFlight, List.append_eq_singleton_iff] at h
  rcases h with ⟨none, -⟩ | ⟨calling, waiting⟩
  · rw [called, none] at served
    cases served
  · rw [called, calling] at served
    exact ⟨calling, List.map_eq_nil_iff.1 waiting, (List.mem_singleton.1 served).symm⟩

theorem isRunning_of_called {ticket : Int} (called : ticket ∈ s.called) :
    s.calling.any (·.ticket = ticket) = true ∧ s.isRunning ticket = true := by
  have called : s.calling.any (·.ticket = ticket) = true := by
    obtain ⟨p, hp, held⟩ := List.mem_map.1 called
    exact List.any_eq_true.2 ⟨p, hp, decide_eq_true held⟩
  exact ⟨called, by simp [isRunning, called]⟩

/-- Where nobody waits, a command that is cancelled during its call only gives up its ticket. -/
theorem flight_cancel_called {ticket : Int} (called : ticket ∈ s.called)
    (waiting : s.queue.waiting = []) (now : Int) :
    s.flight (.cancel ticket now) =
      { calling := s.calling.filter (·.ticket ≠ ticket), queue := s.queue.forsake ticket } := by
  obtain ⟨called, running⟩ := isRunning_of_called called
  simp only [flight, running, called, if_true, TurnQueue.abandon_of_waiting waiting]

theorem cancel_called (settings : Settings) {ticket : Int} (called : ticket ∈ s.called)
    (waiting : s.queue.waiting = []) (now : Int) :
    s.cancel settings now ticket =
      (s.withFlight (s.calling.filter (·.ticket ≠ ticket)) (s.queue.forsake ticket),
        [(ticket, .cancelled)]) := by
  obtain ⟨called, running⟩ := isRunning_of_called called
  simp only [cancel, running, called, if_true, TurnQueue.abandon_of_waiting waiting]
  rfl

/-- Where nobody waits, a result whose turn it is is applied alone, as soon as the call ends. -/
theorem resolve_served (settings : Settings) {p : Pending}
    (found : s.calling.find? (·.ticket = p.ticket) = some p) (waiting : s.queue.waiting = [])
    (turn : p.ticket = s.queue.serving) (reply : Reply) (now : Int) :
    s.resolve settings now p.ticket reply =
      let rest := s.withFlight (s.calling.filter (·.ticket ≠ p.ticket)) s.queue.advance
      let concluded := rest.conclude settings now p (p.command.errorOf reply)
      (concluded.1, [(p.ticket, outcomeOf p (p.command.errorOf reply) concluded.2)]) := by
  simp only [resolve, found, TurnQueue.enter_of_waiting waiting turn]
  rfl

/-- A command alone in flight that is cancelled leaves everything else as it is. -/
theorem cancel_alone (settings : Settings) {p : Pending} (calling : s.calling = [p])
    (waiting : s.queue.waiting = []) (turn : p.ticket = s.queue.serving) (now : Int) :
    s.cancel settings now p.ticket =
      (s.withFlight [] s.queue.advance, [(p.ticket, .cancelled)]) := by
  have rest : s.calling.filter (·.ticket ≠ p.ticket) = [] := by simp [calling]
  rw [cancel_called settings (by simp [called, calling]) waiting, rest, turn,
    TurnQueue.forsake_serving]

/-- The result of a command alone in flight is applied as soon as its call ends. -/
theorem resolve_alone (settings : Settings) {p : Pending} (calling : s.calling = [p])
    (waiting : s.queue.waiting = []) (turn : p.ticket = s.queue.serving) (reply : Reply)
    (now : Int) :
    s.resolve settings now p.ticket reply =
      let concluded := (s.withFlight [] s.queue.advance).conclude settings now p
        (p.command.errorOf reply)
      (concluded.1, [(p.ticket, outcomeOf p (p.command.errorOf reply) concluded.2)]) := by
  have rest : s.calling.filter (·.ticket ≠ p.ticket) = [] := by simp [calling]
  rw [resolve_served settings (by simp [calling]) waiting turn, rest]

/-- A command issued while nothing is in flight ends as soon as its call does. -/
theorem resolve_only (settings : Settings) (hs : s.InTurn) (calling : s.calling = [])
    (waiting : s.queue.waiting = []) (command : Command) {x : Session}
    (hx : x.calling = s.calling ++ [s.note command s.queue.next] ∧ x.queue = s.queue.issue.1)
    (reply : Reply) (now : Int) :
    x.resolve settings now s.queue.next reply =
      let concluded := (x.withFlight [] x.queue.advance).conclude settings now
        (s.note command s.queue.next) (command.errorOf reply)
      (concluded.1, [(s.queue.next,
        outcomeOf (s.note command s.queue.next) (command.errorOf reply) concluded.2)]) := by
  obtain ⟨called, queue⟩ := hx
  rw [calling, List.nil_append] at called
  have line : x.queue.waiting = [] := by rw [queue]; exact waiting
  have turn : (s.note command s.queue.next).ticket = x.queue.serving := by
    rw [queue]
    exact (hs.serving_eq_next calling).symm
  exact resolve_alone settings called line turn reply now

/-- Whether an action issues a command. -/
def Action.isIssue : Action → Bool
  | .issue _ => true
  | _ => false

/-- Whether a move is the issue of a command. -/
def Move.isPrepare : Move → Bool
  | .prepare _ => true
  | _ => false

theorem length_issues (s : Session) (a : Action) :
    (s.issues a).length = if a.isIssue then 1 else 0 := by
  cases a <;> rfl

variable (settings : Settings)

theorem inTurn_step (hs : s.InTurn) (a : Action) : (s.step settings a).InTurn := by
  obtain ⟨calling, queue⟩ := flight_step settings s a
  have sequenced := hs.sequenced a
  refine ⟨?_, ?_⟩
  · rw [called, calling, queue]
    exact sequenced.orderly
  · rw [queue]
    exact sequenced.rested

theorem inTurn_start : ({} : Session).InTurn where
  orderly := ⟨covers_nil 0, by simp⟩
  rested := ⟨by simp [TurnQueue.IsSettled], IntSet.mem_empty _⟩

theorem conclude_mem_moves_iff {a : Action} {p : Pending} :
    (∃ error now, .conclude p error now ∈ s.moves a) ↔ ∃ r ∈ (s.flight a).admitted, r.1 = p := by
  cases a with
  | resolve | cancel =>
    constructor
    · rintro ⟨error, now, made⟩
      obtain ⟨r, admitted, same⟩ := List.mem_map.1 made
      obtain ⟨rfl, -, -⟩ := Move.conclude.inj same
      exact ⟨r, admitted, rfl⟩
    · rintro ⟨r, admitted, rfl⟩
      exact ⟨_, _, List.mem_map_of_mem admitted⟩
  | _ => simp [moves, flight]

/-- A command is in flight until it is cancelled or has its result applied. -/
theorem InTurn.mem_inFlight_step_iff (hs : s.InTurn) {a : Action} {p : Pending} :
    p ∈ (s.step settings a).inFlight ↔ (p ∈ s.inFlight ∨ p ∈ s.issued a) ∧
      p.ticket ∉ s.cancels a ∧ ¬∃ error now, .conclude p error now ∈ s.moves a := by
  obtain ⟨calling, queue⟩ := flight_step settings s a
  have after : (s.step settings a).inFlight.map Pending.ticket =
      (s.flight a).calling.map Pending.ticket ++ (s.flight a).queue.lined := by
    rw [(inTurn_step settings hs a).tickets_inFlight, called, calling, queue]
  have split := (hs.sequenced a).split
  rw [← after, ← tickets_issued, List.append_assoc (List.map _ _), ← hs.tickets_inFlight,
    ← List.map_append] at split
  have apart := (List.nodup_append.1 (split.nodup_iff.2 (hs.nodup_tickets a))).2.2
  rw [conclude_mem_moves_iff]
  constructor
  · intro hp
    have stays : p.ticket ∉ s.cancels a ++ (s.flight a).admitted.map (·.1.ticket) :=
      fun gone => apart _ gone _ (List.mem_map_of_mem hp) rfl
    refine ⟨mem_inFlight_step settings hp, fun gone => ?_, ?_⟩
    · exact stays (List.mem_append_left _ gone)
    · rintro ⟨r, admitted, rfl⟩
      exact stays (List.mem_append_right _ (List.mem_map_of_mem admitted))
  · rintro ⟨pool, kept, waits⟩
    have held : p.ticket ∈ (s.issued a ++ s.inFlight).map Pending.ticket :=
      List.mem_map_of_mem (List.mem_append.2 pool.symm)
    rcases List.mem_append.1 (split.mem_iff.2 held) with gone | stays
    · obtain ⟨r, admitted, same⟩ := List.mem_map.1 ((List.mem_append.1 gone).resolve_left kept)
      have drawn := List.mem_append.1 ((flight_drawnFrom s a).turns.admitted r admitted)
      exact absurd ⟨r, admitted, hs.eq_of_ticket drawn pool same⟩ waits
    · obtain ⟨q, hq, same⟩ := List.mem_map.1 stays
      rwa [hs.eq_of_ticket pool (mem_inFlight_step settings hq) same.symm]

theorem Reachable.inTurn {settings : Settings} (h : Reachable settings s) : s.InTurn :=
  h.of_step inTurn_start fun _ a hs => inTurn_step settings hs a

/-- Every ticket handed out belongs to a command that has ended, once, or that is called
or in line. -/
theorem InTurn.tickets_covered (hs : s.InTurn) (actions : List Action) (ended : List Int)
    (h : Covers (ended ++ (s.called ++ s.queue.lined)) 0 s.queue.next) :
    Covers (ended ++ (reports settings actions s).map Prod.fst ++
      ((run settings actions s).called ++ (run settings actions s).queue.lined))
      0 (run settings actions s).queue.next := by
  induction actions generalizing s ended with
  | nil => simpa [reports] using h
  | cons a actions ih =>
    obtain ⟨calling, queue⟩ := flight_step settings s a
    have sequenced := hs.sequenced a
    rw [reports, List.map_append, ← List.append_assoc ended, run_cons]
    refine ih (inTurn_step settings hs a) _ ?_
    rw [(reports_perform settings a).1, called, calling, queue, sequenced.next_eq]
    have issued : Covers (ended ++ (s.issues a ++ s.called ++ s.queue.lined)) 0
        (s.queue.next + (s.issues a).length) := by
      cases a with
      | issue command =>
        refine h.cons_high.perm ?_
        simp only [issues, List.cons_append, List.nil_append]
        exact List.perm_middle.symm
      | _ => simpa [issues] using h
    refine issued.perm ((sequenced.split.symm.append_left ended).trans ?_)
    rw [← List.append_assoc]

theorem next_run (hs : s.InTurn) (actions : List Action) :
    (run settings actions s).queue.next = s.queue.next + actions.countP Action.isIssue := by
  induction actions generalizing s with
  | nil => simp
  | cons a actions ih =>
    rw [run_cons, ih (inTurn_step settings hs a), (flight_step settings s a).2,
      (hs.sequenced a).next_eq, length_issues, List.countP_cons]
    split <;> omega

/-- A run issues as many commands as take effect among its moves. -/
theorem countP_isPrepare (actions : List Action) (s : Session) :
    (s.journal settings actions).countP Move.isPrepare = actions.countP Action.isIssue := by
  have prepares : Move.isPrepare = Move.prepares fun _ => true := by
    funext m
    cases m <;> rfl
  have issues : Action.isIssue = Action.issues fun _ => true := by
    funext a
    cases a <;> rfl
  rw [prepares, issues]
  exact countP_journal settings _ actions s

end VoiceChat.Session
