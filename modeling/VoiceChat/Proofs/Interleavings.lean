import VoiceChat.Proofs.LoopMoves

/-!
# The event loop as a run

The moments of the event loop amount to a run: the one in which every reply is told
only when the turn of its command has come. `Shadows` relates the two, every moment
keeps it (`Shadows.follows_step`), and so the loop makes the moves of a run and ends
its commands like it (`exists_run`).
-/

namespace VoiceChat

/-- The queue with nobody in line. -/
def TurnQueue.cleared {α : Type} (q : TurnQueue α) : TurnQueue α := { q with waiting := [] }

theorem TurnQueue.cleared_forsake {α : Type} (q : TurnQueue α) (ticket : Int) :
    (q.forsake ticket).cleared = q.cleared.forsake ticket := by
  unfold forsake
  split
  · next served => exact (if_pos served).symm
  · next ne => exact (if_neg ne).symm

namespace Loop

open Session (Move Action Report Flight move)

variable (settings : Settings)

/-! ## The commands that have not ended -/

/-- The commands called, in line or lost are those of `pool`. -/
structure Pools (lost : List Int) (calling : List Pending) (line : List (Holder (Pending × Text)))
    (pool : List Pending) : Prop where
  tickets : (pool.map Pending.ticket).Perm
    (calling.map Pending.ticket ++ line.map Holder.ticket ++ lost)
  called : ∀ p ∈ calling, p ∈ pool
  inLine : ∀ holder ∈ line, holder.value.1 ∈ pool ∧ holder.value.1.ticket = holder.ticket

namespace Pools

variable {lost : List Int} {calling pool : List Pending} {line : List (Holder (Pending × Text))}
  {p : Pending} {t : Int}

theorem issue (h : Pools lost calling line pool) (p : Pending) :
    Pools lost (calling ++ [p]) line (pool ++ [p]) where
  tickets := by
    refine List.perm_iff_count.2 fun t => ?_
    have count := h.tickets.count_eq t
    simp only [List.map_append, List.count_append] at count ⊢
    omega
  called q hq := by
    rcases List.mem_append.1 hq with old | new
    · exact List.mem_append_left _ (h.called q old)
    · exact List.mem_append_right _ new
  inLine holder hh := ⟨List.mem_append_left _ (h.inLine holder hh).1, (h.inLine holder hh).2⟩

section

variable (h : Pools lost calling line pool) (nodup : (pool.map Pending.ticket).Nodup)
include h nodup

theorem nodup_calling : (calling.map Pending.ticket).Nodup := by
  have all := h.tickets.nodup_iff.1 nodup
  exact (List.nodup_append.1 (List.nodup_append.1 all).1).1

/-- A command called is taken out. -/
theorem taken (hp : p ∈ calling) :
    (calling.map Pending.ticket).Perm
      (p.ticket :: (calling.filter (·.ticket ≠ p.ticket)).map Pending.ticket) := by
  have out := perm_cons_filter_ne (h.nodup_calling nodup) (List.mem_map_of_mem hp)
  rwa [List.filter_map] at out

theorem await (hp : p ∈ calling) (error : Text) :
    Pools lost (calling.filter (·.ticket ≠ p.ticket)) (line ++ [⟨p.ticket, p, error⟩]) pool where
  tickets := by
    refine List.perm_iff_count.2 fun t => ?_
    have count := h.tickets.count_eq t
    have out := (h.taken nodup hp).count_eq t
    simp only [List.map_append, List.map_cons, List.map_nil, List.count_append, List.count_cons,
      List.count_nil] at count out ⊢
    omega
  called q hq := h.called q (List.mem_filter.1 hq).1
  inLine holder hh := by
    rcases List.mem_append.1 hh with old | new
    · exact h.inLine holder old
    · obtain rfl := List.mem_singleton.1 new
      exact ⟨h.called p hp, rfl⟩

theorem breakOff (hp : p ∈ calling) :
    Pools (lost ++ [p.ticket]) (calling.filter (·.ticket ≠ p.ticket)) line pool where
  tickets := by
    refine List.perm_iff_count.2 fun t => ?_
    have count := h.tickets.count_eq t
    have out := (h.taken nodup hp).count_eq t
    simp only [List.count_append, List.count_cons, List.count_nil] at count out ⊢
    omega
  called q hq := h.called q (List.mem_filter.1 hq).1
  inLine := h.inLine

/-- A command called or in line is taken out. -/
theorem remove {calling' : List Pending} {line' : List (Holder (Pending × Text))}
    (split : (calling.map Pending.ticket ++ line.map Holder.ticket).Perm
      (t :: (calling'.map Pending.ticket ++ line'.map Holder.ticket)))
    (called : ∀ p ∈ calling', p ∈ calling) (inLine : ∀ holder ∈ line', holder ∈ line) :
    Pools lost calling' line' (pool.filter (·.ticket ≠ t)) := by
  have whole := h.tickets.trans (split.append_right lost)
  have held : t ∈ pool.map Pending.ticket := whole.mem_iff.2 List.mem_cons_self
  have out := perm_cons_filter_ne nodup held
  rw [List.filter_map] at out
  have rest := (out.symm.trans whole).cons_inv
  have fresh : t ∉ calling'.map Pending.ticket ++ line'.map Holder.ticket := fun mem =>
    (List.nodup_cons.1 (whole.nodup_iff.1 nodup)).1 (List.mem_append_left _ mem)
  refine ⟨rest, fun p hp => ?_, fun holder hh => ?_⟩
  · refine List.mem_filter.2 ⟨h.called p (called p hp), decide_eq_true fun same => fresh ?_⟩
    exact same ▸ List.mem_append_left _ (List.mem_map_of_mem hp)
  · obtain ⟨mem, tagged⟩ := h.inLine holder (inLine holder hh)
    refine ⟨List.mem_filter.2 ⟨mem, decide_eq_true fun same => fresh ?_⟩, tagged⟩
    rw [← same, tagged]
    exact List.mem_append_right _ (List.mem_map_of_mem hh)

theorem conclude (hp : p ∈ calling) :
    Pools lost (calling.filter (·.ticket ≠ p.ticket)) line
      (pool.filter (·.ticket ≠ p.ticket)) :=
  h.remove nodup ((h.taken nodup hp).append_right _) (fun _ hq => (List.mem_filter.1 hq).1)
    fun _ hh => hh

theorem cancel (ht : t ∈ calling.map Pending.ticket ++ line.map Holder.ticket) :
    Pools lost (calling.filter (·.ticket ≠ t)) (line.eraseP (·.ticket = t))
      (pool.filter (·.ticket ≠ t)) := by
  refine h.remove nodup ?_ (fun _ hq => (List.mem_filter.1 hq).1) fun _ => List.mem_of_mem_eraseP
  have apart := (List.nodup_append.1 (List.nodup_append.1 (h.tickets.nodup_iff.1 nodup)).1).2.2
  rcases List.mem_append.1 ht with called | inLine
  · obtain ⟨p, hp, rfl⟩ := List.mem_map.1 called
    have stays : line.eraseP (·.ticket = p.ticket) = line :=
      List.eraseP_of_forall_not fun holder hh held =>
        apart _ called _ (List.mem_map_of_mem hh) (of_decide_eq_true held).symm
    rw [stays]
    exact (h.taken nodup hp).append_right _
  · have stays : calling.filter (·.ticket ≠ t) = calling :=
      List.filter_eq_self.2 fun p hp => decide_eq_true fun held =>
        apart _ (List.mem_map_of_mem hp) _ inLine held
    rw [stays]
    exact ((TurnQueue.perm_cons_eraseP inLine).append_left _).trans List.perm_middle

end

end Pools

/-! ## The replies told at their turns -/

/-- A reply that amounts to `error`, whatever the command. -/
def replyOf (error : Text) : Reply := if error = "" then .silent else .raised error

theorem errorOf_replyOf (command : Command) (error : Text) :
    command.errorOf (replyOf error) = error := by
  unfold replyOf
  split
  · next empty => exact empty.symm
  · next told => exact if_neg told

/-- The action that makes a move. -/
def action : Move → Action
  | .receive event now => .event event now
  | .view channel => .view channel
  | .tick now => .tick now
  | .cancelReconnect => .cancelReconnect
  | .prepare command => .issue command
  | .conclude p error now => .resolve p.ticket (replyOf error) now

/-- What a moment amounts to in a run in which replies are told at their turns. -/
def echo (s : Session) (m : Moment) : List Action :=
  match m with
  | .cancel ticket => if s.isRunning ticket then [.cancel ticket 0] else []
  | m => (moves s m).map action

/-- The run in which the replies of some moments are told at their turns. -/
def echoes : List Moment → Session → List Action
  | [], _ => []
  | m :: ms, s => echo s m ++ echoes ms (step settings s m)

/-- The commands that ended, and how. -/
def told (notices : List Notice) : List Report :=
  notices.filterMap fun
    | (ticket, .ended outcome) => some (ticket, outcome)
    | (_, .untold) => none

/-- The commands that broke off. -/
def untold (notices : List Notice) : List Int :=
  notices.filterMap fun
    | (_, .ended _) => none
    | (ticket, .untold) => some ticket

/-- The session `x` is as `s` is, but that what is in line or has broken off in `s` is still
called in `x`. -/
structure Shadows (lost : List Int) (s x : Session) : Prop where
  same : s.withFlight x.calling s.queue.cleared = x
  pools : Pools lost s.calling s.queue.waiting x.calling
  inTurn : x.InTurn

namespace Shadows

variable {settings} {lost lost' : List Int} {s x : Session} (h : Shadows lost s x)
include h

theorem queue : x.queue = s.queue.cleared := (congrArg Session.queue h.same).symm

theorem waiting : x.queue.waiting = [] := congrArg TurnQueue.waiting h.queue

theorem withFlight (calling : List Pending) (queue : TurnQueue (Pending × Text)) :
    x.withFlight calling queue = s.withFlight calling queue :=
  (congrArg (Session.withFlight calling queue) h.same).symm

theorem nodup : (x.calling.map Pending.ticket).Nodup := by
  have covers := h.inTurn.orderly.covers
  exact (List.nodup_append.1 (List.nodup_append.1 covers.nodup).1).1

theorem find {p : Pending} (hp : p ∈ x.calling) :
    x.calling.find? (·.ticket = p.ticket) = some p := by
  have found : (x.calling.find? (·.ticket = p.ticket)).isSome = true :=
    List.find?_isSome.2 ⟨p, hp, decide_eq_true rfl⟩
  obtain ⟨q, hq⟩ := Option.isSome_iff_exists.1 found
  have same : q.ticket = p.ticket := by simpa using List.find?_some hq
  rw [hq, List.inj_on_of_nodup_map h.nodup (List.mem_of_find?_eq_some hq) hp same]

/-- An action follows a moment that makes the same moves and leaves the same in flight. -/
theorem follow {a : Action} {f : Flight} {ms : List Move} (made : x.moves a = ms)
    (queue : (x.flight a).queue = f.queue.cleared)
    (pools : Pools lost' f.calling f.queue.waiting (x.flight a).calling) :
    Shadows lost' (ms.foldl (move settings) (s.withFlight f.calling f.queue))
      (x.step settings a) := by
  have inTurn := Session.inTurn_step settings h.inTurn a
  have step : x.step settings a = (ms.foldl (move settings) s).withFlight
      (x.flight a).calling f.queue.cleared := by
    rw [Session.step_eq_moves, made, Session.register, queue, h.withFlight,
      Session.foldl_withFlight]
  rw [step] at inTurn ⊢
  rw [Session.foldl_withFlight]
  exact ⟨rfl, pools, inTurn⟩

end Shadows

/-- The actions `as` follow the moments `ms`. -/
structure Follows (lost : List Int) (s x : Session) (ms : List Moment) (as : List Action) :
    Prop where
  shadows : Shadows (lost ++ untold (notices settings ms s)) (run settings ms s)
    (Session.run settings as x)
  journal : Session.journal settings as x = journal settings ms s
  reports : Session.reports settings as x = told (notices settings ms s)

variable {settings} {lost lost' : List Int} {s x : Session}

theorem told_append (first later : List Notice) :
    told (first ++ later) = told first ++ told later :=
  List.filterMap_append

theorem untold_append (first later : List Notice) :
    untold (first ++ later) = untold first ++ untold later :=
  List.filterMap_append

theorem append_untold {notices same : List Notice} (notice : notices = same)
    (none : untold same = []) : lost ++ untold notices = lost := by
  rw [notice, none, List.append_nil]

theorem Follows.append {ms later : List Moment} {as bs : List Action}
    (h : Follows settings lost s x ms as)
    (h' : Follows settings (lost ++ untold (notices settings ms s)) (run settings ms s)
      (Session.run settings as x) later bs) :
    Follows settings lost s x (ms ++ later) (as ++ bs) where
  shadows := by
    have shadows := h'.shadows
    rwa [List.append_assoc, ← untold_append, ← notices_append, ← run_append,
      ← Session.run_append] at shadows
  journal := by rw [Session.journal_append, journal_append, h.journal, h'.journal]
  reports := by rw [Session.reports_append, notices_append, told_append, h.reports, h'.reports]

/-- One action follows a moment. -/
theorem Shadows.follows_one (h : Shadows lost s x) {m : Moment} {a : Action}
    (made : x.moves a = moves s m) (queue : (x.flight a).queue = (flight s m).queue.cleared)
    (pools : Pools lost' (flight s m).calling (flight s m).queue.waiting (x.flight a).calling)
    (reports : (x.perform settings a).2 = told (perform settings s m).2)
    (gone : lost ++ untold (perform settings s m).2 = lost') :
    Follows settings lost s x [m] [a] := by
  subst gone
  refine ⟨?_, ?_, ?_⟩
  · rw [notices, notices, List.append_nil, run_cons, run_nil, step_eq_moves]
    exact h.follow made queue pools
  · rw [Session.journal, Session.journal, journal, journal, made]
  · rw [Session.reports, Session.reports, notices, notices, List.append_nil, List.append_nil,
      reports]

/-- A moment without moves and reports is followed by doing nothing. -/
theorem Shadows.follows_none (h : Shadows lost s x) {m : Moment} (made : moves s m = [])
    (queue : (flight s m).queue.cleared = s.queue.cleared)
    (pools : Pools lost' (flight s m).calling (flight s m).queue.waiting x.calling)
    (reports : told (perform settings s m).2 = [])
    (gone : lost ++ untold (perform settings s m).2 = lost') :
    Follows settings lost s x [m] [] := by
  subst gone
  refine ⟨?_, ?_, ?_⟩
  · rw [notices, notices, List.append_nil, run_cons, run_nil, step_eq_moves, made]
    refine ⟨?_, pools, h.inTurn⟩
    show s.withFlight x.calling (flight s m).queue.cleared = x
    rw [queue, h.same]
  · rw [Session.journal, journal, journal, made, List.nil_append]
  · rw [Session.reports, notices, notices, List.append_nil, reports]

theorem Shadows.follows_idle (h : Shadows lost s x) {m : Moment} (made : moves s m = [])
    (flight : flight s m = { calling := s.calling, queue := s.queue })
    (notice : (perform settings s m).2 = []) : Follows settings lost s x [m] [] := by
  refine h.follows_none made ?_ ?_ (congrArg told notice) (append_untold notice rfl)
  · rw [flight]
  · rw [flight]
    exact h.pools

theorem Shadows.fault (h : Shadows lost s x) (now : Int) (p : Pending) (error : Text) :
    (x.conclude settings now p error).2 = (s.conclude settings now p error).2 := by
  rw [← h.same, fault_withFlight]

/-- A result is applied whose turn it is. -/
theorem Shadows.follows_turn (h : Shadows lost s x) {m : Moment} {p : Pending} {error : Text}
    {now : Int} {calling : List Pending} {queue : TurnQueue (Pending × Text)}
    (called : p ∈ x.calling) (turn : p.ticket = s.queue.serving)
    (flight : flight s m = { calling, queue, admitted := [(p, error)] })
    (made : moves s m = (Loop.flight s m).admitted.map fun r => .conclude r.1 r.2 now)
    (served : queue.cleared = s.queue.advance.cleared)
    (pools : Pools lost calling queue.waiting (x.calling.filter (·.ticket ≠ p.ticket)))
    (notice : (perform settings s m).2 =
      [(p.ticket, .ended (Session.outcomeOf p error (s.conclude settings now p error).2))]) :
    Follows settings lost s x [m] (echo s m) := by
  rw [flight] at made
  have found := h.find called
  have serving : p.ticket = x.queue.serving :=
    turn.trans (congrArg TurnQueue.serving h.queue).symm
  have applied : x.flight (.resolve p.ticket (replyOf error) now) =
      { calling := x.calling.filter (·.ticket ≠ p.ticket)
        queue := x.queue.advance
        admitted := [(p, error)] } := by
    simp only [Session.flight, found, TurnQueue.enter_of_waiting h.waiting serving,
      errorOf_replyOf]
  have echoed : echo s m = [.resolve p.ticket (replyOf error) now] := by
    cases m with
    | cancel => cases made
    | _ =>
      simp only [echo, made]
      rfl
  rw [echoed]
  refine h.follows_one ?_ ?_ ?_ ?_ (append_untold notice rfl)
  · rw [made, Session.moves, applied]
  · rw [applied, flight, served, h.queue]
    rfl
  · rw [applied, flight]
    exact pools
  · rw [notice, Session.perform, Session.resolve_served settings found h.waiting serving,
      errorOf_replyOf]
    simp only [fault_withFlight, h.fault, told, List.filterMap_cons, List.filterMap_nil]

/-- A call ends that cannot tell its failure. -/
theorem Shadows.follows_breakOff (h : Shadows lost s x) {p : Pending}
    (found : s.calling.find? (·.ticket = p.ticket) = some p) (now : Int) :
    Follows settings lost s x [.endCall p.ticket .untellable now]
      (echo s (.endCall p.ticket .untellable now)) := by
  have off : flight s (.endCall p.ticket .untellable now) =
      { calling := s.calling.filter (·.ticket ≠ p.ticket), queue := s.queue } := by
    simp only [flight, found]
  have made : moves s (.endCall p.ticket .untellable now) = [] := by
    simp only [moves, off, List.map_nil]
  have notice : (perform settings s (.endCall p.ticket .untellable now)).2 =
      [(p.ticket, .untold)] := by
    simp only [perform, endCall, found]
  have gone : lost ++ untold (perform settings s (.endCall p.ticket .untellable now)).2 =
      lost ++ [p.ticket] :=
    congrArg (lost ++ untold ·) notice
  simp only [echo, made]
  refine h.follows_none made (by rw [off]) ?_ (congrArg told notice) gone
  rw [off]
  exact h.pools.breakOff h.nodup (List.mem_of_find?_eq_some found)

/-- A call ends before its turn. -/
theorem Shadows.follows_wait (h : Shadows lost s x) {p : Pending} (reply : Reply)
    (found : s.calling.find? (·.ticket = p.ticket) = some p)
    (early : p.ticket ≠ s.queue.serving) (now : Int) :
    Follows settings lost s x [.endCall p.ticket (.replied reply) now]
      (echo s (.endCall p.ticket (.replied reply) now)) := by
  have waits := flight_endCall_wait reply found early now
  have notice : (perform settings s (.endCall p.ticket (.replied reply) now)).2 = [] :=
    notice_endCall_wait reply found early now
  have made : moves s (.endCall p.ticket (.replied reply) now) = [] := by
    simp only [moves, waits, List.map_nil]
  simp only [echo, made]
  refine h.follows_none made ?_ ?_ (congrArg told notice) (append_untold notice rfl)
  · rw [waits]
    rfl
  · rw [waits]
    exact h.pools.await h.nodup (List.mem_of_find?_eq_some found) (p.command.errorOf reply)

theorem Shadows.follows_endCall (h : Shadows lost s x) (ticket : Int) (ending : Ending)
    (now : Int) :
    Follows settings lost s x [.endCall ticket ending now]
      (echo s (.endCall ticket ending now)) := by
  cases found : s.calling.find? (·.ticket = ticket) with
  | none =>
    have none : flight s (.endCall ticket ending now) =
        { calling := s.calling, queue := s.queue } := by
      simp only [flight, found]
    have made : moves s (.endCall ticket ending now) = [] := by
      simp only [moves, none, List.map_nil]
    simp only [echo, made]
    exact h.follows_idle made none (by simp only [perform, endCall, found])
  | some p =>
    obtain rfl : p.ticket = ticket := by simpa using List.find?_some found
    have called := List.mem_of_find?_eq_some found
    cases ending with
    | untellable => exact h.follows_breakOff found now
    | replied reply =>
      by_cases turn : p.ticket = s.queue.serving
      · exact h.follows_turn (h.pools.called p called) turn
          (flight_endCall_turn reply found turn now) rfl rfl (h.pools.conclude h.nodup called)
          (notice_endCall_turn reply found turn now)
      · exact h.follows_wait reply found turn now

theorem Shadows.follows_wake (h : Shadows lost s x) (now : Int) :
    Follows settings lost s x [.wake now] (echo s (.wake now)) := by
  cases found : s.queue.turn? with
  | none =>
    have none : flight s (.wake now) = { calling := s.calling, queue := s.queue } := by
      simp only [flight, found]
    have made : moves s (.wake now) = [] := by
      simp only [moves, none, List.map_nil]
    simp only [echo, made]
    exact h.follows_idle made none (by simp only [perform, wake, found])
  | some turn =>
    obtain ⟨holder, left⟩ := turn
    obtain ⟨serving, line, same⟩ := TurnQueue.turn?_eq_some found
    obtain ⟨called, tagged⟩ := h.pools.inLine holder (line.mem_iff.2 List.mem_cons_self)
    refine h.follows_turn called (tagged.trans serving) (flight_wake found now) rfl ?_ ?_
      (notice_wake found now)
    · rw [← same]
      rfl
    · rw [tagged]
      refine h.pools.remove h.nodup ?_ (fun _ hp => hp) fun other ho => ?_
      · exact ((line.map Holder.ticket).append_left _).trans List.perm_middle
      · exact line.mem_iff.2 (List.mem_cons_of_mem _ ho)

theorem Shadows.follows_cancel (h : Shadows lost s x) (ticket : Int) :
    Follows settings lost s x [.cancel ticket] (echo s (.cancel ticket)) := by
  by_cases running : s.isRunning ticket = true
  · have inFlight := Session.isRunning_iff.1 running
    have called : ticket ∈ x.called :=
      h.pools.tickets.mem_iff.2 (List.mem_append_left lost inFlight)
    have off := flight_cancel running
    have notice : (perform settings s (.cancel ticket)).2 = _ := notice_cancel running
    have left := Session.flight_cancel_called called h.waiting 0
    simp only [echo, running, if_true]
    refine h.follows_one ?_ ?_ ?_ ?_ (append_untold notice rfl)
    · rw [Session.moves, left]
      rfl
    · rw [left, off, TurnQueue.cleared_forsake, h.queue]
      rfl
    · rw [left, off, TurnQueue.waiting_forsake]
      exact h.pools.cancel h.nodup inFlight
    · rw [notice, Session.perform, Session.cancel_called settings called h.waiting]
      rfl
  · have none : flight s (.cancel ticket) = { calling := s.calling, queue := s.queue } := by
      simp only [flight, running, Bool.false_eq_true, if_false]
    simp only [echo, running, Bool.false_eq_true, if_false]
    refine h.follows_idle rfl none ?_
    simp only [perform, cancel, running, Bool.false_eq_true, if_false]

theorem Shadows.follows_issue (h : Shadows lost s x) (command : Command) :
    Follows settings lost s x [.issue command] (echo s (.issue command)) := by
  have noted : x.note command x.queue.next = s.note command s.queue.next := by
    rw [h.queue, ← h.same]
    cases command <;> rfl
  refine h.follows_one rfl ?_ ?_ rfl (List.append_nil lost)
  · simp only [Session.flight, flight, h.queue]
    rfl
  · show Pools lost (s.calling ++ [s.note command s.queue.next]) s.queue.waiting
      (x.calling ++ [x.note command x.queue.next])
    rw [noted]
    exact h.pools.issue _

/-- Every moment is followed by its echo. -/
theorem Shadows.follows_step (h : Shadows lost s x) (m : Moment) :
    Follows settings lost s x [m] (echo s m) := by
  cases m with
  | event | view | tick | cancelReconnect =>
    exact h.follows_one rfl h.queue h.pools rfl (List.append_nil lost)
  | issue command => exact h.follows_issue command
  | endCall ticket ending now => exact h.follows_endCall ticket ending now
  | wake now => exact h.follows_wake now
  | cancel ticket => exact h.follows_cancel ticket

theorem Shadows.follows (h : Shadows lost s x) (ms : List Moment) :
    Follows settings lost s x ms (echoes settings ms s) := by
  induction ms generalizing lost s x with
  | nil =>
    refine ⟨?_, rfl, rfl⟩
    show Shadows (lost ++ []) s x
    rwa [List.append_nil]
  | cons m ms ih =>
    have first : Follows settings lost s x [m] (echo s m) := h.follows_step m
    exact first.append (ih first.shadows)

theorem shadows_start : Shadows [] ({} : Session) {} where
  same := rfl
  pools := ⟨.nil, by simp, by simp⟩
  inTurn := Session.inTurn_start

theorem follows_start (settings : Settings) (ms : List Moment) :
    Follows settings [] {} {} ms (echoes settings ms {}) :=
  shadows_start.follows ms

end Loop

end VoiceChat
