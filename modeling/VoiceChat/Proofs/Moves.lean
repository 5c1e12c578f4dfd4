import VoiceChat.Proofs.Turns
import VoiceChat.Session.Run

/-!
# The moves of a session

An action first rearranges the commands in flight (`register`), and then makes
its moves: one for an event, a look at a channel, a tick or a command issued,
and one for every result that has come to its turn (`step_eq_moves`). Moves
neither read nor change what is in flight (`move_withFlight`). What every move
keeps holds in every reachable state (`Reachable.keeps`), and what is noted
about a command stays as it was noted (`noted_of_mem_inFlight_run`).
-/

namespace VoiceChat.Session

/-- Something that an action does to the stores and the connection. -/
inductive Move where
  | receive (event : Event) (now : Int)
  | view (channel : Int)
  | tick (now : Int)
  | cancelReconnect
  | prepare (command : Command)
  | conclude (p : Pending) (error : Text) (now : Int)

/-- Make a move. -/
def move (settings : Settings) (s : Session) : Move → Session
  | .receive event now => s.receive settings now event
  | .view channel => s.view channel
  | .tick now => (s.tick now).1
  | .cancelReconnect => s.cancelReconnect
  | .prepare command => s.prepare command
  | .conclude p error now => (s.conclude settings now p error).1

/-- Commands in flight, and results that have come to their turn. -/
structure Flight where
  calling : List Pending
  queue : TurnQueue (Pending × Text)
  admitted : List (Pending × Text) := []

/-- What an action makes of the commands in flight. -/
def flight (s : Session) : Action → Flight
  | .issue command =>
    { calling := s.calling ++ [s.note command s.queue.next], queue := s.queue.issue.1 }
  | .resolve ticket reply _ =>
    match s.calling.find? (·.ticket = ticket) with
    | some p =>
      let entered := s.queue.enter ticket (p, p.command.errorOf reply)
      { calling := s.calling.filter (·.ticket ≠ ticket), queue := entered.1, admitted := entered.2 }
    | none => { calling := s.calling, queue := s.queue }
  | .cancel ticket _ =>
    if s.isRunning ticket then
      let left := if s.calling.any (·.ticket = ticket) then s.queue.abandon ticket
        else s.queue.leave (·.ticket = ticket)
      { calling := s.calling.filter (·.ticket ≠ ticket), queue := left.1, admitted := left.2 }
    else { calling := s.calling, queue := s.queue }
  | _ => { calling := s.calling, queue := s.queue }

/-- The session with these commands in flight. -/
def withFlight (calling : List Pending) (queue : TurnQueue (Pending × Text)) (s : Session) :
    Session :=
  { s with calling, queue }

/-- The session after an action has rearranged the commands in flight. -/
def register (s : Session) (a : Action) : Session :=
  s.withFlight (s.flight a).calling (s.flight a).queue

/-- The moves of an action, in order. -/
def moves (s : Session) (a : Action) : List Move :=
  match a with
  | .event event now => [.receive event now]
  | .view channel => [.view channel]
  | .tick now => [.tick now]
  | .cancelReconnect => [.cancelReconnect]
  | .issue command => [.prepare command]
  | .resolve _ _ now => (s.flight a).admitted.map fun r => .conclude r.1 r.2 now
  | .cancel _ now => (s.flight a).admitted.map fun r => .conclude r.1 r.2 now

variable (settings : Settings)

/-! ## An action is its moves -/

theorem concludeAll_fst (now : Int) (results : List (Pending × Text)) (s : Session) :
    (concludeAll settings now results s).1 =
      (results.map fun r => Move.conclude r.1 r.2 now).foldl (move settings) s := by
  induction results generalizing s with
  | nil => rfl
  | cons r results ih =>
    rw [List.map_cons, List.foldl_cons]
    exact ih _

theorem step_eq_moves (s : Session) (a : Action) :
    s.step settings a = (s.moves a).foldl (move settings) (s.register a) := by
  cases a with
  | event | view | tick | cancelReconnect => rfl
  | issue command => cases command <;> rfl
  | resolve ticket reply now =>
    cases hf : s.calling.find? (·.ticket = ticket) with
    | some p =>
      simp only [step, perform, resolve, moves, register, flight, hf]
      exact concludeAll_fst settings now _ _
    | none =>
      simp only [step, perform, resolve, moves, register, flight, hf]
      rfl
  | cancel ticket now =>
    by_cases hr : s.isRunning ticket = true
    · simp only [step, perform, cancel, moves, register, flight, hr]
      exact concludeAll_fst settings now _ _
    · simp only [step, perform, cancel, moves, register, flight, hr]
      rfl

/-! ## What is in flight does not matter to a move -/

variable {s : Session}

theorem receive_withFlight (calling : List Pending) (queue : TurnQueue (Pending × Text))
    (now : Int) (event : Event) :
    (s.withFlight calling queue).receive settings now event =
      (s.receive settings now event).withFlight calling queue := by
  have same : (s.withFlight calling queue).route event.serverAddr = s.route event.serverAddr := rfl
  unfold receive
  rw [same]
  cases s.route event.serverAddr with
  | active => cases event.body <;> rfl
  | staged | nowhere => rfl

theorem conclude_withFlight (calling : List Pending) (queue : TurnQueue (Pending × Text))
    (now : Int) (p : Pending) (error : Text) :
    ((s.withFlight calling queue).conclude settings now p error).1 =
      (s.conclude settings now p error).1.withFlight calling queue := by
  have same : (s.withFlight calling queue).isStale p = s.isStale p := rfl
  cases hc : p.command with
  | connect =>
    simp only [conclude, hc, same, concludeConnect]
    split
    · rfl
    · split
      · split <;> rfl
      · rfl
  | reconnect =>
    simp only [conclude, hc, same, concludeReconnect]
    split
    · rfl
    · split <;> rfl
  | joinVoice =>
    simp only [conclude, hc, same]
    split <;> rfl
  | _ =>
    simp only [conclude, hc]
    split <;> rfl

theorem move_withFlight (calling : List Pending) (queue : TurnQueue (Pending × Text))
    (m : Move) :
    (s.withFlight calling queue).move settings m =
      (s.move settings m).withFlight calling queue := by
  cases m with
  | receive event now => exact receive_withFlight settings calling queue now event
  | conclude p error now => exact conclude_withFlight settings calling queue now p error
  | prepare command => cases command <;> rfl
  | view | tick | cancelReconnect => rfl

theorem calling_move (m : Move) : (s.move settings m).calling = s.calling := by
  have same := congrArg Session.calling (move_withFlight settings (s := s) s.calling s.queue m)
  exact same

theorem queue_move (m : Move) : (s.move settings m).queue = s.queue := by
  have same := congrArg Session.queue (move_withFlight settings (s := s) s.calling s.queue m)
  exact same

/-- An event reaches the stores and the connection only. -/
theorem receive_eq (now : Int) (event : Event) :
    ∃ store staged connection, s.receive settings now event =
      { s with store, staged, connection } := by
  unfold receive
  cases s.route event.serverAddr with
  | active => cases event.body <;> exact ⟨_, _, _, rfl⟩
  | staged | nowhere => exact ⟨_, _, _, rfl⟩

/-- A result reaches the stores and the connection only. -/
theorem conclude_eq (now : Int) (p : Pending) (error : Text) :
    ∃ store staged connection, (s.conclude settings now p error).1 =
      { s with store, staged, connection } := by
  cases hc : p.command with
  | connect =>
    simp only [conclude, hc, concludeConnect]
    split
    · exact ⟨_, _, _, rfl⟩
    · split
      · split <;> exact ⟨_, _, _, rfl⟩
      · exact ⟨_, _, _, rfl⟩
  | reconnect =>
    simp only [conclude, hc, concludeReconnect]
    split
    · exact ⟨_, _, _, rfl⟩
    · split <;> exact ⟨_, _, _, rfl⟩
  | joinVoice =>
    simp only [conclude, hc]
    split <;> exact ⟨_, _, _, rfl⟩
  | _ =>
    simp only [conclude, hc]
    split <;> exact ⟨_, _, _, rfl⟩

/-- A command takes effect when it is issued, and only then. -/
theorem issue_of_prepare {a : Action} {command : Command} (h : .prepare command ∈ s.moves a) :
    a = .issue command := by
  cases a with
  | issue issued =>
    obtain ⟨⟩ := List.mem_singleton.1 h
    rfl
  | resolve | cancel =>
    obtain ⟨r, -, made⟩ := List.mem_map.1 h
    cases made
  | _ => cases List.mem_singleton.1 h

theorem event_of_receive {a : Action} {event : Event} {now : Int}
    (h : .receive event now ∈ s.moves a) : a = .event event now := by
  cases a with
  | event received arrival =>
    obtain ⟨⟩ := List.mem_singleton.1 h
    rfl
  | resolve | cancel =>
    obtain ⟨r, -, made⟩ := List.mem_map.1 h
    cases made
  | _ => cases List.mem_singleton.1 h

/-! ## What every move keeps -/

theorem foldl_keeps {P : Session → Prop} {ms : List Move}
    (h : ∀ m ∈ ms, ∀ s, P s → P (s.move settings m)) (hs : P s) :
    P (ms.foldl (move settings) s) :=
  List.foldlRecOn ms (move settings) hs fun s hs m hm => h m hm s hs

section

variable {σ μ : Type} {f : σ → μ → σ} {I P : σ → Prop} {Breaks : σ → μ → Prop}

theorem foldl_unbroken_of_mem {ms : List μ} (keeps : ∀ m ∈ ms, ∀ x, I x → ¬Breaks x m → I (f x m))
    {x : σ} (start : I x) (never : ∀ front m, front ++ [m] <+: ms →
      I (front.foldl f x) → ¬Breaks (front.foldl f x) m) :
    I (ms.foldl f x) := by
  induction ms generalizing x with
  | nil => exact start
  | cons m ms ih =>
    have first : ¬Breaks x m := never [] m (List.cons_prefix_cons.2 ⟨rfl, List.nil_prefix⟩) start
    refine ih (fun m' mem => keeps m' (List.mem_cons_of_mem _ mem))
      (keeps m List.mem_cons_self x start first) fun front m' pre => ?_
    exact never (m :: front) m' (List.cons_prefix_cons.2 ⟨rfl, pre⟩)

/-- An invariant holds at the end when no move on the way breaks it. -/
theorem foldl_unbroken (keeps : ∀ x m, I x → ¬Breaks x m → I (f x m)) {x : σ} (start : I x)
    {ms : List μ} (never : ∀ front m, front ++ [m] <+: ms → ¬Breaks (front.foldl f x) m) :
    I (ms.foldl f x) :=
  foldl_unbroken_of_mem (fun m _ x => keeps x m) start fun front m pre _ => never front m pre

/-- When an invariant with `P` is lost by those of the moves that break `P` and by no others,
`P` holds all along exactly if no move breaks it. -/
theorem foldl_throughout_iff_of_mem {ms : List μ} (sound : ∀ x, I x → P x)
    (keeps : ∀ m ∈ ms, ∀ x, I x → ¬Breaks x m → I (f x m))
    (breaks : ∀ m ∈ ms, ∀ x, I x → Breaks x m → ¬P (f x m)) {x : σ} (start : I x) :
    (∀ front, front <+: ms → P (front.foldl f x)) ↔
      ∀ front m, front ++ [m] <+: ms → ¬Breaks (front.foldl f x) m := by
  have kept : ∀ front, front <+: ms → (∀ before m, before ++ [m] <+: ms →
      I (before.foldl f x) → ¬Breaks (before.foldl f x) m) → I (front.foldl f x) :=
    fun front pre never => foldl_unbroken_of_mem (fun m mem => keeps m (pre.subset mem)) start
      fun before m pre' => never before m (pre'.trans pre)
  constructor
  · intro always front m pre
    have unbroken : ∀ before m, before ++ [m] <+: ms → I (before.foldl f x) →
        ¬Breaks (before.foldl f x) m := by
      intro before m pre holds broken
      have after := always _ pre
      rw [List.foldl_append] at after
      exact breaks m (pre.subset List.mem_concat_self) _ holds broken after
    exact unbroken front m pre (kept front ((List.prefix_append front [m]).trans pre) unbroken)
  · intro never front pre
    exact sound _ (kept front pre fun before m pre' _ => never before m pre')

theorem foldl_throughout_iff (sound : ∀ x, I x → P x)
    (keeps : ∀ x m, I x → ¬Breaks x m → I (f x m)) (breaks : ∀ x m, Breaks x m → ¬P (f x m))
    {x : σ} (start : I x) (ms : List μ) :
    (∀ front, front <+: ms → P (front.foldl f x)) ↔
      ∀ front m, front ++ [m] <+: ms → ¬Breaks (front.foldl f x) m :=
  foldl_throughout_iff_of_mem sound (fun m _ x => keeps x m) (fun m _ x _ => breaks x m) start

/-- Where a history with one more moment can be split: at the last moment or before. -/
theorem concat_eq_append_cons_iff {before after history : List μ} {m last : μ} :
    history ++ [last] = before ++ m :: after ↔
      (before = history ∧ m = last ∧ after = []) ∨
      ∃ rest, after = rest ++ [last] ∧ history = before ++ m :: rest := by
  constructor
  · intro split
    rcases List.eq_nil_or_concat after with rfl | ⟨rest, final, rfl⟩
    · obtain ⟨same, new⟩ := List.append_inj' split rfl
      exact .inl ⟨same.symm, (List.singleton_inj.1 new).symm, rfl⟩
    · rw [List.concat_eq_append, ← List.cons_append, ← List.append_assoc] at split
      obtain ⟨same, new⟩ := List.append_inj' split rfl
      exact .inr ⟨rest, by rw [List.concat_eq_append, new], same⟩
  · rintro (⟨rfl, rfl, rfl⟩ | ⟨rest, rfl, rfl⟩)
    · rfl
    · simp

end

theorem foldl_withFlight (calling : List Pending) (queue : TurnQueue (Pending × Text))
    (ms : List Move) :
    ms.foldl (move settings) (s.withFlight calling queue) =
      (ms.foldl (move settings) s).withFlight calling queue := by
  induction ms generalizing s with
  | nil => rfl
  | cons m ms ih =>
    rw [List.foldl_cons, move_withFlight, ih]
    rfl

/-- A property that does not depend on what is in flight is kept by an action when
each of its moves keeps it. -/
theorem step_keeps {P : Session → Prop} {a : Action}
    (flight : ∀ s calling queue, P s → P (s.withFlight calling queue))
    (h : ∀ m ∈ s.moves a, ∀ s, P s → P (s.move settings m)) (hs : P s) :
    P (s.step settings a) := by
  rw [step_eq_moves]
  exact foldl_keeps settings h (flight s _ _ hs)

/-- What every action keeps holds in every reachable state. -/
theorem Reachable.of_step {settings : Settings} {P : Session → Prop} (start : P {})
    (h : ∀ s a, P s → P (s.step settings a)) (reachable : Reachable settings s) : P s := by
  obtain ⟨actions, rfl⟩ := reachable
  exact List.foldlRecOn actions (Session.step settings) start fun s hs a _ => h s a hs

theorem Reachable.keeps {settings : Settings} {P : Session → Prop} (start : P {})
    (flight : ∀ s calling queue, P s → P (s.withFlight calling queue))
    (h : ∀ s m, P s → P (s.move settings m)) (reachable : Reachable settings s) : P s :=
  reachable.of_step start fun _ _ hs => step_keeps settings flight (fun m _ s => h s m) hs

/-- After an action exactly the commands that it has arranged are in flight. -/
theorem flight_step (s : Session) (a : Action) :
    (s.step settings a).calling = (s.flight a).calling ∧
    (s.step settings a).queue = (s.flight a).queue := by
  rw [step_eq_moves]
  refine foldl_keeps settings (P := fun s' => s'.calling = _ ∧ s'.queue = _)
    (fun m _ s' hs' => ?_) ⟨rfl, rfl⟩
  rwa [calling_move, queue_move]

/-- Whether an action belongs to a command: one is issued, replied to or cancelled. -/
def Action.isCommand : Action → Bool
  | .issue _ => true
  | .resolve .. => true
  | .cancel .. => true
  | _ => false

/-- What is in flight stays so as long as nothing happens to a command. -/
theorem flight_run_inputs {actions : List Action} (inputs : ∀ a ∈ actions, a.isCommand = false) :
    (run settings actions s).calling = s.calling ∧ (run settings actions s).queue = s.queue := by
  induction actions generalizing s with
  | nil => exact ⟨rfl, rfl⟩
  | cons a actions ih =>
    obtain ⟨calling, queue⟩ := ih (s := s.step settings a)
      fun b hb => inputs b (List.mem_cons_of_mem _ hb)
    obtain ⟨calling', queue'⟩ := flight_step settings s a
    have first := inputs a List.mem_cons_self
    cases a with
    | event | view | tick | cancelReconnect => exact ⟨calling.trans calling', queue.trans queue'⟩
    | _ => cases first

theorem foldl_step (s : Session) (a : Action) (ms : List Move) :
    ms.foldl (move settings) (s.step settings a) =
      (ms.foldl (move settings) ((s.moves a).foldl (move settings) s)).withFlight
        (s.flight a).calling (s.flight a).queue := by
  rw [step_eq_moves, register, foldl_withFlight, foldl_withFlight]

/-- The moves of a run, in order. -/
def journal : List Action → Session → List Move
  | [], _ => []
  | a :: as, s => s.moves a ++ journal as (s.step settings a)

/-- What comes up along a run comes up at one of its actions. -/
theorem exists_action_of_mem {β : Type} (onAction : Session → Action → List β)
    (along : List Action → Session → List β) (nil : ∀ s, along [] s = [])
    (cons : ∀ a as s, along (a :: as) s = onAction s a ++ along as (s.step settings a))
    {b : β} {actions : List Action} (h : b ∈ along actions s) :
    ∃ before a after, actions = before ++ a :: after ∧ b ∈ onAction (run settings before s) a := by
  induction actions generalizing s with
  | nil =>
    rw [nil] at h
    cases h
  | cons a actions ih =>
    rw [cons] at h
    rcases List.mem_append.1 h with first | later
    · exact ⟨[], a, actions, rfl, first⟩
    · obtain ⟨before, b, after, rfl, made⟩ := ih later
      exact ⟨a :: before, b, after, rfl, made⟩

/-- Every move of a run is made by one of its actions. -/
theorem mem_journal {m : Move} {actions : List Action} (h : m ∈ journal settings actions s) :
    ∃ before a after, actions = before ++ a :: after ∧ m ∈ (run settings before s).moves a :=
  exists_action_of_mem settings moves (journal settings) (fun _ => rfl) (fun _ _ _ => rfl) h

theorem journal_append (as bs : List Action) (s : Session) :
    journal settings (as ++ bs) s =
      journal settings as s ++ journal settings bs (run settings as s) := by
  induction as generalizing s with
  | nil => rfl
  | cons a as ih => simp [journal, ih]

/-- A move of a run, with those before it: the action that makes it, and what that action
has made already. -/
theorem exists_action_of_prefix {front : List Move} {m : Move} {actions : List Action}
    (pre : front ++ [m] <+: journal settings actions s) :
    ∃ before a after made, actions = before ++ a :: after ∧
      front = journal settings before s ++ made ∧
      made ++ [m] <+: (run settings before s).moves a := by
  induction actions generalizing s front with
  | nil => simp [journal] at pre
  | cons a actions ih =>
    rcases List.prefix_or_prefix_of_prefix pre (List.prefix_append (s.moves a) _) with
      within | beyond
    · exact ⟨[], a, actions, front, rfl, rfl, within⟩
    · rcases List.prefix_concat_iff.1 beyond with whole | ⟨rest, rfl⟩
      · exact ⟨[], a, actions, front, rfl, rfl, whole ▸ List.prefix_rfl⟩
      · rw [List.append_assoc] at pre
        have later : rest ++ [m] <+: journal settings actions (s.step settings a) :=
          (List.prefix_append_right_inj _).1 pre
        obtain ⟨before, b, after, made, rfl, rfl, last⟩ := ih later
        refine ⟨a :: before, b, after, made, rfl, ?_, last⟩
        rw [journal, List.append_assoc]

/-- Apart from what is in flight, a run leads to where its moves lead. -/
theorem run_eq_journal (actions : List Action) (s : Session) :
    run settings actions s =
      ((journal settings actions s).foldl (move settings) s).withFlight
        (run settings actions s).calling (run settings actions s).queue := by
  induction actions generalizing s with
  | nil => rfl
  | cons a actions ih =>
    have rest := ih (s.step settings a)
    rw [foldl_step] at rest
    rw [run_cons, journal, List.foldl_append]
    exact rest

theorem connection_run (actions : List Action) (s : Session) :
    (run settings actions s).connection =
      ((journal settings actions s).foldl (move settings) s).connection := by
  rw [run_eq_journal]
  rfl

/-! ## The commands that a run issues -/

/-- Whether a move is the issue of a command that satisfies `p`. -/
def Move.prepares (p : Command → Bool) : Move → Bool
  | .prepare command => p command
  | _ => false

/-- Whether an action is the issue of a command that satisfies `p`. -/
def Action.issues (p : Command → Bool) : Action → Bool
  | .issue command => p command
  | _ => false

theorem countP_moves (p : Command → Bool) (s : Session) (a : Action) :
    (s.moves a).countP (Move.prepares p) = if a.issues p then 1 else 0 := by
  cases a with
  | issue command => exact List.countP_singleton
  | resolve | cancel =>
    refine List.countP_eq_zero.2 fun m made => ?_
    obtain ⟨r, -, rfl⟩ := List.mem_map.1 made
    exact Bool.false_ne_true
  | _ => rfl

/-- The commands that a run issues are those that take effect among its moves. -/
theorem countP_journal (p : Command → Bool) (actions : List Action) (s : Session) :
    (journal settings actions s).countP (Move.prepares p) = actions.countP (Action.issues p) := by
  induction actions generalizing s with
  | nil => rfl
  | cons a actions ih =>
    rw [journal, List.countP_append, countP_moves, ih, List.countP_cons]
    omega

/-! ## The commands in flight -/

/-- The commands that have not ended. -/
def inFlight (s : Session) : List Pending :=
  s.calling ++ s.queue.waiting.map fun holder => holder.value.1

theorem mem_inFlight {p : Pending} :
    p ∈ s.inFlight ↔ p ∈ s.calling ∨ ∃ holder ∈ s.queue.waiting, holder.value.1 = p := by
  simp [inFlight]

/-- What an action issues. -/
def issued (s : Session) : Action → List Pending
  | .issue command => [s.note command s.queue.next]
  | _ => []

/-- The commands called, in line and admitted are all among `pool`. -/
structure Flight.DrawnFrom (pool : List Pending) (f : Flight) : Prop where
  calling : ∀ p ∈ f.calling, p ∈ pool
  turns : TurnQueue.Only (fun r => r.1 ∈ pool) (f.queue, f.admitted)

/-- A call is under way already, or that of a command just issued. -/
theorem mem_calling_flight {a : Action} {p : Pending} (h : p ∈ (s.flight a).calling) :
    p ∈ s.calling ∨ p ∈ s.issued a := by
  cases a with
  | event | view | tick | cancelReconnect => exact .inl h
  | issue command => exact List.mem_append.1 h
  | resolve ticket reply now =>
    cases hf : s.calling.find? (·.ticket = ticket) with
    | some p =>
      simp only [flight, hf] at h
      exact .inl (List.mem_filter.1 h).1
    | none =>
      simp only [flight, hf] at h
      exact .inl h
  | cancel ticket now =>
    by_cases hr : s.isRunning ticket = true
    · simp only [flight, hr, if_true] at h
      exact .inl (List.mem_filter.1 h).1
    · simp only [flight, hr] at h
      exact .inl h

/-- What holds of the results in line, and of the one that the transport replies, holds of those
that an action applies or leaves in line. -/
theorem flight_only {P : Pending × Text → Prop} {a : Action}
    (inLine : ∀ holder ∈ s.queue.waiting, P holder.value)
    (replied : ∀ ticket reply now p, a = .resolve ticket reply now →
      s.calling.find? (·.ticket = ticket) = some p → P (p, p.command.errorOf reply)) :
    TurnQueue.Only P ((s.flight a).queue, (s.flight a).admitted) := by
  have idle : TurnQueue.Only P (s.queue, []) := ⟨fun _ hr => absurd hr List.not_mem_nil, inLine⟩
  cases a with
  | event | view | tick | cancelReconnect => exact idle
  | issue command => exact ⟨fun _ hr => absurd hr List.not_mem_nil, inLine⟩
  | resolve ticket reply now =>
    cases hf : s.calling.find? (·.ticket = ticket) with
    | some p =>
      simp only [flight, hf]
      exact TurnQueue.only_enter ticket (replied ticket reply now p rfl hf) inLine
    | none =>
      simp only [flight, hf]
      exact idle
  | cancel ticket now =>
    by_cases hr : s.isRunning ticket = true
    · simp only [flight, hr, if_true]
      split
      · exact TurnQueue.only_abandon ticket inLine
      · exact TurnQueue.only_leave _ inLine
    · simp only [flight, hr]
      exact idle

/-- An action leaves in flight, or applies the results of, commands that were in
flight or that it issues. -/
theorem flight_drawnFrom (s : Session) (a : Action) :
    (s.flight a).DrawnFrom (s.inFlight ++ s.issued a) where
  calling p hp := by
    rcases mem_calling_flight hp with before | new
    · exact List.mem_append_left _ (mem_inFlight.2 (.inl before))
    · exact List.mem_append_right _ new
  turns := by
    apply flight_only
    · intro holder hh
      exact List.mem_append_left _ (mem_inFlight.2 (.inr ⟨holder, hh, rfl⟩))
    · intro ticket reply now p _ found
      exact List.mem_append_left _ (mem_inFlight.2 (.inl (List.mem_of_find?_eq_some found)))

/-- A result is applied only of a command that was in flight. -/
theorem mem_inFlight_of_conclude {a : Action} {p : Pending} {error : Text} {now : Int}
    (h : Move.conclude p error now ∈ s.moves a) : p ∈ s.inFlight := by
  have admitted := (flight_drawnFrom s a).turns.admitted
  cases a with
  | event | view | tick | cancelReconnect | issue => simp [moves] at h
  | resolve | cancel =>
    simp only [moves, List.mem_map, issued, List.append_nil] at h admitted
    obtain ⟨r, hr, e⟩ := h
    cases e
    exact admitted r hr

/-- A command in flight was in flight before, or has just been issued. -/
theorem mem_inFlight_step {a : Action} {p : Pending} (h : p ∈ (s.step settings a).inFlight) :
    p ∈ s.inFlight ∨ p ∈ s.issued a := by
  obtain ⟨calling, queue⟩ := flight_step settings s a
  have drawn := flight_drawnFrom s a
  rw [← List.mem_append]
  rcases mem_inFlight.1 h with called | ⟨holder, hh, rfl⟩
  · exact drawn.calling p (calling ▸ called)
  · exact drawn.turns.inLine holder (by rwa [queue] at hh)

/-- A command in flight after a run was in flight before, or the run has issued it. What was
noted about it then has stayed. -/
theorem noted_of_mem_inFlight_run {actions : List Action} {p : Pending}
    (h : p ∈ (run settings actions s).inFlight) :
    p ∈ s.inFlight ∨ ∃ before after, actions = before ++ .issue p.command :: after ∧
      p = (run settings before s).note p.command (run settings before s).queue.next := by
  induction actions generalizing s with
  | nil => exact .inl h
  | cons a actions ih =>
    rcases ih h with soon | ⟨before, after, rfl, noted⟩
    · rcases mem_inFlight_step settings soon with already | new
      · exact .inl already
      · cases a with
        | issue command =>
          obtain rfl := List.mem_singleton.1 new
          exact .inr ⟨[], actions, rfl, rfl⟩
        | _ => exact absurd new List.not_mem_nil
    · exact .inr ⟨a :: before, after, rfl, noted⟩

theorem mem_inFlight_run {actions : List Action} {p : Pending}
    (h : p ∈ (run settings actions s).inFlight) :
    p ∈ s.inFlight ∨ ∃ before after, actions = before ++ .issue p.command :: after ∧
      p.ticket = (run settings before s).queue.next := by
  rcases noted_of_mem_inFlight_run settings h with old | ⟨before, after, split, noted⟩
  · exact .inl old
  · exact .inr ⟨before, after, split, congrArg Pending.ticket noted⟩

/-- A run applies results of commands that were in flight before, or that it has issued. -/
theorem issued_of_conclude {actions : List Action} {p : Pending} {error : Text} {now : Int}
    (h : Move.conclude p error now ∈ journal settings actions s) :
    p ∈ s.inFlight ∨ ∃ before after, actions = before ++ .issue p.command :: after ∧
      p.ticket = (run settings before s).queue.next := by
  obtain ⟨before, a, after, rfl, made⟩ := mem_journal settings h
  rcases mem_inFlight_run settings (mem_inFlight_of_conclude made) with old | new
  · exact .inl old
  · obtain ⟨front, back, rfl, ticket⟩ := new
    exact .inr ⟨front, back ++ a :: after, by simp, ticket⟩

end VoiceChat.Session
