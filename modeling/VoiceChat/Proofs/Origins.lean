import VoiceChat.Proofs.ConnectionMoves
import VoiceChat.Proofs.ResultOrder

/-!
# Where commands and results come from

A command in flight, or one whose result is applied, was issued by a move made before
(`issue_of_mem_inFlight`, `issue_of_conclude`). What was noted about it was noted in the
state at that moment, its ticket counts the commands before it, and it is stale exactly
if a disconnect was issued since (`Issued.isStale_iff`).
-/

namespace VoiceChat.Session

/-- The issue of a command among the moves in `front`: those before it, and those since. -/
structure Issued (settings : Settings) (front before since : List Move) (p : Pending) : Prop where
  split : front = before ++ .prepare p.command :: since
  noted : p = (before.foldl (move settings) {}).note p.command (before.countP Move.isPrepare)

variable {settings : Settings} {actions : List Action} {front before since : List Move}
  {p : Pending}

theorem Issued.append (h : Issued settings front before since p) (later : List Move) :
    Issued settings (front ++ later) before (since ++ later) p where
  split := by simp [h.split]
  noted := h.noted

theorem Issued.ticket (h : Issued settings front before since p) :
    p.ticket = before.countP Move.isPrepare :=
  congrArg Pending.ticket h.noted

/-- The commands before it tell where a command was issued. -/
theorem Issued.unique {before' since' : List Move} (h : Issued settings front before since p)
    (h' : Issued settings front before' since' p) : before = before' ∧ since = since' := by
  have counted : before.countP Move.isPrepare = before'.countP Move.isPrepare := by
    have same := h.ticket.symm.trans h'.ticket
    omega
  have split := h.split.symm.trans h'.split
  rcases List.append_eq_append_iff.1 split with ⟨between, rfl, rest⟩ | ⟨between, rfl, rest⟩
  · cases between with
    | nil => exact ⟨(List.append_nil _).symm, (List.cons.inj rest).2⟩
    | cons m between =>
      obtain ⟨rfl, -⟩ := List.cons.inj rest
      rw [List.countP_append, List.countP_cons_of_pos rfl] at counted
      omega
  · cases between with
    | nil => exact ⟨List.append_nil _, (List.cons.inj rest).2.symm⟩
    | cons m between =>
      obtain ⟨rfl, -⟩ := List.cons.inj rest
      rw [List.countP_append, List.countP_cons_of_pos rfl] at counted
      omega

/-- What the moves since the issue have started from. -/
theorem Issued.foldl_eq (h : Issued settings front before since p) :
    front.foldl (move settings) {} =
      since.foldl (move settings) ((before.foldl (move settings) {}).prepare p.command) := by
  rw [h.split, List.foldl_append]
  rfl

/-- A command is stale when a disconnect has been issued since. -/
theorem Issued.isStale_iff (h : Issued settings front before since p) :
    (front.foldl (move settings) {}).isStale p = true ↔ ∃ m ∈ since, m.isDisconnect = true := by
  have generation : p.generation =
      ((before.foldl (move settings) {}).prepare p.command).connection.generation :=
    congrArg Pending.generation h.noted
  rw [isStale, h.foldl_eq, generation_foldl, generation, decide_eq_true_eq,
    ← List.countP_pos_iff]
  omega

theorem note_withFlight (s : Session) (calling : List Pending)
    (queue : TurnQueue (Pending × Text)) (command : Command) (ticket : Int) :
    (s.withFlight calling queue).note command ticket = s.note command ticket := by
  cases command <;> rfl

theorem issue_of_mem_inFlight (h : p ∈ (run settings actions {}).inFlight) :
    ∃ before since, Issued settings (journal settings actions {}) before since p := by
  rcases noted_of_mem_inFlight_run settings h with old | ⟨before, after, rfl, noted⟩
  · cases old
  · have next : (run settings before {}).queue.next =
        (journal settings before {}).countP Move.isPrepare := by
      rw [next_run settings inTurn_start, countP_isPrepare]
      exact Int.zero_add _
    rw [next, run_eq_journal, note_withFlight] at noted
    have split := journal_append settings before (.issue p.command :: after) {}
    exact ⟨_, _, split, noted⟩

/-- A result is applied of a command issued before. -/
theorem issue_of_conclude {error : Text} {now : Int}
    (pre : front ++ [.conclude p error now] <+: journal settings actions {}) :
    ∃ before since, Issued settings front before since p := by
  obtain ⟨earlier, a, later, made, -, rfl, last⟩ := exists_action_of_prefix settings pre
  have applied : .conclude p error now ∈ (run settings earlier {}).moves a :=
    last.subset List.mem_concat_self
  obtain ⟨before, since, issued⟩ := issue_of_mem_inFlight (mem_inFlight_of_conclude applied)
  exact ⟨before, since ++ made, issued.append made⟩

end VoiceChat.Session
