import VoiceChat.Proofs.Flags
import VoiceChat.Proofs.ResultOrder

/-!
# Leaving voice, and joins that come late

Leaving the voice channel counts at once, and so does the loss of the server. Both make no
result stale: a join issued before brings the user back into voice when it succeeds. A
presence keeps, beside the session, when the user was taken out of voice last and
which join brought the user in. `current_iff_not_overtaken` says that the two get into the
wrong order at the late success of a join, and nowhere else.
-/

namespace VoiceChat

open Session (Move Action countP_isPrepare)

/-- A session, and what is known of the way into voice and out of it. -/
structure Presence where
  session : Session := {}
  /-- How many commands have been issued. -/
  issued : Int := 0
  /-- How many had been issued when the user left voice, or lost the server, last. -/
  floor : Int := 0
  /-- The ticket of the join that succeeded last. -/
  joinedBy : Option Int := none

namespace Presence

/-- Whether a move takes the user out of voice: the user leaves, or the server is lost. -/
def leaves (x : Presence) : Move → Bool
  | .prepare .leaveVoice => true
  | .receive event _ => x.session.losesServer event
  | _ => false

/-- How many commands have been issued after a move. -/
def count (x : Presence) (m : Move) : Int := if m.isPrepare then x.issued + 1 else x.issued

/-- The ticket of the join that succeeded last, after a move. -/
def entry (x : Presence) : Move → Option Int
  | .conclude p error _ =>
    if x.session.bringsIntoVoice p error then some p.ticket else x.joinedBy
  | _ => x.joinedBy

/-- The presence after a move. -/
def move (settings : Settings) (x : Presence) (m : Move) : Presence where
  session := x.session.move settings m
  issued := x.count m
  floor := if x.leaves m then x.count m else x.floor
  joinedBy := x.entry m

/-- The presence of a fresh session after `moves`. -/
def after (settings : Settings) (moves : List Move) : Presence := moves.foldl (move settings) {}

/-- Whether the join that brought the user into voice was issued after the user was taken
out of it last. -/
def Current (x : Presence) : Prop :=
  x.session.connection.voice.isJoined = true → ∃ ticket ∈ x.joinedBy, x.floor ≤ ticket

instance (x : Presence) : Decidable x.Current :=
  inferInstanceAs (Decidable (x.session.connection.voice.isJoined = true →
    ∃ ticket ∈ x.joinedBy, x.floor ≤ ticket))

/-- Whether a move is the success of a join that was issued before the user was taken out
of voice last. -/
def Overtaken (x : Presence) : Move → Prop
  | .conclude p error _ => x.session.bringsIntoVoice p error = true ∧ p.ticket < x.floor
  | _ => False

variable (settings : Settings) {x : Presence}

/-! ## What is counted -/

theorem session_after (moves : List Move) :
    (after settings moves).session = moves.foldl (Session.move settings) {} :=
  (List.foldl_hom session fun _ _ => rfl).symm

theorem issued_foldl (moves : List Move) (x : Presence) :
    (moves.foldl (move settings) x).issued = x.issued + moves.countP Move.isPrepare := by
  induction moves generalizing x with
  | nil => simp
  | cons m moves ih =>
    rw [List.foldl_cons, ih, List.countP_cons]
    simp only [move, count]
    split <;> omega

/-- The ticket of a command is the number of commands issued before it. -/
theorem ticket_of_conclude {actions : List Action} {p : Pending} {error : Text} {now : Int}
    (made : .conclude p error now ∈ Session.journal settings actions {}) :
    ∃ before after, actions = before ++ .issue p.command :: after ∧
      p.ticket = before.countP Action.isIssue := by
  rcases Session.issued_of_conclude settings made with old | ⟨before, after, split, ticket⟩
  · cases old
  · refine ⟨before, after, split, ticket.trans ?_⟩
    rw [Session.next_run settings Session.inTurn_start before]
    exact Int.zero_add _

/-! ## Out of voice, and back -/

theorem not_joined_of_leaves {m : Move} (h : x.leaves m = true) :
    (x.move settings m).session.connection.voice.isJoined = false := by
  cases m with
  | prepare command =>
    cases command with
    | leaveVoice => rfl
    | _ => cases h
  | receive event now =>
    obtain ⟨_, _, lost⟩ := Session.receive_loss settings h now
    simp only [move, Session.move, lost]
    rfl
  | _ => cases h

theorem entry_of_not_bringsIntoVoice {m : Move}
    (h : ∀ p error now, m = .conclude p error now → x.session.bringsIntoVoice p error = false) :
    x.entry m = x.joinedBy := by
  cases m with
  | conclude p error now => simp [entry, h p error now rfl]
  | _ => rfl

variable {settings}

theorem current_move (hx : x.Current) {m : Move} (h : ¬x.Overtaken m) :
    (x.move settings m).Current := by
  intro joined
  -- a move that takes the user out of voice leaves nothing to show
  have stays : x.leaves m = false := by
    rw [Bool.eq_false_iff]
    intro leaves
    rw [not_joined_of_leaves settings leaves] at joined
    cases joined
  have floor : (x.move settings m).floor = x.floor := by simp [move, stays]
  rw [floor]
  by_cases brings : ∃ p error now, m = .conclude p error now ∧
      x.session.bringsIntoVoice p error = true
  · -- this join is the one that counts from now on, and the floor has not passed it
    obtain ⟨p, error, now, rfl, brings⟩ := brings
    refine ⟨p.ticket, by simp [move, entry, brings], ?_⟩
    exact Int.not_lt.1 fun late => h ⟨brings, late⟩
  · have before : x.session.connection.voice.isJoined = true :=
      (Session.joined_of_move joined).resolve_right brings
    have same : (x.move settings m).joinedBy = x.joinedBy :=
      entry_of_not_bringsIntoVoice fun p error now made =>
        Bool.eq_false_iff.2 fun joins => brings ⟨p, error, now, made, joins⟩
    rw [same]
    exact hx before

theorem not_current_of_overtaken {m : Move} (h : x.Overtaken m) :
    ¬(x.move settings m).Current := by
  cases m with
  | conclude p error now =>
    obtain ⟨brings, late⟩ := h
    intro current
    obtain ⟨ticket, entered, above⟩ := current (Session.joined_of_bringsIntoVoice brings now)
    have own : ticket = p.ticket := by simpa [move, entry, brings] using entered.symm
    have floor : x.floor ≤ ticket := above
    omega
  | _ => exact h.elim

/-- In every run, whoever is in voice got there by a join issued after leaving voice, or
losing the server, the last time, up to the first success of a join that the
leaving or the loss has overtaken. Commands are numbered in their order of issue. -/
theorem current_iff_not_overtaken (settings : Settings) (actions : List Action) :
    let moves := Session.journal settings actions {}
    let s := Session.run settings actions {}
    s = (after settings moves).session.withFlight s.calling s.queue ∧
    (after settings moves).issued = actions.countP Action.isIssue ∧
    (∀ p error now, .conclude p error now ∈ moves →
      ∃ before after, actions = before ++ .issue p.command :: after ∧
        p.ticket = before.countP Action.isIssue) ∧
    ((∀ front, front <+: moves → (after settings front).Current) ↔
      ∀ front m, front ++ [m] <+: moves → ¬(after settings front).Overtaken m) := by
  intro moves s
  refine ⟨?_, ?_, fun p error now => ticket_of_conclude settings, ?_⟩
  · rw [session_after]
    exact Session.run_eq_journal settings actions {}
  · have counted := issued_foldl settings moves {}
    rw [countP_isPrepare] at counted
    exact counted.trans (Int.zero_add _)
  · have fresh : ({} : Presence).Current := nofun
    exact Session.foldl_throughout_iff (P := Current) (fun _ current => current)
      (fun _ _ current => current_move current) (fun _ _ => not_current_of_overtaken) fresh moves

/-- A join that succeeds after the user has been taken out of voice. -/
def late (leaving : Action) : List Action :=
  [.issue (.connect "a:1" "me"), .resolve 0 (.answered "") 0,
    .issue (.joinVoice 3), leaving, .resolve 1 (.answered "") 2]

/-- Neither leaving voice nor the loss of the server keeps the join from bringing the user
into voice again. -/
theorem not_current_late :
    let left := after {} (Session.journal {} (late (.issue .leaveVoice)) {})
    let lost := after {} (Session.journal {} (late (.event ⟨"a:1", .connectionLost ""⟩ 1)) {})
    left.session.connection.voice = .joined 3 ∧
    left.joinedBy = some 1 ∧ left.floor = 3 ∧ ¬left.Current ∧
    lost.session.connection.voice = .joined 3 ∧
    lost.joinedBy = some 1 ∧ lost.floor = 2 ∧ ¬lost.Current := by
  decide +kernel

end Presence

end VoiceChat
