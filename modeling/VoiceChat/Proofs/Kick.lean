import VoiceChat.Proofs.Flags

/-!
# How long a kick lasts

A kick ends the connection, the voice connection and the countdown. It makes no result
stale, so that a command in flight brings the session back if it succeeds after all.
`kick_lasts_iff` says that the successes of connects, reconnects and joins do, unless a
disconnect has made them stale, and that nothing else does.
-/

namespace VoiceChat

/-- Neither connected, nor in a voice channel, nor counting down to an attempt to reconnect. -/
structure Connection.Out (c : Connection) : Prop where
  connected : c.isConnected = false
  voice : c.voice.isJoined = false
  reconnect : c.reconnect.isActive = false

namespace Session

/-- Whether a move is the success of a connect, a reconnect or a join, unless it is stale. -/
def Revives (s : Session) : Move → Prop
  | .conclude p error _ => error = "" ∧ p.command.isBound = true ∧ s.isStale p = false
  | _ => False

variable {settings : Settings} {s : Session}

/-- Such a success decides about the connection, or it brings the user into voice. -/
theorem revives_iff {p : Pending} {error : Text} {now : Int} :
    s.Revives (.conclude p error now) ↔
      (error = "" ∧ s.decidesConnection p = true) ∨ s.bringsIntoVoice p error = true := by
  cases hc : p.command <;>
    simp [Revives, decidesConnection, bringsIntoVoice, hc, Command.isBound]

/-! ## Staying out -/

/-- Nothing but a success brings the session back. -/
theorem out_move (out : s.connection.Out) {m : Move} (h : ¬s.Revives m) :
    (s.move settings m).connection.Out := by
  refine ⟨Bool.eq_false_iff.2 fun connected => ?_, Bool.eq_false_iff.2 fun joined => ?_,
    Bool.eq_false_iff.2 fun active => ?_⟩
  · rcases connected_of_move connected with before | ⟨p, now, rfl, decides⟩
    · exact Bool.eq_false_iff.1 out.connected before
    · exact h (revives_iff.2 (.inl ⟨rfl, decides⟩))
  · rcases joined_of_move joined with before | ⟨p, error, now, rfl, brings⟩
    · exact Bool.eq_false_iff.1 out.voice before
    · exact h (revives_iff.2 (.inr brings))
  · -- a countdown starts at a loss only, and a loss needs a server that is connected
    rcases reconnecting_of_move active with ⟨before, -⟩ | ⟨event, now, rfl, loses⟩
    · exact Bool.eq_false_iff.1 out.reconnect before
    · obtain ⟨-, -, -, connected⟩ := losesServer_iff.1 loses
      exact Bool.eq_false_iff.1 out.connected connected

theorem not_out_of_revives {m : Move} (h : s.Revives m) :
    ¬(s.move settings m).connection.Out := by
  cases m with
  | conclude p error now =>
    intro out
    rcases revives_iff.1 h with ⟨rfl, decides⟩ | brings
    · have connected : (s.move settings (.conclude p "" now)).connection = _ :=
        conclude_success settings now decides
      rw [connected] at out
      cases out.connected
    · exact Bool.eq_false_iff.1 out.voice (joined_of_bringsIntoVoice brings now)
  | _ => exact h.elim

theorem out_of_kick {event : Event} (kick : event.body = .kicked)
    (active : s.route event.serverAddr = .active) (now : Int) :
    (s.step settings (.event event now)).connection.Out := by
  have received : (s.step settings (.event event now)).connection =
      s.connection.kicked settings := by
    simp only [step, perform, receive, active, kick]
    rfl
  rw [received]
  exact ⟨rfl, rfl, rfl⟩

/-! ## The rest of the run -/

/-- After a kick the session is neither connected, nor in a voice channel, nor counting
down, up to the first success of a connect, a reconnect or a join that is not stale. As
long as no such command is issued after the kick, it is one that the kick
found in flight. -/
theorem kick_lasts_iff (settings : Settings) (s : Session) {event : Event}
    (kick : event.body = .kicked) (active : s.route event.serverAddr = .active) (now : Int)
    (actions : List Action) :
    let kicked := s.step settings (.event event now)
    let moves := journal settings actions kicked
    (run settings actions kicked).connection = (moves.foldl (move settings) kicked).connection ∧
    ((∀ front, front <+: moves → (front.foldl (move settings) kicked).connection.Out) ↔
      ∀ front m, front ++ [m] <+: moves → ¬(front.foldl (move settings) kicked).Revives m) ∧
    ((∀ command, .issue command ∈ actions → command.isBound = false) →
      ∀ p error now, .conclude p error now ∈ moves → p.command.isBound = true →
        p ∈ s.inFlight) := by
  intro kicked moves
  refine ⟨?_, ?_, fun idle p error now made bound => ?_⟩
  · rw [run_eq_journal settings actions kicked]
    rfl
  · exact foldl_throughout_iff (P := fun t : Session => t.connection.Out) (fun _ out => out)
      (fun _ _ out => out_move out) (fun _ _ => not_out_of_revives)
      (out_of_kick kick active now) moves
  · rcases issued_of_conclude settings made with old | ⟨before, after, rfl, -⟩
    · rcases mem_inFlight_step settings old with same | new
      · exact same
      · cases new
    · have free := idle p.command (List.mem_append_right _ List.mem_cons_self)
      rw [bound] at free
      cases free

/-- The join that the kick found in flight is refused. -/
theorem out_when_join_refused :
    let s := run {} [.issue (.connect "a:1" "me"), .resolve 0 (.answered "") 0,
      .issue (.joinVoice 3)] {}
    let kicked := s.step {} (.event ⟨"a:1", .kicked⟩ 1)
    let moves := journal {} [.resolve 1 (.raised "refused") 2] kicked
    s.route "a:1" = .active ∧
    ∀ front, front <+: moves → (front.foldl (move {}) kicked).connection.Out := by
  intro s kicked moves
  have active : s.route "a:1" = .active := by decide +kernel
  have kick : (Event.mk "a:1" .kicked).body = .kicked := rfl
  obtain ⟨-, lasts, -⟩ :=
    kick_lasts_iff {} s kick active 1 [.resolve 1 (.raised "refused") 2]
  have refused : moves = [.conclude (s.note (.joinVoice 3) 1) "refused" 2] := rfl
  refine ⟨active, lasts.2 fun front m pre revives => ?_⟩
  have made : m ∈ moves := pre.subset (List.mem_append_right _ List.mem_cons_self)
  rw [refused, List.mem_singleton] at made
  rw [made] at revives
  exact absurd revives.1 (by decide)

/-- A join and a connect that the kick found in flight succeed. -/
theorem back_after_kick :
    let s := run {} [.issue (.connect "a:1" "me"), .resolve 0 (.answered "") 0,
      .issue (.joinVoice 3), .issue (.connect "b:2" "me")] {}
    let kicked := s.step {} (.event ⟨"a:1", .kicked⟩ 1)
    let joined := kicked.step {} (.resolve 1 (.answered "") 2)
    let connected := joined.step {} (.resolve 2 (.answered "") 3)
    s.route "a:1" = .active ∧
    kicked.connection.voice.isJoined = false ∧ joined.connection.voice.isJoined = true ∧
    joined.connection.isConnected = false ∧ connected.connection.isConnected = true := by
  decide +kernel

end Session

end VoiceChat
