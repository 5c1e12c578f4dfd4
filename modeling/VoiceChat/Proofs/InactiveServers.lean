import Mathlib.Data.List.Induction
import VoiceChat.Proofs.ConnectionMoves

/-!
# Events of servers that are not active

An event of a server that is neither connected to nor staged is dropped as long as the
connection has an address. Before the first success and after a disconnect it has none,
and then the event is taken for one of the active server. `strangers_dropped_iff` says so,
and what in the run has given the connection its address.
-/

namespace VoiceChat.Session

variable (settings : Settings) {s : Session}

/-! ## Where the address comes from -/

/-- The address that a move gives the connection, if it gives one. -/
def gives (s : Session) : Move → Option Text
  | .prepare .disconnect => some ""
  | .conclude p error _ => if error = "" ∧ s.decidesConnection p then some p.address else none
  | _ => none

theorem address_move (s : Session) (m : Move) :
    (s.move settings m).connection.address = (s.gives m).getD s.connection.address := by
  cases m with
  | receive event now => exact congrArg Prod.fst (servers_receive settings now event)
  | view channel => rfl
  | tick now => exact congrArg Prod.fst (Connection.servers_poll s.connection now)
  | cancelReconnect => exact congrArg Prod.fst (Connection.servers_cancelReconnect s.connection)
  | prepare command => cases command <;> rfl
  | conclude p error now =>
    by_cases connects : error = "" ∧ s.decidesConnection p = true
    · obtain ⟨rfl, decides⟩ := connects
      simp only [move, conclude_success settings now decides, gives, decides]
      rfl
    · rw [gives, if_neg connects]
      exact (concluded settings error now s p).address connects

/-- Whether `address` is what the last of the moves that give an address has given. -/
def GivenLast (address : Text) (moves : List Move) : Prop :=
  ∃ before m after, moves = before ++ m :: after ∧
    (before.foldl (move settings) {}).gives m = some address ∧
    ∀ front later, front ++ [later] <+: after →
      ((before ++ m :: front).foldl (move settings) {}).gives later = none

theorem not_givenLast_nil (address : Text) : ¬GivenLast settings address [] := by
  rintro ⟨before, m, after, split, -⟩
  simp at split

theorem givenLast_concat_iff {settings : Settings} {address : Text} {moves : List Move}
    {m : Move} :
    GivenLast settings address (moves ++ [m]) ↔
      (moves.foldl (move settings) {}).gives m = some address ∨
      GivenLast settings address moves ∧ (moves.foldl (move settings) {}).gives m = none := by
  constructor
  · rintro ⟨before, given, after, split, gives, silent⟩
    rcases concat_eq_append_cons_iff.1 split with ⟨rfl, rfl, -⟩ | ⟨rest, rfl, earlier⟩
    · exact .inl gives
    · refine .inr ⟨⟨before, given, rest, earlier, gives, fun front later pre => ?_⟩, ?_⟩
      · exact silent front later (pre.trans (List.prefix_append _ _))
      · rw [earlier]
        exact silent rest m (List.prefix_refl _)
  · rintro (gives | ⟨⟨before, given, rest, split, gives, silent⟩, last⟩)
    · exact ⟨moves, m, [], rfl, gives, fun front later pre => by simp at pre⟩
    · refine ⟨before, given, rest ++ [m], concat_eq_append_cons_iff.2 (.inr ⟨rest, rfl, split⟩),
        gives, fun front later pre => ?_⟩
      rcases List.prefix_concat_iff.1 pre with same | earlier
      · obtain ⟨rfl, rfl⟩ := List.append_singleton_inj.1 same
        rwa [← split]
      · exact silent front later earlier

/-- The connection has the address that it was given last. -/
theorem address_eq_iff {address : Text} (named : address ≠ "") (moves : List Move) :
    (moves.foldl (move settings) {}).connection.address = address ↔
      GivenLast settings address moves := by
  induction moves using List.reverseRecOn with
  | nil => exact iff_of_false (Ne.symm named) (not_givenLast_nil settings address)
  | append_singleton moves m ih =>
    rw [List.foldl_append, givenLast_concat_iff, ← ih, List.foldl_cons, List.foldl_nil,
      address_move]
    cases (moves.foldl (move settings) {}).gives m with
    | none => simp
    | some given => simp

/-! ## Events without a home -/

/-- Whether a server is neither the one that the connection has an address of nor staged. -/
structure IsStranger (s : Session) (server : Text) : Prop where
  tagged : server ≠ ""
  inactive : server ≠ s.connection.address
  unstaged : s.staged.contains server = false

variable {settings} {server : Text}

/-- While the connection has an address, strangers are not listened to. -/
theorem IsStranger.step_of_address (h : s.IsStranger server) (named : s.connection.address ≠ "")
    (body : Event.Body) (now : Int) : s.step settings (.event ⟨server, body⟩ now) = s := by
  have route : s.route server = .nowhere := by
    simp [Session.route, h.tagged, h.unstaged, named, h.inactive]
  simp only [step, perform, receive, route]

theorem IsStranger.step_of_no_address (h : s.IsStranger server)
    (unnamed : s.connection.address = "") (body : Event.Body) (now : Int) :
    s.step settings (.event ⟨server, body⟩ now) = s.receiveActive settings now body := by
  have route : s.route server = .active := by
    simp [Session.route, h.tagged, h.unstaged, unnamed]
  simp only [step, perform, receive, route]

/-- Whoever is listened to can change the name of the server. -/
theorem IsStranger.dropped_iff (h : s.IsStranger server) :
    (∀ body now, s.step settings (.event ⟨server, body⟩ now) = s) ↔
      s.connection.address ≠ "" := by
  constructor
  · intro kept unnamed
    have renamed := kept (.serverNamed (s.store.serverName ++ "!")) 0
    rw [h.step_of_no_address unnamed] at renamed
    have same := congrArg (fun s => s.store.serverName.codes.length) renamed
    have mark : (Text.codes "!").length = 1 := rfl
    simp [receiveActive, Store.receive, Text.codes_append, mark] at same
  · intro named body now
    exact h.step_of_address named body now

/-- In the state that a run leads to, every event of a server that is neither active nor
staged is dropped, exactly if the connection has an address: that of the last result that
has connected, if no disconnect has come since. Otherwise the event does what one of the
active server does. -/
theorem strangers_dropped_iff {settings : Settings} {actions : List Action} {server : Text}
    (stranger : (run settings actions {}).IsStranger server) :
    let s := run settings actions {}
    ((∀ body now, s.step settings (.event ⟨server, body⟩ now) = s) ↔
      ∃ address : Text, address ≠ "" ∧ GivenLast settings address (journal settings actions {})) ∧
    (s.connection.address = "" → ∀ body now,
      s.step settings (.event ⟨server, body⟩ now) = s.receiveActive settings now body) := by
  intro s
  refine ⟨stranger.dropped_iff.trans ?_, stranger.step_of_no_address⟩
  rw [connection_run]
  constructor
  · intro named
    exact ⟨_, named, (address_eq_iff settings named _).1 rfl⟩
  · rintro ⟨address, named, given⟩
    rw [(address_eq_iff settings named _).2 given]
    exact named

/-- A server that nobody has asked for, while one is connected and another is staged. -/
theorem stranger_dropped_while_connected :
    let s := run {} [.issue (.connect "a:1" "me"), .resolve 0 (.answered "") 0,
      .issue (.connect "b:2" "me")] {}
    s.IsStranger "c:3" ∧ s.step {} (.event ⟨"c:3", .serverNamed "C"⟩ 0) = s := by
  intro s
  have stranger : s.IsStranger "c:3" :=
    ⟨by decide +kernel, by decide +kernel, by decide +kernel⟩
  have given : GivenLast {} "a:1" (journal {} [.issue (.connect "a:1" "me"),
      .resolve 0 (.answered "") 0, .issue (.connect "b:2" "me")] {}) :=
    (address_eq_iff {} (by decide +kernel) _).1 (by decide +kernel)
  exact ⟨stranger, (strangers_dropped_iff stranger).1.2 ⟨"a:1", by decide +kernel, given⟩ _ 0⟩

/-- A server that the user has disconnected from. -/
theorem stranger_received_after_disconnect :
    let s := run {} [.issue (.connect "a:1" "me"), .resolve 0 (.answered "") 0,
      .issue .disconnect] {}
    s.IsStranger "a:1" ∧ s.store.serverName = "" ∧
      (s.step {} (.event ⟨"a:1", .serverNamed "A"⟩ 0)).store.serverName = "A" := by
  intro s
  exact ⟨⟨by decide +kernel, by decide +kernel, by decide +kernel⟩, by decide +kernel,
    by decide +kernel⟩

end VoiceChat.Session
