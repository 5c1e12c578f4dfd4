import VoiceChat.Proofs.Origins
import VoiceChat.Proofs.OverlappingConnects

/-!
# Connecting again to the server that is connected

By the time a connect succeeds, another one may have made its server the active one. Whether
the success puts a stage on show was settled at its issue, and the stage that was prepared for
it may be on show already, so that an empty store takes its place.
`repeated_connect_keeps_iff` says when the store on show stays.
-/

namespace VoiceChat.Session

/-- Whether the active server has no stage: what it sends is shown. -/
def Unstaged (s : Session) : Prop := s.staged.contains s.connection.address = false

/-- Whether a move is a success that connects to a server without putting its stage, which
there is, on show. -/
def Bypasses (s : Session) : Move → Prop
  | .conclude p error _ =>
    error = "" ∧ s.decidesConnection p = true ∧ s.decidesSwitch p = false ∧
      s.staged.contains p.address = true
  | _ => False

variable {settings : Settings} {s : Session} {front before since : List Move} {p : Pending}

/-! ## No stage for the active server -/

/-- A move that leaves the address alone, and starts no stage. -/
theorem Unstaged.of_eq {t : Session} (hs : s.Unstaged)
    (address : t.connection.address = s.connection.address)
    (staged : ∀ address, t.staged.contains address = s.staged.contains address) : t.Unstaged := by
  rw [Unstaged, staged, address]
  exact hs

theorem unstaged_prepare (hs : s.Unstaged) (command : Command) :
    (s.prepare command).Unstaged := by
  cases command with
  | connect address username =>
    cases switches : s.connection.switches address with
    | true =>
      have apart : s.connection.address ≠ address := Ne.symm (of_decide_eq_true switches)
      simp only [prepare, switches, if_true]
      show (s.staged.insert address {}).contains s.connection.address = false
      rw [Table.contains, Table.get?_insert_of_ne apart]
      exact hs
    | false =>
      apply hs.of_eq
      · rfl
      · intro other
        simp [prepare, switches]
  | disconnect => rfl
  | _ => exact hs

theorem unstaged_conclude (hs : s.Unstaged) {error : Text} {now : Int}
    (h : ¬s.Bypasses (.conclude p error now)) :
    (s.conclude settings now p error).1.Unstaged := by
  have shape := concluded settings error now s p
  cases decides : s.decidesSwitch p with
  | true =>
    obtain ⟨-, staged⟩ := conclude_of_decidesSwitch settings error now decides
    have connects := decidesConnection_of_decidesSwitch decides
    rw [Unstaged, staged, Table.contains, Table.get?_erase]
    by_cases success : error = ""
    · rw [success, conclude_success settings now connects]
      exact congrArg Option.isSome (if_pos rfl)
    · rw [shape.address fun h => success h.1]
      split
      · rfl
      · exact hs
  | false =>
    obtain ⟨-, staged⟩ := conclude_of_not_decidesSwitch settings error now decides
    by_cases connects : error = "" ∧ s.decidesConnection p = true
    · obtain ⟨rfl, connects⟩ := connects
      rw [Unstaged, staged, conclude_success settings now connects]
      show s.staged.contains p.address = false
      rw [← Bool.not_eq_true]
      exact fun held => h ⟨rfl, connects, decides, held⟩
    · apply hs.of_eq (shape.address connects)
      intro address
      rw [staged]

theorem unstaged_move (hs : s.Unstaged) {m : Move} (h : ¬s.Bypasses m) :
    (s.move settings m).Unstaged := by
  cases m with
  | receive event now =>
    apply hs.of_eq
    · exact congrArg Prod.fst (servers_move settings (m := .receive event now) rfl)
    · exact contains_receive event now
  | view channel => exact hs
  | tick now =>
    exact hs.of_eq (congrArg Prod.fst (servers_move settings (m := .tick now) rfl)) fun _ => rfl
  | cancelReconnect =>
    exact hs.of_eq (congrArg Prod.fst (servers_move settings (m := .cancelReconnect) rfl))
      fun _ => rfl
  | prepare command => exact unstaged_prepare hs command
  | conclude p error now => exact unstaged_conclude hs h

theorem unstaged_foldl
    (h : ∀ early m, early ++ [m] <+: front → ¬(early.foldl (move settings) {}).Bypasses m) :
    (front.foldl (move settings) {}).Unstaged := by
  have start : ({} : Session).Unstaged := rfl
  exact foldl_unbroken (I := Unstaged) (fun _ _ hs kept => unstaged_move hs kept) start h

/-! ## The store on show -/

/-- The success of a connect leaves the store on show in place when it is stale or has gone to
the server active at its issue, and leaves it as it was when the stage is no different. -/
theorem Issued.success_keeps_store_iff (h : Issued settings front before since p)
    {address username : Text} (command : p.command = .connect address username) (now : Int) :
    let s := front.foldl (move settings) {}
    (s.move settings (.conclude p "" now)).store = s.store ↔
      (∃ m ∈ since, m.isDisconnect = true) ∨
      (before.foldl (move settings) {}).connection.address = address ∨
      s.store = (s.staged.get? address).getD {} := by
  intro s
  have target : p.address = address := by
    have noted := congrArg Pending.address h.noted
    simpa only [note, command] using noted
  have switching : p.switching = (before.foldl (move settings) {}).connection.switches address := by
    have noted := congrArg Pending.switching h.noted
    simpa only [note, command] using noted
  have stale := h.isStale_iff
  have decided : s.decidesSwitch p = (!s.isStale p && p.switching) := by
    simp only [decidesSwitch, command]
  cases decides : s.decidesSwitch p with
  | true =>
    obtain ⟨store, -⟩ := conclude_of_decidesSwitch settings "" now decides
    have promoted : (s.move settings (.conclude p "" now)).store =
        (s.staged.get? address).getD {} := by
      rw [← target]
      exact store.trans (if_pos rfl)
    rw [decided, Bool.and_eq_true, Bool.not_eq_true', switching] at decides
    obtain ⟨fresh, switches⟩ := decides
    have current : ¬∃ m ∈ since, m.isDisconnect = true := by
      rw [← stale]
      exact Bool.eq_false_iff.1 fresh
    have other : (before.foldl (move settings) {}).connection.address ≠ address :=
      Ne.symm (of_decide_eq_true switches)
    rw [promoted, eq_comm]
    simp only [current, other, false_or]
  | false =>
    have kept := (conclude_of_not_decidesSwitch settings "" now decides).1
    refine iff_of_true kept ?_
    rw [decided, Bool.and_eq_false_iff, Bool.not_eq_false', switching] at decides
    rcases decides with outdated | same
    · exact .inl (stale.1 outdated)
    · exact .inr (.inl (Eq.symm (by simpa [Connection.switches] using same)))

/-- In every run, the success of a connect to the active server leaves the store on show as it
is exactly if the connect has become stale, if that server was the active one already when it
was issued, or if the stage of that server is no different from the store on show. The active
server has no stage, which counts as an empty store, as long as every success that
connected has put the stage of its server on show. -/
theorem repeated_connect_keeps_iff {actions : List Action} {username : Text} {now : Int}
    (pre : front ++ [.conclude p "" now] <+: journal settings actions {})
    (again : p.command =
      .connect (front.foldl (move settings) {}).connection.address username) :
    let s := front.foldl (move settings) {}
    let address := s.connection.address
    ∃ before since, Issued settings front before since p ∧
      ((s.move settings (.conclude p "" now)).store = s.store ↔
        (∃ m ∈ since, m.isDisconnect = true) ∨
        (before.foldl (move settings) {}).connection.address = address ∨
        s.store = (s.staged.get? address).getD {}) ∧
      ((∀ early m, early ++ [m] <+: front → ¬(early.foldl (move settings) {}).Bypasses m) →
        s.staged.get? address = none) := by
  intro s address
  obtain ⟨before, since, issued⟩ := issue_of_conclude pre
  refine ⟨before, since, issued, issued.success_keeps_store_iff again now, ?_⟩
  intro never
  have unstaged : s.Unstaged := unstaged_foldl never
  simpa [Unstaged, Table.contains] using unstaged

/-- A server that is connected is connected to once more under another name. -/
theorem store_kept_under_other_name :
    let actions := [.issue (.connect "a:1" "me"), .resolve 0 (.answered "") 0,
      .event ⟨"a:1", .serverNamed "A"⟩ 1, .issue (.connect "a:1" "you")]
    let front := journal {} actions {}
    let s := front.foldl (move {}) {}
    let p := s.note (.connect "a:1" "you") 1
    s.connection.isConnected = true ∧ s.store.serverName = "A" ∧
      (s.move {} (.conclude p "" 2)).store = s.store := by
  intro actions front s p
  have pre : front ++ [.conclude p "" 2] <+:
      journal {} (actions ++ [.resolve 1 (.answered "") 2]) {} := ⟨[], rfl⟩
  have again : p.command = .connect s.connection.address "you" := by decide +kernel
  obtain ⟨before, since, issued, keeps, -⟩ := repeated_connect_keeps_iff pre again
  have known : Issued {} front [.prepare (.connect "a:1" "me"),
      .conclude (({} : Session).note (.connect "a:1" "me") 0) "" 0,
      .receive ⟨"a:1", .serverNamed "A"⟩ 1] [] p := ⟨rfl, by decide +kernel⟩
  obtain ⟨rfl, rfl⟩ := issued.unique known
  refine ⟨by decide +kernel, by decide +kernel, keeps.2 (.inr (.inl ?_))⟩
  decide +kernel

/-- Two connects to one server are in flight, and it sends its name after the first one has
succeeded. -/
theorem store_wiped_by_second_connect :
    let s := run {} [.issue (.connect "a:1" "me"), .issue (.connect "a:1" "me"),
      .resolve 0 (.answered "") 0, .event ⟨"a:1", .serverNamed "A"⟩ 1] {}
    let result := s.perform {} (.resolve 1 (.answered "") 2)
    s.connection.isConnected = true ∧ s.connection.address = "a:1" ∧
      s.inFlight.map Pending.command = [.connect "a:1" "me"] ∧
      s.store.serverName = "A" ∧ result.2 = [(1, .returned "")] ∧
      result.1.store.serverName = "" ∧ result.1.store ≠ s.store := by
  decide +kernel

end VoiceChat.Session
