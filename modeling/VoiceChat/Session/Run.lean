import VoiceChat.Session.Commands

/-!
# Runs of a session

Everything that can happen to a session, one action at a time; the clock
reading comes with the action. A run is a list of actions; it leads to a
state, and on its way commands end. A state is reachable when some run leads
to it from a fresh session.
-/

namespace VoiceChat.Session

/-- Something that happens to a session. -/
inductive Action where
  | event (event : Event) (now : Int)
  | view (channel : Int)
  | tick (now : Int)
  | cancelReconnect
  | issue (command : Command)
  | resolve (ticket : Int) (reply : Reply) (now : Int)
  | cancel (ticket : Int) (now : Int)
deriving DecidableEq, Repr

/-- Let an action happen; the state after it, and the commands that ended. -/
def perform (settings : Settings) (s : Session) : Action → Session × List Report
  | .event event now => (s.receive settings now event, [])
  | .view channel => (s.view channel, [])
  | .tick now => ((s.tick now).1, [])
  | .cancelReconnect => (s.cancelReconnect, [])
  | .issue command => ((s.issue command).1, [])
  | .resolve ticket reply now => s.resolve settings now ticket reply
  | .cancel ticket now => s.cancel settings now ticket

/-- The state after an action. -/
def step (settings : Settings) (s : Session) (action : Action) : Session :=
  (s.perform settings action).1

/-- The state after a run. -/
def run (settings : Settings) (actions : List Action) (s : Session) : Session :=
  actions.foldl (step settings) s

/-- The commands that end during a run, in the order in which they end. -/
def reports (settings : Settings) : List Action → Session → List Report
  | [], _ => []
  | a :: as, s => (s.perform settings a).2 ++ reports settings as (s.step settings a)

/-- Whether some run leads to the state from a fresh session. -/
def Reachable (settings : Settings) (s : Session) : Prop := ∃ actions, run settings actions {} = s

@[simp] theorem run_nil (settings : Settings) (s : Session) : run settings [] s = s := rfl

@[simp] theorem run_cons (settings : Settings) (a : Action) (as : List Action) (s : Session) :
    run settings (a :: as) s = run settings as (step settings s a) := rfl

theorem run_append (settings : Settings) (as bs : List Action) (s : Session) :
    run settings (as ++ bs) s = run settings bs (run settings as s) :=
  List.foldl_append

theorem reports_append (settings : Settings) (as bs : List Action) (s : Session) :
    reports settings (as ++ bs) s =
      reports settings as s ++ reports settings bs (run settings as s) := by
  induction as generalizing s with
  | nil => rfl
  | cons a as ih => simp [reports, ih]

theorem Reachable.step {settings : Settings} {s : Session} (h : Reachable settings s)
    (a : Action) : Reachable settings (s.step settings a) := by
  obtain ⟨as, rfl⟩ := h
  exact ⟨as ++ [a], by rw [run_append]; rfl⟩

end VoiceChat.Session
