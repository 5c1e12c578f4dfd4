import VoiceChat.Session.Run

/-!
# The event loop

In a run of a session everybody whose turn has come applies their result before
anything else happens. The event loop leaves more room: a holder who has come to
its turn in the line is woken in a moment of its own, and until then events arrive,
calls end, and commands are issued or cancelled, that of the holder included. In a
moment at most one result is applied.

The transport may also fail in a way that cannot be put into words. Then the
command breaks off with neither a result nor a word to the others, and its ticket
is never passed on.
-/

namespace VoiceChat.Loop

open Session (Outcome)

/-- How a call of the transport ends. -/
inductive Ending where
  | replied (reply : Reply)
  /-- With a failure that has no text, because asking for its text fails too. -/
  | untellable
deriving DecidableEq, Repr

/-- How a command ended, or that it broke off when a failure could not be told. -/
inductive Fate where
  | ended (outcome : Outcome)
  | untold
deriving DecidableEq, Repr

/-- A ticket and what became of its command. -/
abbrev Notice := Int × Fate

/-- Apply a result whose turn it is, and serve the next ticket. -/
def takeTurn (settings : Settings) (now : Int) (p : Pending) (error : Text) (s : Session) :
    Session × List Notice :=
  let concluded := s.conclude settings now p error
  ({ concluded.1 with queue := concluded.1.queue.advance },
    [(p.ticket, .ended (Session.outcomeOf p error concluded.2))])

/-- The call of `ticket` ends. Its result is applied if it is its turn, and else it waits. -/
def endCall (settings : Settings) (now : Int) (ticket : Int) (ending : Ending) (s : Session) :
    Session × List Notice :=
  match s.calling.find? (·.ticket = ticket) with
  | some p =>
    let s := { s with calling := s.calling.filter (·.ticket ≠ ticket) }
    match ending with
    | .untellable => (s, [(ticket, .untold)])
    | .replied reply =>
      let error := p.command.errorOf reply
      if ticket = s.queue.serving then takeTurn settings now p error s
      else ({ s with queue := s.queue.await ticket (p, error) }, [])
  | none => (s, [])

/-- Wake the holder in line whose turn it is. -/
def wake (settings : Settings) (now : Int) (s : Session) : Session × List Notice :=
  match s.queue.turn? with
  | some (holder, left) =>
    takeTurn settings now holder.value.1 holder.value.2 { s with queue := left }
  | none => (s, [])

/-- Cancel the command of `ticket`, whether it is called, in line, or has come to its turn. -/
def cancel (ticket : Int) (s : Session) : Session × List Notice :=
  if s.isRunning ticket then
    let line := { s.queue with waiting := s.queue.waiting.eraseP (·.ticket = ticket) }
    ({ s with
        calling := s.calling.filter (·.ticket ≠ ticket)
        queue := line.forsake ticket }, [(ticket, .ended .cancelled)])
  else (s, [])

/-- What the event loop does without a break. -/
inductive Moment where
  | event (event : Event) (now : Int)
  | view (channel : Int)
  | tick (now : Int)
  | cancelReconnect
  | issue (command : Command)
  | endCall (ticket : Int) (ending : Ending) (now : Int)
  | wake (now : Int)
  | cancel (ticket : Int)
deriving DecidableEq, Repr

/-- Let a moment pass; the state after it, and the commands that ended or broke off. -/
def perform (settings : Settings) (s : Session) : Moment → Session × List Notice
  | .event event now => (s.receive settings now event, [])
  | .view channel => (s.view channel, [])
  | .tick now => ((s.tick now).1, [])
  | .cancelReconnect => (s.cancelReconnect, [])
  | .issue command => ((s.issue command).1, [])
  | .endCall ticket ending now => endCall settings now ticket ending s
  | .wake now => wake settings now s
  | .cancel ticket => cancel ticket s

/-- The state after a moment. -/
def step (settings : Settings) (s : Session) (moment : Moment) : Session :=
  (perform settings s moment).1

/-- The state after some moments. -/
def run (settings : Settings) (moments : List Moment) (s : Session) : Session :=
  moments.foldl (step settings) s

/-- The commands that end or break off meanwhile, in order. -/
def notices (settings : Settings) : List Moment → Session → List Notice
  | [], _ => []
  | m :: ms, s => (perform settings s m).2 ++ notices settings ms (step settings s m)

@[simp] theorem run_nil (settings : Settings) (s : Session) : run settings [] s = s := rfl

@[simp] theorem run_cons (settings : Settings) (m : Moment) (ms : List Moment) (s : Session) :
    run settings (m :: ms) s = run settings ms (step settings s m) := rfl

theorem run_append (settings : Settings) (ms later : List Moment) (s : Session) :
    run settings (ms ++ later) s = run settings later (run settings ms s) :=
  List.foldl_append

theorem notices_append (settings : Settings) (ms later : List Moment) (s : Session) :
    notices settings (ms ++ later) s =
      notices settings ms s ++ notices settings later (run settings ms s) := by
  induction ms generalizing s with
  | nil => rfl
  | cons m ms ih => simp [notices, ih]

end VoiceChat.Loop
