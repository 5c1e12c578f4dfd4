import Mathlib.Data.List.Induction
import VoiceChat.Proofs.Disconnect

/-!
# Sessions that are given no commands

Without commands a session has no server, and the store on show takes in whatever arrives.
So what the store holds can be told from the events alone, in their order and with their clock
readings (`store_of_inputs`). What it knows of its users depends on few kinds of event
(`Store.meets`).
-/

namespace VoiceChat

/-- An event as it arrives, with the clock reading. -/
structure Arrival where
  body : Event.Body
  now : Int
deriving DecidableEq, Repr

namespace Store

/-! ## The users of a store -/

/-- What an event does to a store, as far as its users go. -/
def meet (settings : Settings) (now : Int) (body : Event.Body) (s : Store) : Store :=
  match body with
  | .rosterReplaced entries => s.replaceRoster entries
  | .userJoined id username role => s.upsertUser { id, username, role }
  | .userLeft id => s.removeUser id
  | .userRenamed id username => s.renameUser id username
  | .memberMoved id channel => s.moveUser id channel
  | .selfIdentified id => { s with selfId := some id }
  | .typingSignalled userId username channelId =>
    s.noteSignal settings now userId username channelId
  | .speaking id => s.noteSpeaking id (now + settings.speakingTtlMs)
  | _ => s

/-- Whether two stores know the same of their users: who is there and where, which of them one
is oneself, who is typing and who is speaking. -/
structure SameUsers (s t : Store) : Prop where
  users : s.users = t.users
  userChannels : s.userChannels = t.userChannels
  selfId : s.selfId = t.selfId
  typing : s.typing = t.typing
  speaking : s.speaking = t.speaking

theorem sameUsers_announce (settings : Settings) (now : Int) (text : Text) (s : Store) :
    (s.announce settings now text).SameUsers s := by
  unfold announce
  split <;> exact ⟨rfl, rfl, rfl, rfl, rfl⟩

theorem meets (settings : Settings) (viewed now : Int) (body : Event.Body) (s : Store) :
    (s.receiveLive settings viewed now body).SameUsers (s.meet settings now body) := by
  cases body with
  | userJoined | kicked => exact sameUsers_announce settings now _ _
  | userLeft id =>
    simp only [receiveLive, receive, leave]
    split
    · exact sameUsers_announce settings now _ _
    · exact ⟨rfl, rfl, rfl, rfl, rfl⟩
  | chatPosted p =>
    simp only [receiveLive, receive, post]
    split <;> exact ⟨rfl, rfl, rfl, rfl, rfl⟩
  | videoChanged =>
    simp only [receiveLive, receive, setVideo]
    split <;> exact ⟨rfl, rfl, rfl, rfl, rfl⟩
  | recordingChanged =>
    simp only [receiveLive, receive, setRecording]
    split <;> exact ⟨rfl, rfl, rfl, rfl, rfl⟩
  | _ => exact ⟨rfl, rfl, rfl, rfl, rfl⟩

end Store

namespace Session

/-! ## What arrives -/

variable {settings : Settings} {actions : List Action}

theorem restarts_of_input {a : Action} (input : a.isCommand = false) : a.restarts = false := by
  cases a <;> first | rfl | cases input

theorem gone_inputs (settings : Settings) (inputs : ∀ a ∈ actions, a.isCommand = false) :
    (run settings actions {}).Gone := by
  have late : ({} : Session).Latecomers := by simp [Latecomers, inFlight]
  exact (gone_run ⟨rfl, rfl, rfl, rfl, rfl, rfl⟩ late
    fun a mem => restarts_of_input (inputs a mem)).1

def Action.arrival? : Action → Option Arrival
  | .event e now => some ⟨e.body, now⟩
  | _ => none

/-- The events of a run, in order. -/
def arrived (actions : List Action) : List Arrival := actions.filterMap Action.arrival?

/-- What holds of an empty store before anything has arrived, and goes on to hold whatever
arrives, holds of the store on show. -/
theorem store_of_inputs {P : List Arrival → Store → Prop}
    (inputs : ∀ a ∈ actions, a.isCommand = false) (start : P [] {})
    (received : ∀ before s viewed (arrival : Arrival), P before s →
      P (before ++ [arrival]) (s.receiveLive settings viewed arrival.now arrival.body))
    (looked : ∀ before s channel, P before s → P before (s.resetUnread channel)) :
    P (arrived actions) (run settings actions {}).store := by
  -- on the last action: without a server, an event goes to the store on show
  induction actions using List.reverseRecOn with
  | nil => exact start
  | append_singleton actions a ih =>
    have earlier : ∀ b ∈ actions, b.isCommand = false :=
      fun b mem => inputs b (List.mem_append_left _ mem)
    have input := inputs a List.mem_concat_self
    rw [run_append, run_cons, run_nil, arrived, List.filterMap_append, ← arrived]
    cases a with
    | event e now =>
      have store : ((run settings actions {}).step settings (.event e now)).store = _ :=
        (gone_inputs settings earlier).store_receive e now
      rw [store]
      exact received _ _ _ ⟨e.body, now⟩ (ih earlier)
    | view channel => exact List.append_nil _ ▸ looked _ _ channel (ih earlier)
    | tick | cancelReconnect => exact List.append_nil _ ▸ ih earlier
    | _ => cases input

end Session

end VoiceChat
