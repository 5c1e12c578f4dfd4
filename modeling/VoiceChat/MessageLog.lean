import VoiceChat.Message

/-!
# The message log

The messages of every channel in order of arrival. Later events address a
message by its id; of several lines with one id at most one is addressable.
Lines of the program's own narration are numbered downwards from `-1` and
become the addressable line of their number. With a positive limit the oldest
lines of a channel are evicted when a new one arrives, and an evicted id is no
longer addressable anywhere.
-/

namespace VoiceChat

/-- A line of a channel's history. -/
structure Line where
  message : Message
  /-- Whether events with the message's id reach this line. -/
  addressable : Bool := true
deriving DecidableEq

/-- Whether an event for the message `id` reaches the line. -/
def Line.answers (line : Line) (id : Int) : Bool := line.addressable ∧ line.message.msgId = id

/-- The messages of all channels. -/
structure MessageLog where
  histories : Table Int (List Line) := .empty
  nextNarrationId : Int := -1
deriving DecidableEq

namespace MessageLog

/-- The lines of a channel, oldest first. -/
def linesOf (log : MessageLog) (channel : Int) : List Line := (log.histories.get? channel).getD []

/-- The lines of all channels. -/
def lines (log : MessageLog) : List Line := log.histories.values.flatten

/-- The message that events for `id` reach. -/
def find? (log : MessageLog) (id : Int) : Option Message :=
  (log.lines.find? fun line => line.answers id).map Line.message

/-- Every line mapped by `f`. -/
def mapLines (f : Line → Line) (log : MessageLog) : MessageLog :=
  { log with histories := log.histories.mapValues fun _ lines => lines.map f }

/-- Change the message that events for `id` reach, if there is one. -/
def modify (log : MessageLog) (id : Int) (f : Message → Message) : MessageLog :=
  log.mapLines fun line => if line.answers id then { line with message := f line.message } else line

/-- Make no line answer to `id`. -/
def withdraw (log : MessageLog) (id : Int) : MessageLog :=
  log.mapLines fun line =>
    if line.message.msgId = id then { line with addressable := false } else line

/-- Take the line that answers to `id` out of its history. -/
def remove (log : MessageLog) (id : Int) : MessageLog :=
  { log with histories := log.histories.mapValues fun _ lines => lines.filter (!·.answers id) }

/-- Add an addressable line at the end of its channel's history. -/
def append (log : MessageLog) (message : Message) : MessageLog :=
  { log with
    histories := log.histories.insert message.channelId
      (log.linesOf message.channelId ++ [{ message }]) }

/-- How many lines of a history of `length` lines exceed the limit. -/
def excess (limit : Int) (length : Nat) : Nat := if limit ≤ 0 then 0 else length - limit.toNat

/-- Drop the oldest lines of a channel beyond the limit and withdraw their ids. -/
def evict (limit : Int) (channel : Int) (log : MessageLog) : MessageLog :=
  let lines := log.linesOf channel
  let dropped := lines.take (excess limit lines.length)
  dropped.foldl (fun log line => log.withdraw line.message.msgId)
    { log with histories := log.histories.modify channel (·.drop dropped.length) }

/-- Take in a message from the server, and say whether its id is new. A known
id is overwritten in its place, or moved when the channel has changed. -/
def deliver (limit : Int) (message : Message) (log : MessageLog) : MessageLog × Bool :=
  match log.find? message.msgId with
  | some known =>
    if known.channelId = message.channelId then (log.modify message.msgId fun _ => message, false)
    else ((log.remove message.msgId).append message, false)
  | none => ((log.append message).evict limit message.channelId, true)

/-- The next line of narration for a channel. -/
def narration (log : MessageLog) (channel : Int) (text : Text) (ts : Int) : Message :=
  { msgId := log.nextNarrationId, text, ts, channelId := channel, system := true }

/-- Add a line of narration to a channel. -/
def narrate (limit : Int) (channel : Int) (text : Text) (ts : Int) (log : MessageLog) :
    MessageLog :=
  let counted := { log with nextNarrationId := log.nextNarrationId - 1 }
  ((counted.withdraw log.nextNarrationId).append (log.narration channel text ts)).evict limit
    channel

/-- The messages of a channel, oldest first. -/
def messagesOf (log : MessageLog) (channel : Int) : List Message :=
  (log.linesOf channel).map Line.message

/-- The messages of every channel that has any. -/
def messages (log : MessageLog) : Table Int (List Message) :=
  (log.histories.mapValues fun _ lines => lines.map Line.message).filter fun _ lines =>
    !lines.isEmpty

end MessageLog

end VoiceChat
