import VoiceChat.Store.Run

/-!
# The archive of messages

The message log the way it is kept: every message is stored once, and the histories and an
index of ids refer to where it is. A change reaches a message through the index and shows in
its history. A message that is delivered again is stored anew; the known one, which has to be
found in the history of its channel, makes way for it there or leaves it for another channel.
An evicted message takes its id out of the index.
-/

namespace VoiceChat

/-- The messages of all channels, stored once and referred to from two sides. -/
structure Archive where
  /-- The messages by slot, in the order in which they were stored. -/
  records : List Message := []
  /-- The slots of a channel's messages, oldest first. -/
  histories : Table Int (List Nat) := .empty
  /-- The slot of the message with an id. -/
  index : Table Int Nat := .empty
  nextNarrationId : Int := -1
deriving DecidableEq

namespace Archive

open Store (Change)

/-- The message in a slot. -/
def messageAt (a : Archive) (slot : Nat) : Message := a.records.getD slot { msgId := 0 }

def slotsOf (a : Archive) (channel : Int) : List Nat := (a.histories.get? channel).getD []

/-- The message that an id leads to. -/
def get? (a : Archive) (id : Int) : Option Message := (a.index.get? id).map a.messageAt

/-- The messages of a channel, oldest first. -/
def messagesOf (a : Archive) (channel : Int) : List Message :=
  (a.slotsOf channel).map a.messageAt

/-! ## New messages -/

/-- Store a message under its id, shown nowhere yet. -/
def store (message : Message) (a : Archive) : Archive :=
  { a with
    records := a.records ++ [message]
    index := a.index.insert message.msgId a.records.length }

/-- Add a message at the end of its channel's history. -/
def append (message : Message) (a : Archive) : Archive :=
  { a.store message with
    histories := a.histories.insert message.channelId
      (a.slotsOf message.channelId ++ [a.records.length]) }

/-- Put a message at a place of its channel's history. -/
def overwrite (place : Nat) (message : Message) (a : Archive) : Archive :=
  { a.store message with
    histories := a.histories.insert message.channelId
      ((a.slotsOf message.channelId).set place a.records.length) }

/-- Take what is at a place out of a channel's history. -/
def takeOut (channel : Int) (place : Nat) (a : Archive) : Archive :=
  { a with histories := a.histories.insert channel ((a.slotsOf channel).eraseIdx place) }

/-- Drop the oldest of some messages, and what the index has under its id, until there are
no more than `limit`. -/
def trim (a : Archive) (limit : Nat) : List Nat → Table Int Nat → List Nat × Table Int Nat
  | [], index => ([], index)
  | slot :: slots, index =>
    if limit < (slot :: slots).length then
      a.trim limit slots (index.erase (a.messageAt slot).msgId)
    else (slot :: slots, index)

/-- Evict the oldest messages of a channel beyond the limit. -/
def evict (limit : Int) (channel : Int) (a : Archive) : Archive :=
  if limit ≤ 0 then a
  else
    let trimmed := a.trim limit.toNat (a.slotsOf channel) a.index
    { a with
      histories := a.histories.modify channel fun _ => trimmed.1
      index := trimmed.2 }

/-- Take in a message, and say whether its id is new. There is no answer when the message
known by the id is not in the history of its channel. -/
def deliver (limit : Int) (message : Message) (a : Archive) : Option (Archive × Bool) :=
  match a.index.get? message.msgId with
  | some known => do
    let channel := (a.messageAt known).channelId
    let place ← (a.slotsOf channel).findIdx? (· = known)
    if channel = message.channelId then return (a.overwrite place message, false)
    else return ((a.takeOut channel place).append message, false)
  | none => some ((a.append message).evict limit message.channelId, true)

/-- Add a line of narration to a channel. -/
def narrate (limit : Int) (channel : Int) (text : Text) (ts : Int) (a : Archive) : Archive :=
  let line : Message :=
    { msgId := a.nextNarrationId, text, ts, channelId := channel, system := true }
  ({ a with nextNarrationId := a.nextNarrationId - 1 }.append line).evict limit channel

/-! ## Changes -/

/-- Change the message in a slot. -/
def changeAt (slot : Nat) (f : Message → Message) (a : Archive) : Archive :=
  { a with records := a.records.modify slot f }

/-- Change the message that an id leads to, if there is one. -/
def modify (id : Int) (f : Message → Message) (a : Archive) : Archive :=
  match a.index.get? id with
  | some slot => a.changeAt slot f
  | none => a

/-- The archive after a change to the store. -/
def step (settings : Settings) (a : Archive) : Change → Option Archive
  | .reset => some {}
  | .deliver message => (a.deliver settings.maxMessagesPerChannel message).map Prod.fst
  | .narrate channel text ts => some (a.narrate settings.maxMessagesPerChannel channel text ts)
  | .edit msgId text ts => some (a.modify msgId (·.edit text ts))
  | .delete msgId => some (a.modify msgId Message.delete)
  | .react msgId emoji user => some (a.modify msgId (·.react emoji user))
  | .unreact msgId emoji user => some (a.modify msgId (·.unreact emoji user))
  | .pin msgId pinned => some (a.modify msgId fun m => { m with pinned })
  | .attachPreview msgId preview =>
    some (a.modify msgId fun m => { m with linkPreview := some preview })
  | _ => some a

/-- The archive after a list of changes. -/
def run (settings : Settings) (changes : List Change) (a : Archive) : Option Archive :=
  changes.foldlM (step settings) a

end Archive

end VoiceChat
