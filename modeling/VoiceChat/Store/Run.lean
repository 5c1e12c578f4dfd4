import VoiceChat.Store

/-!
# Runs of a store

Every change that can be made to a store, one at a time, and what a list of
changes makes of it.
-/

namespace VoiceChat.Store

/-- A change to a store. -/
inductive Change where
  | reset
  | nameServer (name : Text)
  | setOwner (id : Int)
  | setSelf (id : Int)
  | replaceUsers (users : List User) (reported : Table Int Int)
  | upsertUser (user : User)
  | removeUser (id : Int)
  | renameUser (id : Int) (username : Text)
  | moveUser (id channel : Int)
  | replaceChannels (channels : List Channel)
  | deliver (message : Message)
  | narrate (channel : Int) (text : Text) (ts : Int)
  | edit (msgId : Int) (text : Text) (ts : Int)
  | delete (msgId : Int)
  | react (msgId : Int) (emoji : Text) (user : Int)
  | unreact (msgId : Int) (emoji : Text) (user : Int)
  | pin (msgId : Int) (pinned : Bool)
  | attachPreview (msgId : Int) (preview : LinkPreview)
  | noteTyping (id : Int) (entry : TypingEntry)
  | noteSpeaking (id expiresAt : Int)
  | setVideo (id : Int) (active screenShare : Bool) (layers : Option (List VideoLayer))
  | setVideoLayers (id : Int) (layers : List VideoLayer)
  | setRecording (channel : Int) (recording : Bool) (startedBy : Text)
  | countUnread (channel : Int)
  | resetUnread (channel : Int)
deriving DecidableEq

/-- The store after a change. -/
def step (settings : Settings) (s : Store) : Change → Store
  | .reset => {}
  | .nameServer name => { s with serverName := name }
  | .setOwner id => { s with ownerId := some id }
  | .setSelf id => { s with selfId := some id }
  | .replaceUsers users reported => s.replaceUsers users reported
  | .upsertUser user => s.upsertUser user
  | .removeUser id => s.removeUser id
  | .renameUser id username => s.renameUser id username
  | .moveUser id channel => s.moveUser id channel
  | .replaceChannels channels => { s with channels }
  | .deliver message => (s.deliver settings message).1
  | .narrate channel text ts => s.narrate settings channel text ts
  | .edit msgId text ts => s.modifyMessage msgId (·.edit text ts)
  | .delete msgId => s.modifyMessage msgId Message.delete
  | .react msgId emoji user => s.modifyMessage msgId (·.react emoji user)
  | .unreact msgId emoji user => s.modifyMessage msgId (·.unreact emoji user)
  | .pin msgId pinned => s.modifyMessage msgId fun m => { m with pinned }
  | .attachPreview msgId preview =>
    s.modifyMessage msgId fun m => { m with linkPreview := some preview }
  | .noteTyping id entry => s.noteTyping id entry
  | .noteSpeaking id expiresAt => s.noteSpeaking id expiresAt
  | .setVideo id active screenShare layers => s.setVideo id active screenShare layers
  | .setVideoLayers id layers => s.setVideoLayers id layers
  | .setRecording channel recording startedBy => s.setRecording channel recording startedBy
  | .countUnread channel => s.countUnread channel
  | .resetUnread channel => s.resetUnread channel

/-- The store after a list of changes. -/
def run (settings : Settings) (changes : List Change) (s : Store) : Store :=
  changes.foldl (step settings) s

@[simp] theorem run_nil (settings : Settings) (s : Store) : run settings [] s = s := rfl

@[simp] theorem run_cons (settings : Settings) (c : Change) (cs : List Change) (s : Store) :
    run settings (c :: cs) s = run settings cs (step settings s c) := rfl

theorem run_append (settings : Settings) (cs ds : List Change) (s : Store) :
    run settings (cs ++ ds) s = run settings ds (run settings cs s) :=
  List.foldl_append

end VoiceChat.Store
