import VoiceChat.Text

/-!
# Commands

What a user can ask of the server, and what the transport may answer. An
answer is an error text, empty for success; a transport that fails instead of
answering leaves the text of its failure.
-/

namespace VoiceChat

/-- What a user can ask of the server. -/
inductive Command where
  | connect (address username : Text)
  /-- Connect again with the address and name of the last connect. -/
  | reconnect
  | disconnect
  | joinVoice (channel : Int)
  | leaveVoice
  | sendChat (channel : Int) (text : Text)
  | editMessage (msgId : Int) (text : Text)
  | deleteMessage (msgId : Int)
  | addReaction (msgId : Int) (emoji : Text)
  | removeReaction (msgId : Int) (emoji : Text)
  | kickUser (userId : Int)
  | createChannel (name : Text)
  | renameChannel (channel : Int) (name : Text)
  | deleteChannel (channel : Int)
  | moveUser (userId channel : Int)
  | renameUser (name : Text)
  | renameServer (name : Text)
  | startVideo
  | stopVideo
  | startScreenShare
  | stopScreenShare
  | requestVideoQuality (userId : Int) (quality : Text)
deriving DecidableEq, Repr

/-- What the transport makes of a call. -/
inductive Reply where
  /-- An error text, empty for success. -/
  | answered (error : Text)
  | silent
  | raised (text : Text)
deriving DecidableEq, Repr

namespace Command

def name : Command → String
  | connect .. => "connect"
  | reconnect => "reconnect"
  | disconnect => "disconnect"
  | joinVoice _ => "join_voice"
  | leaveVoice => "leave_voice"
  | sendChat .. => "send_chat"
  | editMessage .. => "edit_message"
  | deleteMessage _ => "delete_message"
  | addReaction .. => "add_reaction"
  | removeReaction .. => "remove_reaction"
  | kickUser _ => "kick_user"
  | createChannel _ => "create_channel"
  | renameChannel .. => "rename_channel"
  | deleteChannel _ => "delete_channel"
  | moveUser .. => "move_user"
  | renameUser _ => "rename_user"
  | renameServer _ => "rename_server"
  | startVideo => "start_video"
  | stopVideo => "stop_video"
  | startScreenShare => "start_screen_share"
  | stopScreenShare => "stop_screen_share"
  | requestVideoQuality .. => "request_video_quality"

/-- The error text that a reply amounts to. What a disconnect is answered does
not matter, only whether the transport failed. -/
def errorOf (command : Command) : Reply → Text
  | .answered error => if command = .disconnect then "" else error
  | .silent => ""
  | .raised text => if text = "" then command.name ++ " failed" else text

end Command

end VoiceChat
