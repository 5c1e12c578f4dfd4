import VoiceChat.User

/-!
# Chat messages

A message with everything that later events may attach to it: an edit, a
deletion, a pin, reactions and a link preview. `Message.reactionList` is the
order in which reactions are shown, `TypingEntry` the notice that somebody is
writing.
-/

namespace VoiceChat

/-- What a server found behind a link. -/
structure LinkPreview where
  url : Text
  title : Text := ""
  description : Text := ""
  image : Text := ""
  siteName : Text := ""
deriving DecidableEq, Repr

/-- A file sent along with a message. -/
structure Attachment where
  fileId : Option Int := none
  url : Text := ""
  name : Text := ""
  size : Int := 0
deriving DecidableEq, Repr

/-- The message that a reply answers, as it was when the reply was sent. -/
structure ReplyPreview where
  msgId : Int
  username : Text := ""
  text : Text := ""
  deleted : Bool := false
deriving DecidableEq, Repr

/-- One emoji and the users who reacted with it. -/
structure Reaction where
  emoji : Text
  userIds : List Int
  count : Int
deriving DecidableEq, Repr

/-- A message of a channel. -/
structure Message where
  msgId : Int
  senderId : Int := 0
  username : Text := ""
  text : Text := ""
  /-- Unix milliseconds, stamped by the server. -/
  ts : Int := 0
  channelId : Int := 0
  edited : Bool := false
  editedTs : Option Int := none
  deleted : Bool := false
  pinned : Bool := false
  /-- The users behind each emoji, in the order in which the emoji came up. -/
  reactions : Table Text IntSet := .empty
  mentions : IntSet := .empty
  attachment : Option Attachment := none
  linkPreview : Option LinkPreview := none
  replyTo : Option Int := none
  replyPreview : Option ReplyPreview := none
  system : Bool := false
deriving DecidableEq

/-- The notice that a user is writing in a channel, shown until it expires. -/
structure TypingEntry where
  userId : Int
  username : Text
  channelId : Int := 0
  /-- Unix milliseconds. -/
  expiresAt : Int
deriving DecidableEq, Repr

namespace Message

/-- The reactions as shown: the emoji first used comes first, users ascend. -/
def reactionList (message : Message) : List Reaction :=
  (message.reactions.entries.filter fun e => !e.2.isEmpty).map fun e =>
    { emoji := e.1, userIds := e.2.elems, count := e.2.size }

/-- The message with a reaction of `user`; reacting twice is reacting once. -/
def react (message : Message) (emoji : Text) (user : Int) : Message :=
  { message with
    reactions := message.reactions.insert emoji
      (((message.reactions.get? emoji).getD .empty).insert user) }

/-- The message without the reaction of `user`; an emoji without users is dropped. -/
def unreact (message : Message) (emoji : Text) (user : Int) : Message :=
  match message.reactions.get? emoji with
  | none => message
  | some users =>
    let users := users.erase user
    { message with
      reactions := if users.isEmpty then message.reactions.erase emoji
        else message.reactions.insert emoji users }

def edit (message : Message) (text : Text) (ts : Int) : Message :=
  { message with text, edited := true, editedTs := some ts }

def delete (message : Message) : Message := { message with deleted := true, text := "" }

end Message

namespace LinkPreview

def ofFields (fields : Fields) : Decoded LinkPreview :=
  LinkPreview.mk <$> Decode.required fields "url" Decode.string
    <*> Decode.withDefault fields "title" Decode.string ""
    <*> Decode.withDefault fields "description" Decode.string ""
    <*> Decode.withDefault fields "image" Decode.string ""
    <*> Decode.withDefault fields "site_name" Decode.string ""

def decode : Json → Decoded LinkPreview := Decode.record "LinkPreview" ofFields

def toFields (preview : LinkPreview) : Fields :=
  [("url", .ofText preview.url), ("title", .ofText preview.title),
    ("description", .ofText preview.description), ("image", .ofText preview.image),
    ("site_name", .ofText preview.siteName)]

def encode (preview : LinkPreview) : Json := .obj preview.toFields

end LinkPreview

namespace Attachment

def ofFields (fields : Fields) : Decoded Attachment :=
  Attachment.mk <$> Decode.withDefault fields "file_id" (Decode.nullable Decode.int) none
    <*> Decode.withDefault fields "url" Decode.string ""
    <*> Decode.withDefault fields "name" Decode.string ""
    <*> Decode.withDefault fields "size" Decode.int 0

def decode : Json → Decoded Attachment := Decode.record "FileAttachment" ofFields

def encode (attachment : Attachment) : Json :=
  .obj [("file_id", Json.ofOption Json.int attachment.fileId), ("url", .ofText attachment.url),
    ("name", .ofText attachment.name), ("size", .int attachment.size)]

end Attachment

namespace ReplyPreview

/-- The quoted text is found under `text` or, failing that, under `message`. -/
def textField (fields : Fields) : String :=
  if (fields.get? "text").isSome then "text" else "message"

def ofFields (fields : Fields) : Decoded ReplyPreview :=
  ReplyPreview.mk <$> Decode.required fields "msg_id" Decode.int
    <*> Decode.withDefault fields "username" Decode.string ""
    <*> Decode.withDefault fields (textField fields) Decode.string ""
    <*> Decode.withDefault fields "deleted" Decode.bool false

def decode : Json → Decoded ReplyPreview := Decode.record "ReplyPreview" ofFields

def encode (preview : ReplyPreview) : Json :=
  .obj [("msg_id", .int preview.msgId), ("username", .ofText preview.username),
    ("text", .ofText preview.text), ("deleted", .bool preview.deleted)]

end ReplyPreview

namespace Reaction

def ofFields (fields : Fields) : Decoded Reaction :=
  Reaction.mk <$> Decode.required fields "emoji" Decode.string
    <*> Decode.required fields "user_ids" (Decode.list Decode.int)
    <*> Decode.required fields "count" Decode.int

def decode : Json → Decoded Reaction := Decode.record "ReactionInfo" ofFields

def encode (reaction : Reaction) : Json :=
  .obj [("emoji", .ofText reaction.emoji), ("user_ids", .arr (reaction.userIds.map .int)),
    ("count", .int reaction.count)]

end Reaction

def Message.ofFields (fields : Fields) : Decoded Message :=
  Message.mk <$> Decode.required fields "msg_id" Decode.int
    <*> Decode.withDefault fields "sender_id" Decode.int 0
    <*> Decode.withDefault fields "username" Decode.string ""
    <*> Decode.withDefault fields "text" Decode.string ""
    <*> Decode.withDefault fields "ts" Decode.int 0
    <*> Decode.withDefault fields "channel_id" Decode.int 0
    <*> Decode.withDefault fields "edited" Decode.bool false
    <*> Decode.withDefault fields "edited_ts" (Decode.nullable Decode.int) none
    <*> Decode.withDefault fields "deleted" Decode.bool false
    <*> Decode.withDefault fields "pinned" Decode.bool false
    <*> Decode.withDefault fields "reactions" (Decode.table Decode.string Decode.intSet) .empty
    <*> Decode.withDefault fields "mentions" Decode.intSet .empty
    <*> Decode.withDefault fields "attachment" (Decode.nullable Attachment.decode) none
    <*> Decode.withDefault fields "link_preview" (Decode.nullable LinkPreview.decode) none
    <*> Decode.withDefault fields "reply_to" (Decode.nullable Decode.int) none
    <*> Decode.withDefault fields "reply_preview" (Decode.nullable ReplyPreview.decode) none
    <*> Decode.withDefault fields "system" Decode.bool false

def Message.decode : Json → Decoded Message := Decode.record "ChatMessage" ofFields

namespace TypingEntry

def ofFields (fields : Fields) : Decoded TypingEntry :=
  TypingEntry.mk <$> Decode.required fields "user_id" Decode.int
    <*> Decode.required fields "username" Decode.string
    <*> Decode.withDefault fields "channel_id" Decode.int 0
    <*> Decode.required fields "expires_at" Decode.int

def decode : Json → Decoded TypingEntry := Decode.record "TypingEntry" ofFields

def encode (entry : TypingEntry) : Json :=
  .obj [("user_id", .int entry.userId), ("username", .ofText entry.username),
    ("channel_id", .int entry.channelId), ("expires_at", .int entry.expiresAt)]

end TypingEntry

end VoiceChat
