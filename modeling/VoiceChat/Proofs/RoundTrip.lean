import VoiceChat.Event.Reader
import VoiceChat.Event.Writer

/-!
# Events read back as they were written

Reading is lax: an integer may come as a text, a boolean as a word, and a field may be
missing. What was read is written in the form that needs no such leave, so reading it a
second time ends with the same event (`read_toFields_of_read`). A `Codec` is a writer and
a reader that agree in this way; those of lists and records are built from those of their
parts. Texts come back whatever their code points are. Of all events, only a reaction
whose emoji is empty or holds half of a surrogate pair is not read back (`read_toFields`),
and no such event is ever read (`hasEmoji_of_readBody`). What is written names no field
twice (`nodup_toFields`), so that it does not matter which of two fields of one name would
be taken.
-/

namespace VoiceChat

@[simp] theorem Fields.get?_cons (name key : String) (v : Json) (fields : Fields) :
    Fields.get? ((key, v) :: fields) name = if key = name then some v else fields.get? name := by
  by_cases same : key = name <;> simp [Fields.get?, same]

namespace Decode

variable {α : Type} {encode : α → Json} {decode : Json → Decoded α}

/-- A reader that takes what a writer makes of a value for that value, and a writer that
makes null of none. -/
structure Codec (encode : α → Json) (decode : Json → Decoded α) : Prop where
  decode_encode : ∀ a, decode (encode a) = .value a
  encode_ne_null : ∀ a, encode a ≠ .null

theorem nullable_of_ne_null {v : Json} (h : v ≠ .null) : nullable decode v = some <$> decode v := by
  cases v with
  | null => exact absurd rfl h
  | _ => rfl

theorem Codec.nullable (codec : Codec encode decode) (a : Option α) :
    Decode.nullable decode (Json.ofOption encode a) = .value a := by
  cases a with
  | none => rfl
  | some a =>
    change Decode.nullable decode (encode a) = .value (some a)
    rw [nullable_of_ne_null (codec.encode_ne_null a), codec.decode_encode, Decoded.map_value]

theorem Codec.all (codec : Codec encode decode) (items : List α) (position : Nat) :
    Decoded.all decode position (items.map encode) = .value items := by
  induction items generalizing position with
  | nil => rfl
  | cons item items ih => simp [Decoded.all, codec.decode_encode, ih]

theorem Codec.list (codec : Codec encode decode) :
    Codec (Event.listOf encode) (Decode.list decode) where
  decode_encode items := codec.all items 0
  encode_ne_null _ := Json.noConfusion

/-- A record is read back when its fields are. -/
theorem Codec.record {name : String} {write : α → Fields} {read : Fields → Decoded α}
    (h : ∀ a, read (write a) = .value a) :
    Codec (fun a => .obj (write a)) (Decode.record name read) where
  decode_encode := h
  encode_ne_null _ := Json.noConfusion

theorem required_eq_value_iff {fields : Fields} {name : String} {a : α} :
    required fields name decode = .value a ↔
      ∃ v, fields.get? name = some v ∧ decode v = .value a := by
  cases given : fields.get? name with
  | none => simp [required, given, Decoded.fail, Decoded.under]
  | some v => simp [required, given, field, Decoded.under_eq_value_iff]

@[simp] theorem int_int (n : Int) : Decode.int (.int n) = .value n := rfl

@[simp] theorem bool_bool (b : Bool) : Decode.bool (.bool b) = .value b := rfl

@[simp] theorem string_ofText (text : Text) : Decode.string (.ofText text) = .value text := by
  cases text <;> rfl

theorem Codec.int : Codec Json.int Decode.int := ⟨int_int, fun _ => Json.noConfusion⟩

theorem Codec.string : Codec Json.ofText Decode.string where
  decode_encode := string_ofText
  encode_ne_null text := by cases text <;> exact Json.noConfusion

theorem Codec.natural : Codec (fun n : Nat => Json.int n) Decode.natural where
  decode_encode n := by
    have nonneg : ¬(n : Int) < 0 := by omega
    simp [Decode.natural, nonneg]
  encode_ne_null _ := Json.noConfusion

@[simp] theorem nullable_int (n : Option Int) :
    Decode.nullable Decode.int (Json.ofOption Json.int n) = .value n :=
  Codec.int.nullable n

@[simp] theorem nullable_string (text : Option Text) :
    Decode.nullable Decode.string (Json.ofOption Json.ofText text) = .value text :=
  Codec.string.nullable text

end Decode

open Decode

theorem Role.codec : Codec Role.encode Role.decode where
  decode_encode role := by cases role <;> rfl
  encode_ne_null _ := Json.noConfusion

theorem RosterEntry.codec : Codec RosterEntry.encode RosterEntry.decode :=
  .record fun entry => by
    simp [RosterEntry.ofFields, User.ofFields, User.toFields, required, withDefault, field,
      Role.codec.nullable]

theorem Channel.codec : Codec Channel.encode Channel.decode :=
  .record fun channel => by
    simp [Channel.ofFields, required, withDefault, field, Codec.natural.nullable]

theorem VideoLayer.codec : Codec VideoLayer.encode VideoLayer.decode :=
  .record fun layer => by simp [VideoLayer.ofFields, required, field]

/-- The quoted text is written under the name that is looked at first. -/
theorem ReplyPreview.codec : Codec ReplyPreview.encode ReplyPreview.decode :=
  .record fun preview => by
    simp [ReplyPreview.ofFields, ReplyPreview.textField, required, withDefault, field]

namespace Event

variable {fields : Fields} {kind : Kind} {body : Body}

theorem Kind.ofTag?_tag (kind : Kind) : Kind.ofTag? kind.tag = some kind := by
  cases kind <;> decide

/-- Whether a reaction has an emoji: characters, and one at least. -/
def Body.HasEmoji : Body → Prop
  | .reactionAdded _ emoji _ | .reactionRemoved _ emoji _ =>
    ∃ chars, chars ≠ "" ∧ emoji = .ofString chars
  | _ => True

theorem nonEmptyString_eq_value_iff {v : Json} {text : Text} :
    nonEmptyString v = .value text ↔
      ∃ chars, chars ≠ "" ∧ v = .str chars ∧ text = .ofString chars := by
  cases v with
  | str given =>
    by_cases empty : given = ""
    · simp only [nonEmptyString, empty, if_true, Decoded.fail, reduceCtorEq, Json.str.injEq,
        false_iff]
      rintro ⟨chars, used, same, -⟩
      exact used same.symm
    · simp only [nonEmptyString, empty, if_false, Decoded.value.injEq, Json.str.injEq]
      constructor
      · rintro rfl
        exact ⟨given, empty, rfl, rfl⟩
      · rintro ⟨chars, -, rfl, rfl⟩
        rfl
  | _ => simp [nonEmptyString, Decoded.fail]

/-- No field is written twice. -/
theorem nodup_toFields (event : Event) : (event.toFields.map Prod.fst).Nodup := by
  obtain ⟨server, body⟩ := event
  cases body <;> simp [toFields, bodyFields, postFields, LinkPreview.toFields]

/-- The fields of a message are found behind those that every event has. -/
theorem readPost_postFields (post : Post) (server : Text) (tag : String) :
    readPost (("server_addr", .ofText server) :: ("type", .str tag) :: postFields post) =
      .value post := by
  simp [readPost, postFields, required, withDefault, field, Codec.int.list.decode_encode,
    ReplyPreview.codec.nullable]

theorem readBody_bodyFields (h : body.HasEmoji) (server : Text) (tag : String) :
    readBody (("server_addr", .ofText server) :: ("type", .str tag) :: bodyFields body) body.kind =
      .value body := by
  cases body with
  | chatPosted post => simp [Body.kind, readBody, bodyFields, readPost_postFields]
  | reactionAdded msgId emoji userId | reactionRemoved msgId emoji userId =>
    obtain ⟨chars, used, rfl⟩ := h
    simp [Body.kind, readBody, bodyFields, required, field, nonEmptyString, Json.ofText, used]
  | linkPreviewed msgId channelId preview =>
    simp [Body.kind, readBody, bodyFields, required, withDefault, field,
      LinkPreview.ofFields, LinkPreview.toFields]
  | _ =>
    simp [Body.kind, readBody, bodyFields, required, withDefault, field, Role.codec.nullable,
      RosterEntry.codec.list.decode_encode, Channel.codec.list.decode_encode,
      VideoLayer.codec.list.decode_encode]

/-- An event is read back as it was written, unless it is a reaction with no emoji. -/
theorem read_toFields {event : Event} (h : event.body.HasEmoji) :
    read event.toFields = .value event := by
  obtain ⟨server, body⟩ := event
  have kind : readTag (toFields ⟨server, body⟩) = .value body.kind := by
    simp [readTag, toFields, Kind.ofTag?_tag]
  have whole : readKind (toFields ⟨server, body⟩) body.kind = .value ⟨server, body⟩ := by
    simp [readKind, toFields, withDefault, field, readBody_bodyFields h]
  simp [read, kind, whole]

/-- No reaction is read without an emoji; the bodies of other kinds have none to check. -/
theorem hasEmoji_of_readBody (h : readBody fields kind = .value body) : body.HasEmoji := by
  cases kind <;> simp only [readBody, Decoded.map_eq_value_iff, Decoded.seq_eq_value_iff] at h
  case reactionAdded | reactionRemoved =>
    obtain ⟨_, _, ⟨_, emoji, ⟨_, -, rfl⟩, found, rfl⟩, -, rfl⟩ := h
    obtain ⟨v, -, taken⟩ := required_eq_value_iff.1 found
    obtain ⟨chars, used, -, named⟩ := nonEmptyString_eq_value_iff.1 taken
    exact ⟨chars, used, named⟩
  case kicked => cases h; trivial
  case userJoined | chatEdited | messagePinned | linkPreviewed | typingSignalled | videoChanged
      | recordingChanged =>
    obtain ⟨_, _, ⟨_, _, ⟨_, -, rfl⟩, -, rfl⟩, -, rfl⟩ := h
    trivial
  case userRenamed | memberMoved | videoLayersOffered =>
    obtain ⟨_, _, ⟨_, -, rfl⟩, -, rfl⟩ := h
    trivial
  all_goals
    obtain ⟨_, -, rfl⟩ := h
    trivial

/-- An event that was read is written without naming a field twice, and reading what was
written ends with the same event. -/
theorem read_toFields_of_read {event : Event} (h : read fields = .value event) :
    (event.toFields.map Prod.fst).Nodup ∧ read event.toFields = .value event := by
  refine ⟨nodup_toFields event, read_toFields ?_⟩
  cases tag : readTag fields with
  | issues found => simp [read, tag] at h
  | value kind =>
    simp only [read, tag, Decoded.under_eq_value_iff, readKind, Decoded.map_eq_value_iff,
      Decoded.seq_eq_value_iff] at h
    obtain ⟨_, body, ⟨server, -, rfl⟩, found, rfl⟩ := h
    exact hasEmoji_of_readBody found

/-- A message whose numbers and booleans are spelled as texts, whose quoted text has its other
name, and whose author's name ends in half of a surrogate pair. -/
theorem lax_message_read_back :
    let half : Unpaired := ⟨[.ofChar 'A', 0xd83d], rfl⟩
    let fields : Fields := [("type", .str "chat:message"), ("msg_id", .str " +0_7.0"),
      ("username", .unpaired half), ("mentions", .arr [.bool true, .str "12"]),
      ("reply_to", .null), ("system", .str "Off"),
      ("reply_preview", .obj [("msg_id", .int 3), ("message", .str "hi")]), ("extra", .null)]
    let post : Post :=
      { msgId := 7, username := .unpaired half, mentions := [1, 12],
        replyPreview := some { msgId := 3, text := "hi" } }
    let event : Event := { body := .chatPosted post }
    read fields = .value event ∧
      (event.toFields.map Prod.fst).Nodup ∧ read event.toFields = .value event := by
  intro half fields post event
  have accepted : read fields = .value event := rfl
  exact ⟨accepted, read_toFields_of_read accepted⟩

end Event

end VoiceChat
