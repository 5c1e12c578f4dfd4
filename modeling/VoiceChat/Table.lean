/-!
# Insertion-ordered tables

A finite map from keys to values that remembers the order in which its keys
arrived. Writing to a key already present keeps its place; erasing a key and
writing it again moves it to the end. `get?_insert`, `get?_erase` and their
companions say what a lookup sees after each operation, `keys_insert` and
`keys_erase` what happens to the order.
-/

namespace VoiceChat

/-- A finite map with its keys in order of arrival. -/
@[ext]
structure Table (κ α : Type) where
  /-- The pairs of key and value, oldest key first. -/
  entries : List (κ × α)
  nodup : (entries.map Prod.fst).Nodup
deriving DecidableEq

namespace Table

variable {κ α β : Type}

/-- The table without entries. -/
def empty : Table κ α := ⟨[], List.nodup_nil⟩

instance : Inhabited (Table κ α) := ⟨empty⟩

def keys (t : Table κ α) : List κ := t.entries.map Prod.fst

def values (t : Table κ α) : List α := t.entries.map Prod.snd

def size (t : Table κ α) : Nat := t.entries.length

/-- Every value mapped by `f`, which also sees its key. -/
def mapValues (f : κ → α → β) (t : Table κ α) : Table κ β where
  entries := t.entries.map fun e => (e.1, f e.1 e.2)
  nodup := by
    have := t.nodup
    rwa [List.map_map, show (Prod.fst ∘ fun e : κ × α => (e.1, f e.1 e.2)) = Prod.fst from rfl]

/-- The entries that satisfy `p`, in their order. -/
def filter (p : κ → α → Bool) (t : Table κ α) : Table κ α where
  entries := t.entries.filter fun e => p e.1 e.2
  nodup := t.nodup.sublist (List.filter_sublist.map _)

section Keyed

variable [DecidableEq κ]

/-- The value at `k`, if there is one. -/
def get? (t : Table κ α) (k : κ) : Option α :=
  (t.entries.find? fun e => e.1 = k).map Prod.snd

def contains (t : Table κ α) (k : κ) : Bool := (t.get? k).isSome

/-- Change the value at `k`, where there is one. -/
def modify (t : Table κ α) (k : κ) (f : α → α) : Table κ α :=
  t.mapValues fun j v => if j = k then f v else v

/-- Remove `k` and its value. -/
def erase (t : Table κ α) (k : κ) : Table κ α := t.filter fun j _ => j ≠ k

omit [DecidableEq κ] in
theorem nodup_append_of_notMem {l : List (κ × α)} {k : κ} {v : α}
    (h : (l.map Prod.fst).Nodup) (hk : k ∉ l.map Prod.fst) :
    ((l ++ [(k, v)]).map Prod.fst).Nodup := by
  rw [List.map_append, List.nodup_append]
  refine ⟨h, by simp, ?_⟩
  intro a ha b hb e
  simp only [List.map_cons, List.map_nil, List.mem_singleton] at hb
  exact hk (by rw [← hb, ← e]; exact ha)

/-- Write `v` at `k`: in the place of `k` if it has one, at the end otherwise. -/
def insert (t : Table κ α) (k : κ) (v : α) : Table κ α :=
  if h : k ∈ t.keys then t.modify k fun _ => v
  else ⟨t.entries ++ [(k, v)], nodup_append_of_notMem t.nodup h⟩

/-- Write `v` at `k` unless there is a value already. -/
def insertNew (t : Table κ α) (k : κ) (v : α) : Table κ α :=
  if k ∈ t.keys then t else t.insert k v

/-- The table filled by writing `entries` one after another. -/
def ofList (entries : List (κ × α)) : Table κ α :=
  entries.foldl (fun t e => t.insert e.1 e.2) empty

end Keyed

/-! ## What a lookup sees -/

@[simp] theorem keys_empty : (empty : Table κ α).keys = [] := rfl

theorem eq_empty_of_keys {t : Table κ α} (h : t.keys = []) : t = .empty :=
  Table.ext (List.map_eq_nil_iff.1 h)

@[simp] theorem keys_mapValues (f : κ → α → β) (t : Table κ α) :
    (t.mapValues f).keys = t.keys := by
  simp [keys, mapValues, Function.comp_def]

section Keyed

variable [DecidableEq κ]

@[simp] theorem get?_empty (k : κ) : (empty : Table κ α).get? k = none := rfl

@[simp] theorem contains_empty (k : κ) : (empty : Table κ α).contains k = false := rfl

@[simp] theorem keys_modify (t : Table κ α) (k : κ) (f : α → α) :
    (t.modify k f).keys = t.keys := by
  simp [modify]

theorem get?_eq_none_iff {t : Table κ α} {k : κ} : t.get? k = none ↔ k ∉ t.keys := by
  simp only [get?, Option.map_eq_none_iff, List.find?_eq_none, keys, List.mem_map, not_exists,
    not_and, decide_eq_true_eq]

theorem get?_isSome_iff {t : Table κ α} {k : κ} : (t.get? k).isSome ↔ k ∈ t.keys := by
  rw [Option.isSome_iff_ne_none, ne_eq, get?_eq_none_iff, Decidable.not_not]

theorem get?_eq_some_iff {t : Table κ α} {k : κ} {v : α} :
    t.get? k = some v ↔ (k, v) ∈ t.entries := by
  have nodup := t.nodup
  simp only [get?]
  generalize t.entries = es at nodup
  induction es with
  | nil => simp
  | cons e es ih =>
    obtain ⟨j, w⟩ := e
    simp only [List.map_cons, List.nodup_cons] at nodup
    by_cases h : j = k
    · subst h
      have absent : (j, v) ∉ es := fun mem => nodup.1 (List.mem_map_of_mem (f := Prod.fst) mem)
      simp [absent, eq_comm]
    · simp [h, Ne.symm h, ih nodup.2]

theorem get?_mapValues (f : κ → α → β) (t : Table κ α) (k : κ) :
    (t.mapValues f).get? k = (t.get? k).map (f k) := by
  simp only [get?, mapValues]
  induction t.entries with
  | nil => rfl
  | cons e es ih =>
    by_cases h : e.1 = k
    · subst h; simp
    · simpa [h] using ih

theorem get?_modify (t : Table κ α) (k : κ) (f : α → α) (j : κ) :
    (t.modify k f).get? j = if j = k then (t.get? j).map f else t.get? j := by
  rw [modify, get?_mapValues]
  by_cases h : j = k <;> simp [h]

theorem contains_modify (t : Table κ α) (k : κ) (f : α → α) (j : κ) :
    (t.modify k f).contains j = t.contains j := by
  rw [contains, get?_modify]
  split <;> simp [contains]

theorem modify_eq_self {f : α → α} (h : ∀ v, f v = v) (t : Table κ α) (k : κ) :
    t.modify k f = t := by
  apply Table.ext
  simp [modify, mapValues, h]

theorem insert_of_mem {t : Table κ α} {k : κ} (h : k ∈ t.keys) (v : α) :
    t.insert k v = t.modify k fun _ => v :=
  dif_pos h

theorem modify_congr {f g : α → α} {t : Table κ α} {k : κ}
    (h : ∀ v, t.get? k = some v → f v = g v) : t.modify k f = t.modify k g := by
  apply Table.ext
  simp only [modify, mapValues]
  refine List.map_congr_left fun e he => ?_
  by_cases same : e.1 = k
  · simp [same, h e.2 (get?_eq_some_iff.2 (same ▸ he))]
  · simp [same]

theorem modify_modify (t : Table κ α) (k : κ) (f g : α → α) :
    (t.modify k f).modify k g = t.modify k fun v => g (f v) := by
  apply Table.ext
  simp only [modify, mapValues, List.map_map]
  refine List.map_congr_left fun e _ => ?_
  by_cases same : e.1 = k <;> simp [same]

/-- Two changes can be made in either order, if they can be where they meet. -/
theorem modify_comm {t : Table κ α} {j k : κ} {f g : α → α}
    (h : j = k → ∀ v, t.get? j = some v → g (f v) = f (g v)) :
    (t.modify j f).modify k g = (t.modify k g).modify j f := by
  apply Table.ext
  simp only [modify, mapValues, List.map_map]
  refine List.map_congr_left fun e he => ?_
  by_cases first : e.1 = j
  · by_cases second : e.1 = k
    · have same := h (first.symm.trans second) e.2 (get?_eq_some_iff.2 (first ▸ he))
      simp only [Function.comp_apply, if_pos first, if_pos second, same]
    · simp only [Function.comp_apply, if_pos first, if_neg second]
  · simp only [Function.comp_apply, if_neg first]

theorem get?_insert (t : Table κ α) (k : κ) (v : α) (j : κ) :
    (t.insert k v).get? j = if j = k then some v else t.get? j := by
  unfold insert
  split
  · next h =>
    rw [get?_modify]
    by_cases hj : j = k
    · subst hj
      obtain ⟨w, hw⟩ := Option.isSome_iff_exists.1 (get?_isSome_iff.2 h)
      simp [hw]
    · simp [hj]
  · next h =>
    have hn : t.get? k = none := get?_eq_none_iff.2 h
    simp only [get?, List.find?_append] at hn ⊢
    by_cases hj : j = k
    · subst hj
      simp only [Option.map_eq_none_iff] at hn
      simp [hn]
    · have : decide (k = j) = false := by simp [Ne.symm hj]
      simp [hj, this]

@[simp] theorem get?_insert_self (t : Table κ α) (k : κ) (v : α) :
    (t.insert k v).get? k = some v := by simp [get?_insert]

theorem get?_insert_of_ne {t : Table κ α} {k j : κ} {v : α} (h : j ≠ k) :
    (t.insert k v).get? j = t.get? j := by simp [get?_insert, h]

theorem modify_insert_self (t : Table κ α) (k : κ) (v : α) (f : α → α) :
    (t.insert k v).modify k f = t.insert k (f v) := by
  by_cases known : k ∈ t.keys
  · rw [insert, insert, dif_pos known, dif_pos known, modify_modify]
  · rw [insert, insert, dif_neg known, dif_neg known]
    have others : ∀ e ∈ t.entries, e.1 ≠ k := fun e he same =>
      known (List.mem_map.2 ⟨e, he, same⟩)
    apply Table.ext
    simp only [modify, mapValues, List.map_append, List.map_cons, List.map_nil, if_true]
    congr 1
    exact (List.map_congr_left fun e he => by simp [others e he]).trans (List.map_id _)

/-- Writing what is there changes nothing. -/
theorem insert_of_get? {t : Table κ α} {k : κ} {v : α} (h : t.get? k = some v) :
    t.insert k v = t := by
  have known : k ∈ t.keys := get?_isSome_iff.1 (by rw [h]; rfl)
  rw [insert, dif_pos known, modify_congr (g := id) fun w found => ?_]
  · exact modify_eq_self (fun _ => rfl) t k
  · exact Option.some.inj (h.symm.trans found)

theorem insert_insert_self (t : Table κ α) (k : κ) (v : α) :
    (t.insert k v).insert k v = t.insert k v :=
  insert_of_get? (get?_insert_self t k v)

theorem get?_insertNew (t : Table κ α) (k : κ) (v : α) (j : κ) :
    (t.insertNew k v).get? j = if j = k then some ((t.get? k).getD v) else t.get? j := by
  unfold insertNew
  split
  · next h =>
    obtain ⟨w, hw⟩ := Option.isSome_iff_exists.1 (get?_isSome_iff.2 h)
    by_cases hj : j = k
    · subst hj; simp [hw]
    · simp [hj]
  · next h =>
    rw [get?_insert, get?_eq_none_iff.2 h]
    rfl

theorem insertNew_of_mem {t : Table κ α} {k : κ} {v : α} (h : k ∈ t.keys) : t.insertNew k v = t :=
  if_pos h

theorem get?_filter (p : κ → α → Bool) (t : Table κ α) (k : κ) :
    (t.filter p).get? k = (t.get? k).filter (p k) := by
  refine Option.ext fun v => ?_
  rw [get?_eq_some_iff, Option.filter_eq_some_iff, get?_eq_some_iff]
  exact List.mem_filter

theorem get?_filter_key (p : κ → Bool) (t : Table κ α) (k : κ) :
    (t.filter fun j _ => p j).get? k = if p k then t.get? k else none := by
  rw [get?_filter]
  cases t.get? k with
  | none => simp
  | some v => rfl

theorem get?_erase (t : Table κ α) (k j : κ) :
    (t.erase k).get? j = if j = k then none else t.get? j := by
  rw [erase, get?_filter_key]
  by_cases h : j = k <;> simp [h]

/-! ## Order of the keys -/

theorem keys_insert (t : Table κ α) (k : κ) (v : α) :
    (t.insert k v).keys = if k ∈ t.keys then t.keys else t.keys ++ [k] := by
  unfold insert
  split
  · simp
  · simp [keys]

theorem keys_insertNew (t : Table κ α) (k : κ) (v : α) :
    (t.insertNew k v).keys = if k ∈ t.keys then t.keys else t.keys ++ [k] := by
  unfold insertNew
  split
  · rfl
  · next h => simp [keys_insert, h]

theorem keys_erase (t : Table κ α) (k : κ) : (t.erase k).keys = t.keys.filter (· ≠ k) := by
  simp [keys, erase, filter, List.filter_map, Function.comp_def]

theorem erase_of_notMem {t : Table κ α} {k : κ} (h : k ∉ t.keys) : t.erase k = t := by
  apply Table.ext
  simp only [erase, filter, List.filter_eq_self]
  intro e he
  have : e.1 ≠ k := fun hk => h (hk ▸ List.mem_map_of_mem he)
  simpa using this

theorem erase_erase_self (t : Table κ α) (k : κ) : (t.erase k).erase k = t.erase k :=
  erase_of_notMem (by simp [keys_erase])

theorem erase_modify_self (t : Table κ α) (k : κ) (f : α → α) :
    (t.modify k f).erase k = t.erase k := by
  apply Table.ext
  simp only [erase, filter, modify, mapValues, List.filter_map]
  refine (List.map_congr_left fun e he => ?_).trans (List.map_id _)
  have other : e.1 ≠ k := by simpa using (List.mem_filter.1 he).2
  simp [other]

theorem erase_insert_self (t : Table κ α) (k : κ) (v : α) : (t.insert k v).erase k = t.erase k := by
  unfold insert
  split
  · exact erase_modify_self t k _
  · apply Table.ext
    simp [erase, filter]

/-! ## The values -/

theorem mem_values {t : Table κ α} {v : α} : v ∈ t.values ↔ ∃ k, t.get? k = some v := by
  simp only [values, List.mem_map, Prod.exists, exists_eq_right, get?_eq_some_iff]

/-- The values are the one at `k` and the others. -/
theorem values_perm_erase {t : Table κ α} {k : κ} {v : α} (h : t.get? k = some v) :
    t.values.Perm (v :: (t.erase k).values) := by
  obtain ⟨before, after, entries⟩ := List.append_of_mem (get?_eq_some_iff.1 h)
  have nodup := t.nodup
  rw [entries, List.map_append, List.map_cons, List.perm_middle.nodup_iff, List.nodup_cons] at nodup
  have others : (before ++ after).filter (fun e => e.1 ≠ k) = before ++ after := by
    refine List.filter_eq_self.2 fun e he => decide_eq_true fun same => nodup.1 ?_
    rw [← List.map_append]
    exact List.mem_map.2 ⟨e, he, same⟩
  have erased : (t.erase k).entries = before ++ after := by
    rw [← others, show (t.erase k).entries = t.entries.filter fun e => e.1 ≠ k from rfl, entries]
    simp
  rw [values, values, entries, erased, List.map_append, List.map_append]
  exact List.perm_middle

/-! ## Mapping the values -/

omit [DecidableEq κ] in
theorem mapValues_mapValues {γ : Type} (f : κ → α → β) (g : κ → β → γ) (t : Table κ α) :
    (t.mapValues f).mapValues g = t.mapValues fun k v => g k (f k v) := by
  apply Table.ext
  simp [mapValues, Function.comp_def]

theorem mapValues_congr {f g : κ → α → β} {t : Table κ α}
    (h : ∀ k v, t.get? k = some v → f k v = g k v) : t.mapValues f = t.mapValues g := by
  apply Table.ext
  refine List.map_congr_left fun e he => ?_
  rw [h e.1 e.2 (get?_eq_some_iff.2 he)]

theorem mapValues_modify {f : α → β} {g : α → α} {g' : β → β} (h : ∀ v, f (g v) = g' (f v))
    (t : Table κ α) (k : κ) :
    (t.modify k g).mapValues (fun _ v => f v) = (t.mapValues fun _ v => f v).modify k g' := by
  apply Table.ext
  simp only [modify, mapValues, List.map_map]
  refine List.map_congr_left fun e _ => ?_
  by_cases hk : e.1 = k <;> simp [hk, h]

theorem mapValues_insert (f : α → β) (t : Table κ α) (k : κ) (v : α) :
    (t.insert k v).mapValues (fun _ v => f v) = (t.mapValues fun _ v => f v).insert k (f v) := by
  by_cases hk : k ∈ t.keys
  · have hk' : k ∈ (t.mapValues fun _ v => f v).keys := by rwa [keys_mapValues]
    rw [insert, insert, dif_pos hk, dif_pos hk']
    exact mapValues_modify (f := f) (g := fun _ => v) (fun _ => rfl) t k
  · have hk' : k ∉ (t.mapValues fun _ v => f v).keys := by rwa [keys_mapValues]
    rw [insert, insert, dif_neg hk, dif_neg hk']
    apply Table.ext
    simp [mapValues]

theorem mapValues_erase (f : α → β) (t : Table κ α) (k : κ) :
    (t.erase k).mapValues (fun _ v => f v) = (t.mapValues fun _ v => f v).erase k := by
  apply Table.ext
  simp only [erase, filter, mapValues, List.filter_map]
  rfl

end Keyed

end Table

end VoiceChat
