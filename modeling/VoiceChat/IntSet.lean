/-!
# Sets of integers

A finite set of integers kept as its strictly ascending list of elements, so
that two sets with the same elements are equal (`ext_mem`) and the list is
the order in which the set is written.
-/

namespace VoiceChat

/-- A finite set of integers, as its strictly ascending list of elements. -/
@[ext]
structure IntSet where
  elems : List Int
  ascending : elems.Pairwise (· < ·)
deriving DecidableEq

namespace IntSet

def empty : IntSet := ⟨[], .nil⟩

instance : Inhabited IntSet := ⟨empty⟩

instance : Membership Int IntSet := ⟨fun s x => x ∈ s.elems⟩

instance (x : Int) (s : IntSet) : Decidable (x ∈ s) := inferInstanceAs (Decidable (x ∈ s.elems))

def isEmpty (s : IntSet) : Bool := s.elems.isEmpty

def size (s : IntSet) : Nat := s.elems.length

/-- Put `x` in its place in an ascending list, once. -/
def place (x : Int) : List Int → List Int
  | [] => [x]
  | y :: ys => if x < y then x :: y :: ys else if x = y then y :: ys else y :: place x ys

theorem mem_place {x z : Int} {l : List Int} : z ∈ place x l ↔ z = x ∨ z ∈ l := by
  induction l with
  | nil => simp [place]
  | cons y ys ih =>
    unfold place
    split
    · simp
    · split
      · next h => subst h; simp
      · simp only [List.mem_cons, ih]
        constructor
        · rintro (h | h | h) <;> simp [h]
        · rintro (h | h | h) <;> simp [h]

theorem ascending_place {x : Int} {l : List Int} (h : l.Pairwise (· < ·)) :
    (place x l).Pairwise (· < ·) := by
  induction l with
  | nil => simp [place]
  | cons y ys ih =>
    rw [List.pairwise_cons] at h
    unfold place
    split
    · next hxy =>
      refine List.pairwise_cons.2 ⟨?_, List.pairwise_cons.2 h⟩
      intro z hz
      rcases List.mem_cons.1 hz with rfl | hz
      · exact hxy
      · exact Int.lt_trans hxy (h.1 z hz)
    · split
      · exact List.pairwise_cons.2 h
      · refine List.pairwise_cons.2 ⟨?_, ih h.2⟩
        intro z hz
        rcases mem_place.1 hz with rfl | hz
        · omega
        · exact h.1 z hz

def insert (s : IntSet) (x : Int) : IntSet := ⟨place x s.elems, ascending_place s.ascending⟩

def erase (s : IntSet) (x : Int) : IntSet :=
  ⟨s.elems.filter (· ≠ x), s.ascending.sublist List.filter_sublist⟩

def ofList (xs : List Int) : IntSet := xs.foldl insert empty

@[simp] theorem mem_empty (z : Int) : z ∉ empty := List.not_mem_nil

@[simp] theorem mem_insert {s : IntSet} {x z : Int} : z ∈ s.insert x ↔ z = x ∨ z ∈ s :=
  mem_place

@[simp] theorem mem_erase {s : IntSet} {x z : Int} : z ∈ s.erase x ↔ z ∈ s ∧ z ≠ x := by
  change z ∈ s.elems.filter _ ↔ z ∈ s.elems ∧ _
  simp

theorem notMem_of_size_eq_zero {s : IntSet} {z : Int} (h : s.size = 0) : z ∉ s := by
  intro hz
  have : s.elems = [] := List.length_eq_zero_iff.1 h
  exact List.not_mem_nil (this ▸ hz : z ∈ ([] : List Int))

theorem size_erase_lt {s : IntSet} {x : Int} (h : x ∈ s) : (s.erase x).size < s.size := by
  refine List.length_filter_lt_length_iff_exists.2 ⟨x, h, ?_⟩
  simp

theorem mem_foldl_insert {xs : List Int} {s : IntSet} {z : Int} :
    z ∈ xs.foldl insert s ↔ z ∈ s ∨ z ∈ xs := by
  induction xs generalizing s with
  | nil => simp
  | cons x xs ih =>
    rw [List.foldl_cons, ih, mem_insert, List.mem_cons]
    constructor
    · rintro ((h | h) | h) <;> simp [h]
    · rintro (h | h | h) <;> simp [h]

@[simp] theorem mem_ofList {xs : List Int} {z : Int} : z ∈ ofList xs ↔ z ∈ xs := by
  simp [ofList, mem_foldl_insert]

theorem isEmpty_iff {s : IntSet} : s.isEmpty = true ↔ ∀ z, z ∉ s := by
  constructor
  · intro h z hz
    have : s.elems = [] := List.isEmpty_iff.1 h
    exact List.not_mem_nil (this ▸ hz : z ∈ ([] : List Int))
  · intro h
    exact List.isEmpty_iff.2 (List.eq_nil_iff_forall_not_mem.2 h)

theorem eq_of_ascending {l m : List Int} (hl : l.Pairwise (· < ·)) (hm : m.Pairwise (· < ·))
    (h : ∀ z, z ∈ l ↔ z ∈ m) : l = m := by
  induction l generalizing m with
  | nil =>
    cases m with
    | nil => rfl
    | cons y ys => exact absurd ((h y).2 (List.mem_cons_self)) List.not_mem_nil
  | cons x xs ih =>
    cases m with
    | nil => exact absurd ((h x).1 (List.mem_cons_self)) List.not_mem_nil
    | cons y ys =>
      rw [List.pairwise_cons] at hl hm
      have hxy : x = y := by
        rcases List.mem_cons.1 ((h x).1 List.mem_cons_self) with e | hx
        · exact e
        · rcases List.mem_cons.1 ((h y).2 List.mem_cons_self) with e | hy
          · exact e.symm
          · have := hl.1 y hy
            have := hm.1 x hx
            omega
      subst hxy
      congr 1
      refine ih hl.2 hm.2 fun z => ?_
      have hz := h z
      simp only [List.mem_cons] at hz
      constructor
      · intro hzx
        have := hl.1 z hzx
        rcases hz.1 (Or.inr hzx) with e | e
        · omega
        · exact e
      · intro hzy
        have := hm.1 z hzy
        rcases hz.2 (Or.inr hzy) with e | e
        · omega
        · exact e

theorem ext_mem {s t : IntSet} (h : ∀ z, z ∈ s ↔ z ∈ t) : s = t :=
  IntSet.ext (eq_of_ascending s.ascending t.ascending h)

theorem insert_of_mem {s : IntSet} {x : Int} (h : x ∈ s) : s.insert x = s := by
  refine ext_mem fun z => ?_
  rw [mem_insert, or_iff_right_of_imp]
  rintro rfl
  exact h

theorem erase_of_notMem {s : IntSet} {x : Int} (h : x ∉ s) : s.erase x = s := by
  refine ext_mem fun z => ?_
  rw [mem_erase, and_iff_left_of_imp]
  rintro mem rfl
  exact h mem

end IntSet

end VoiceChat
