import VoiceChat.TurnQueue

/-!
# One place for every ticket

A ticket that has been handed out and not been passed is outstanding (its
holder has not come yet), in line, or abandoned, and it is only one of these.
`Orderly` states this of a queue, and every operation keeps it. With it, those
who get a turn get it in ascending order of tickets, and nobody who has come is
forgotten: `enter_admits`, `abandon_admits` and `leave_admits`.
-/

namespace VoiceChat

/-! ## Lists without repetition -/

theorem perm_cons_filter_ne {l : List Int} {t : Int} (h : l.Nodup) (ht : t ∈ l) :
    l.Perm (t :: l.filter (· ≠ t)) := by
  have erased := List.perm_cons_erase ht
  rw [h.erase_eq_filter] at erased
  have same : l.filter (· != t) = l.filter (· ≠ t) :=
    List.filter_congr fun a _ => by by_cases e : a = t <;> simp [e]
  exact same ▸ erased

theorem IntSet.nodup_elems (s : IntSet) : s.elems.Nodup := s.ascending.imp fun h => by omega

theorem IntSet.elems_insert_perm {s : IntSet} {x : Int} (h : x ∉ s) :
    (s.insert x).elems.Perm (x :: s.elems) := by
  have fresh : (x :: s.elems).Nodup := List.nodup_cons.2 ⟨h, s.nodup_elems⟩
  refine (List.perm_ext_iff_of_nodup (s.insert x).nodup_elems fresh).2 fun t => ?_
  exact mem_place.trans List.mem_cons.symm

/-- The list holds every integer from `low` on and below `high`, each once. -/
structure Covers (tickets : List Int) (low high : Int) : Prop where
  le : low ≤ high
  nodup : tickets.Nodup
  mem_iff : ∀ t, t ∈ tickets ↔ low ≤ t ∧ t < high

theorem covers_nil (low : Int) : Covers [] low low :=
  ⟨Int.le_refl _, .nil, fun t => ⟨nofun, fun h => by omega⟩⟩

namespace Covers

variable {l m : List Int} {low high : Int}

theorem perm (h : Covers l low high) (hp : l.Perm m) : Covers m low high :=
  ⟨h.le, hp.nodup_iff.1 h.nodup, fun t => hp.mem_iff.symm.trans (h.mem_iff t)⟩

/-- The lowest ticket is taken out. -/
theorem tail (h : Covers (low :: l) low high) : Covers l (low + 1) high := by
  obtain ⟨fresh, nodup⟩ := List.nodup_cons.1 h.nodup
  have lowest := (h.mem_iff low).1 List.mem_cons_self
  refine ⟨by omega, nodup, fun t => ?_⟩
  have bound := h.mem_iff t
  rw [List.mem_cons] at bound
  constructor
  · intro ht
    have := bound.1 (Or.inr ht)
    have : t ≠ low := fun e => fresh (e ▸ ht)
    omega
  · intro ht
    have := bound.2 (by omega)
    exact this.resolve_left (by omega)

/-- The next ticket is added. -/
theorem cons_high (h : Covers l low high) : Covers (high :: l) low (high + 1) := by
  have le := h.le
  have fresh : high ∉ l := fun hm => Int.lt_irrefl _ ((h.mem_iff high).1 hm).2
  refine ⟨by omega, List.nodup_cons.2 ⟨fresh, h.nodup⟩, fun t => ?_⟩
  rw [List.mem_cons, h.mem_iff]
  omega

theorem notMem_left (h : Covers (l ++ m) low high) {t : Int} (ht : t ∈ m) : t ∉ l :=
  fun hl => (List.nodup_append.1 h.nodup).2.2 t hl t ht rfl

end Covers

namespace TurnQueue

variable {α : Type}

/-- The tickets of those in line. -/
def lined (q : TurnQueue α) : List Int := q.waiting.map Holder.ticket

/-! ## Serving the next ticket -/

/-- Passing over abandoned tickets leaves no ticket without its place. -/
theorem passOver_covers (count : Nat) {serving high : Int} {abandoned : IntSet} {l : List Int}
    (h : Covers (l ++ abandoned.elems) serving high) :
    Covers (l ++ (passOver count serving abandoned).2.elems)
      (passOver count serving abandoned).1 high ∧
    serving ≤ (passOver count serving abandoned).1 := by
  induction count generalizing serving abandoned with
  | zero => exact ⟨h, Int.le_refl _⟩
  | succ count ih =>
    unfold passOver
    split
    · next hs =>
      have first := perm_cons_filter_ne abandoned.nodup_elems hs
      have passed := (h.perm ((first.append_left l).trans List.perm_middle)).tail
      obtain ⟨covered, le⟩ := @ih _ (abandoned.erase serving) passed
      exact ⟨covered, by omega⟩
    · exact ⟨h, Int.le_refl _⟩

theorem advance_covers {q : TurnQueue α} {l : List Int}
    (h : Covers (q.serving :: (l ++ q.abandoned.elems)) q.serving q.next) :
    Covers (l ++ q.advance.abandoned.elems) q.advance.serving q.advance.next ∧
    q.serving < q.advance.serving := by
  obtain ⟨covered, le⟩ := passOver_covers q.abandoned.size h.tail
  exact ⟨covered, Int.lt_of_lt_of_le (by omega) le⟩

/-! ## The places of the tickets -/

/-- Every ticket handed out and not passed is outstanding (`out`), in line or
abandoned, and those in line carry the ticket of their value. -/
structure Orderly (tag : α → Int) (out : List Int) (q : TurnQueue α) : Prop where
  covers : Covers (out ++ q.lined ++ q.abandoned.elems) q.serving q.next
  tagged : ∀ holder ∈ q.waiting, tag holder.value = holder.ticket

/-- Nobody in line, and no abandoned ticket, is being served. -/
structure Rested (q : TurnQueue α) : Prop where
  settled : q.IsSettled
  current : q.serving ∉ q.abandoned

/-- What a queue becomes when those in line and `comers` are admitted in their turn. -/
structure Admits (tag : α → Int) (comers : List Int) (q : TurnQueue α)
    (result : TurnQueue α × List α) : Prop where
  next_eq : result.1.next = q.next
  le : q.serving ≤ result.1.serving
  ascending : (result.2.map tag).Pairwise (· < ·)
  within : ∀ t ∈ result.2.map tag, q.serving ≤ t ∧ t < result.1.serving
  split : (result.2.map tag ++ result.1.lined).Perm (comers ++ q.lined)

variable {tag : α → Int} {out comers : List Int} {q : TurnQueue α} {t : Int} {v : α}

theorem Orderly.perm_out {out' : List Int} (h : q.Orderly tag out) (hp : out.Perm out') :
    q.Orderly tag out' :=
  ⟨h.covers.perm ((hp.append_right _).append_right _), h.tagged⟩

/-! ## Admission -/

/-- Nobody is admitted. -/
theorem Admits.none {q' : TurnQueue α} (hn : q'.next = q.next) (hs : q'.serving = q.serving)
    (hl : q'.lined.Perm (comers ++ q.lined)) : Admits tag comers q (q', []) :=
  ⟨hn, Int.le_of_eq hs.symm, .nil, by simp, by simpa using hl⟩

/-- The holder of the ticket being served is admitted before the others. -/
theorem Admits.cons {q' : TurnQueue α} {result : TurnQueue α × List α}
    (h : Admits tag [] q' result) (hv : tag v = q.serving) (hn : q'.next = q.next)
    (hs : q.serving < q'.serving) (hl : (q.serving :: q'.lined).Perm (comers ++ q.lined)) :
    Admits tag comers q (result.1, v :: result.2) := by
  have later : q.serving < result.1.serving := Int.lt_of_lt_of_le hs h.le
  refine ⟨h.next_eq.trans hn, Int.le_of_lt later, ?_, ?_, ?_⟩
  · refine List.pairwise_cons.2 ⟨fun t ht => ?_, h.ascending⟩
    have := (h.within t ht).1
    omega
  · intro t ht
    rcases List.mem_cons.1 ht with rfl | ht
    · exact ⟨Int.le_of_eq hv.symm, hv ▸ later⟩
    · have := h.within t ht
      exact ⟨by omega, this.2⟩
  · rw [List.map_cons, List.cons_append, hv]
    exact (h.split.cons _).trans hl

/-- When the holder of the ticket being served has had its turn, the next ticket is served. -/
theorem orderly_turn? (h : q.Orderly tag out) {holder : Holder α} {left : TurnQueue α}
    (found : q.turn? = some (holder, left)) :
    left.advance.Orderly tag out ∧ tag holder.value = q.serving ∧
      q.serving < left.advance.serving ∧ (q.serving :: left.advance.lined).Perm q.lined := by
  obtain ⟨served, rest, same⟩ := turn?_eq_some found
  have line := rest.map Holder.ticket
  rw [List.map_cons, served] at line
  -- the ticket being served leaves the line, and the line is in a new order
  have places := ((line.append_left out).trans List.perm_middle).append_right q.abandoned.elems
  have covers := h.covers.perm places
  rw [← same] at line covers ⊢
  obtain ⟨covered, lt⟩ := advance_covers covers
  refine ⟨⟨covered, fun other ho => ?_⟩, ?_, lt, line.symm⟩
  · exact h.tagged other (rest.mem_iff.2 (List.mem_cons_of_mem _ ho))
  · exact (h.tagged holder (rest.mem_iff.2 List.mem_cons_self)).trans served

theorem settleWithin_admits (turns : Nat) (h : q.Orderly tag out) :
    (q.settleWithin turns).1.Orderly tag out ∧ Admits tag [] q (q.settleWithin turns) := by
  induction turns generalizing q with
  | zero => exact ⟨h, .none rfl rfl (by simp)⟩
  | succ turns ih =>
    unfold settleWithin
    split
    · exact ⟨h, .none rfl rfl (by simp)⟩
    · next holder left found =>
      obtain ⟨orderly, tagged, lt, line⟩ := orderly_turn? h found
      obtain ⟨-, -, same⟩ := turn?_eq_some found
      obtain ⟨orderly', admits⟩ := ih orderly
      exact ⟨orderly', admits.cons tagged (congrArg next same).symm lt line⟩

theorem settle_admits (h : q.Orderly tag out) :
    q.settle.1.Orderly tag out ∧ Admits tag [] q q.settle :=
  settleWithin_admits _ h

/-- Where nobody in line has come to its turn, nobody is admitted. -/
theorem settleWithin_of_isSettled (h : q.IsSettled) (turns : Nat) :
    q.settleWithin turns = (q, []) := by
  cases turns with
  | zero => rfl
  | succ turns => simp only [settleWithin, turn?_eq_none_iff.2 h]

theorem settle_of_waiting (h : q.waiting = []) : q.settle = (q, []) :=
  settleWithin_of_isSettled (fun _ hh => absurd hh (h ▸ List.not_mem_nil)) _

/-- Where nobody waits, who comes at its turn is admitted alone. -/
theorem enter_of_waiting (h : q.waiting = []) (turn : t = q.serving) :
    q.enter t v = (q.advance, [v]) := by
  have settled : q.advance.settle = (q.advance, []) := settle_of_waiting h
  rw [enter, if_pos turn, settled]

theorem waiting_forsake (t : Int) (q : TurnQueue α) : (q.forsake t).waiting = q.waiting := by
  unfold forsake
  split <;> rfl

theorem abandon_of_waiting (h : q.waiting = []) (t : Int) : q.abandon t = (q.forsake t, []) := by
  unfold abandon
  split
  · exact settle_of_waiting ((waiting_forsake t q).trans h)
  · rfl

theorem current_settleWithin (turns : Nat) (h : q.serving ∉ q.abandoned) :
    (q.settleWithin turns).1.serving ∉ (q.settleWithin turns).1.abandoned := by
  induction turns generalizing q with
  | zero => exact h
  | succ turns ih =>
    unfold settleWithin
    split
    · exact h
    · exact ih (serving_advance_notMem _)

theorem rested_settle_advance (q : TurnQueue α) : q.advance.settle.1.Rested :=
  ⟨isSettled_settle _, current_settleWithin _ (serving_advance_notMem q)⟩

/-! ## The operations -/

theorem orderly_issue (h : q.Orderly tag out) : q.issue.1.Orderly tag (q.next :: out) :=
  ⟨h.covers.cons_high, h.tagged⟩

/-- When the ticket being served is given back by its holder, the next one is served. -/
theorem orderly_advance (h : q.Orderly tag (q.serving :: out)) :
    q.advance.Orderly tag out ∧ q.serving < q.advance.serving := by
  have covers := h.covers
  rw [List.cons_append, List.cons_append] at covers
  obtain ⟨covered, lt⟩ := advance_covers covers
  exact ⟨⟨covered, h.tagged⟩, lt⟩

theorem enter_admits (h : q.Orderly tag (t :: out)) (hv : tag v = t) :
    (q.enter t v).1.Orderly tag out ∧ Admits tag [t] q (q.enter t v) := by
  unfold enter
  split
  · next served =>
    subst served
    obtain ⟨orderly, lt⟩ := orderly_advance h
    obtain ⟨orderly', admits⟩ := settle_admits orderly
    exact ⟨orderly', admits.cons hv rfl lt (List.Perm.refl _)⟩
  · have line : ({ q with waiting := q.waiting ++ [⟨t, v⟩] } : TurnQueue α).lined.Perm
        ([t] ++ q.lined) := by
      simp only [lined, List.map_append, List.map_cons, List.map_nil]
      exact List.perm_append_comm
    refine ⟨⟨?_, ?_⟩, .none rfl rfl line⟩
    · exact h.covers.perm ((((line.append_left out).trans List.perm_middle).symm).append_right _)
    · intro holder hh
      rcases List.mem_append.1 hh with inLine | new
      · exact h.tagged holder inLine
      · rw [List.mem_singleton] at new
        exact new ▸ hv

theorem rested_enter (hr : q.Rested) (t : Int) (v : α) : (q.enter t v).1.Rested := by
  unfold enter
  split
  · exact rested_settle_advance q
  · next ne =>
    refine ⟨fun holder hh => ?_, hr.current⟩
    rcases List.mem_append.1 hh with inLine | new
    · exact hr.settled holder inLine
    · rw [List.mem_singleton] at new
      subst new
      exact ne

theorem abandon_admits (h : q.Orderly tag (t :: out)) :
    (q.abandon t).1.Orderly tag out ∧ Admits tag [] q (q.abandon t) := by
  unfold abandon
  split
  · next served =>
    subst served
    rw [forsake_serving]
    obtain ⟨orderly, lt⟩ := orderly_advance h
    obtain ⟨orderly', admits⟩ := settle_admits orderly
    refine ⟨orderly', { admits with le := Int.le_trans (Int.le_of_lt lt) admits.le, within := ?_ }⟩
    intro t ht
    have := admits.within t ht
    exact ⟨by omega, this.2⟩
  · next ne =>
    rw [forsake_of_ne ne]
    have covers := h.covers
    have fresh : t ∉ q.abandoned := fun ha => covers.notMem_left ha (by simp)
    refine ⟨⟨?_, h.tagged⟩, .none rfl rfl (List.Perm.refl _)⟩
    rw [List.cons_append, List.cons_append] at covers
    exact covers.perm (List.perm_middle.symm.trans
      ((IntSet.elems_insert_perm fresh).symm.append_left _))

theorem rested_abandon (hr : q.Rested) (t : Int) : (q.abandon t).1.Rested := by
  unfold abandon
  split
  · next served =>
    rw [served, forsake_serving]
    exact rested_settle_advance q
  · next ne =>
    rw [forsake_of_ne ne]
    refine ⟨hr.settled, ?_⟩
    rw [IntSet.mem_insert, not_or]
    exact ⟨Ne.symm ne, hr.current⟩

theorem perm_cons_eraseP {l : List (Holder α)} (h : t ∈ l.map Holder.ticket) :
    (l.map Holder.ticket).Perm (t :: (l.eraseP (·.ticket = t)).map Holder.ticket) := by
  obtain ⟨holder, mem, held⟩ := List.mem_map.1 h
  obtain ⟨first, front, back, -, hp, split, erased⟩ :=
    List.exists_of_eraseP (p := (·.ticket = t)) mem (by simpa using held)
  have hp : first.ticket = t := by simpa using hp
  rw [erased, split, List.map_append, List.map_cons, hp, List.map_append]
  exact List.perm_middle

/-- Leaving the line is abandoning the ticket of the place that was left. -/
theorem leave_eq_abandon (ht : t ∈ q.lined) :
    q.leave (·.ticket = t) =
      { q with waiting := q.waiting.eraseP (·.ticket = t) : TurnQueue α }.abandon t := by
  obtain ⟨holder, mem, held⟩ := List.mem_map.1 ht
  have found : (q.waiting.find? (·.ticket = t)).isSome := by
    rw [List.find?_isSome]
    exact ⟨holder, mem, by simpa using held⟩
  obtain ⟨first, hf⟩ := Option.isSome_iff_exists.1 found
  have : first.ticket = t := by simpa using List.find?_some hf
  rw [leave, hf, ← this]

theorem leave_admits (h : q.Orderly tag out) (ht : t ∈ q.lined) :
    (q.leave (·.ticket = t)).1.Orderly tag out ∧
    Admits tag [] { q with waiting := q.waiting.eraseP (·.ticket = t) }
      (q.leave (·.ticket = t)) := by
  rw [leave_eq_abandon ht]
  refine abandon_admits ⟨?_, fun holder hh => h.tagged holder (List.mem_of_mem_eraseP hh)⟩
  have places := ((perm_cons_eraseP ht).append_left out).trans List.perm_middle
  exact h.covers.perm (places.append_right _)

theorem rested_leave (hr : q.Rested) (ht : t ∈ q.lined) :
    (q.leave (·.ticket = t)).1.Rested := by
  rw [leave_eq_abandon ht]
  have rested : { q with waiting := q.waiting.eraseP (·.ticket = t) : TurnQueue α }.Rested :=
    ⟨fun holder hh => hr.settled holder (List.mem_of_mem_eraseP hh), hr.current⟩
  exact rested_abandon rested t

/-! ## Nobody gets a turn who has not come -/

/-- Everybody admitted or in line satisfies `P`. -/
structure Only (P : α → Prop) (result : TurnQueue α × List α) : Prop where
  admitted : ∀ v ∈ result.2, P v
  inLine : ∀ holder ∈ result.1.waiting, P holder.value

variable {P : α → Prop}

theorem only_settleWithin (turns : Nat) (h : ∀ holder ∈ q.waiting, P holder.value) :
    Only P (q.settleWithin turns) := by
  induction turns generalizing q with
  | zero => exact ⟨by simp [settleWithin], h⟩
  | succ turns ih =>
    unfold settleWithin
    split
    · exact ⟨by simp, h⟩
    · next holder left found =>
      obtain ⟨-, rest, -⟩ := turn?_eq_some found
      have only := @ih left.advance fun other ho =>
        h other (rest.mem_iff.2 (List.mem_cons_of_mem _ ho))
      refine ⟨fun v hv => ?_, only.inLine⟩
      rcases List.mem_cons.1 hv with rfl | hv
      · exact h holder (rest.mem_iff.2 List.mem_cons_self)
      · exact only.admitted v hv

theorem only_enter (t : Int) (hv : P v)
    (h : ∀ holder ∈ q.waiting, P holder.value) : Only P (q.enter t v) := by
  unfold enter
  split
  · have only : Only P q.advance.settle := only_settleWithin _ h
    refine ⟨fun w hw => ?_, only.inLine⟩
    rcases List.mem_cons.1 hw with rfl | hw
    · exact hv
    · exact only.admitted w hw
  · refine ⟨by simp, fun holder hh => ?_⟩
    rcases List.mem_append.1 hh with inLine | new
    · exact h holder inLine
    · rw [List.mem_singleton] at new
      exact new ▸ hv

theorem only_abandon (t : Int) (h : ∀ holder ∈ q.waiting, P holder.value) :
    Only P (q.abandon t) := by
  unfold abandon
  split
  · next served =>
    rw [served, forsake_serving]
    exact only_settleWithin _ h
  · next ne =>
    rw [forsake_of_ne ne]
    exact ⟨by simp, h⟩

theorem only_leave (p : Holder α → Bool) (h : ∀ holder ∈ q.waiting, P holder.value) :
    Only P (q.leave p) := by
  unfold leave
  split
  · exact only_abandon _ fun holder hh => h holder (List.mem_of_mem_eraseP hh)
  · exact ⟨by simp, h⟩

end TurnQueue

end VoiceChat
