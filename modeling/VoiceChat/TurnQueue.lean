import VoiceChat.IntSet

/-!
# Turns in ticket order

Tickets are handed out in ascending order, and their holders get their turn
in that order, however late or early they come for it. A holder waits until
its ticket is served; a ticket may be abandoned, and is then passed over. Each
time another ticket is served, the waiting holders look at it one after
another, and those who looked in vain go to the end of the line.

`await`, `turn?`, `advance` and `forsake` are the single steps, between which
others may act. `enter`, `abandon` and `leave` let every holder look at once
who has reason to; `isSettled_settle` says that nobody is left waiting then for
the ticket being served.
-/

namespace VoiceChat

/-- Somebody waiting for the turn of a ticket. -/
structure Holder (α : Type) where
  ticket : Int
  value : α
deriving DecidableEq, Repr

/-- The state of the turns. -/
structure TurnQueue (α : Type) where
  /-- The ticket handed out next. -/
  next : Int := 0
  /-- The ticket being served. -/
  serving : Int := 0
  /-- Tickets to be passed over. -/
  abandoned : IntSet := .empty
  /-- The holders, in the order in which they will look at the next ticket. -/
  waiting : List (Holder α) := []
deriving DecidableEq

namespace TurnQueue

variable {α : Type}

/-- Hand out a ticket. -/
def issue (q : TurnQueue α) : TurnQueue α × Int := ({ q with next := q.next + 1 }, q.next)

/-- The first ticket from `serving` on that is not abandoned, and the tickets
still to be passed over. -/
def passOver : Nat → Int → IntSet → Int × IntSet
  | 0, serving, abandoned => (serving, abandoned)
  | count + 1, serving, abandoned =>
    if serving ∈ abandoned then passOver count (serving + 1) (abandoned.erase serving)
    else (serving, abandoned)

/-- Serve the next ticket. -/
def advance (q : TurnQueue α) : TurnQueue α :=
  let passed := passOver q.abandoned.size (q.serving + 1) q.abandoned
  { q with serving := passed.1, abandoned := passed.2 }

/-- Stand in line for the turn of `ticket`. -/
def await (ticket : Int) (value : α) (q : TurnQueue α) : TurnQueue α :=
  { q with waiting := q.waiting ++ [⟨ticket, value⟩] }

/-- The first in line who holds the ticket being served, taken out of the line. -/
def turn? (q : TurnQueue α) : Option (Holder α × TurnQueue α) :=
  match q.waiting.dropWhile (·.ticket ≠ q.serving) with
  | [] => none
  | holder :: behind =>
    some (holder, { q with waiting := behind ++ q.waiting.takeWhile (·.ticket ≠ q.serving) })

/-- Give up `ticket`. The next one is served if it is its turn, and else it
will be passed over. -/
def forsake (ticket : Int) (q : TurnQueue α) : TurnQueue α :=
  if ticket = q.serving then q.advance else { q with abandoned := q.abandoned.insert ticket }

/-- Admit holders from the line, `turns` of them at most, as long as somebody
in it holds the ticket being served; the values of those admitted, in order. -/
def settleWithin : Nat → TurnQueue α → TurnQueue α × List α
  | 0, q => (q, [])
  | turns + 1, q =>
    match q.turn? with
    | none => (q, [])
    | some (holder, left) =>
      let rest := settleWithin turns left.advance
      (rest.1, holder.value :: rest.2)

/-- Admit holders from the line until nobody in it holds the ticket being served. -/
def settle (q : TurnQueue α) : TurnQueue α × List α := q.settleWithin q.waiting.length

/-- Come for the turn of `ticket`; the values of those admitted, in order. -/
def enter (ticket : Int) (value : α) (q : TurnQueue α) : TurnQueue α × List α :=
  if ticket = q.serving then (q.advance.settle.1, value :: q.advance.settle.2)
  else (q.await ticket value, [])

/-- Give up `ticket`; the values of those admitted because of it, in order. -/
def abandon (ticket : Int) (q : TurnQueue α) : TurnQueue α × List α :=
  if ticket = q.serving then (q.forsake ticket).settle else (q.forsake ticket, [])

/-- Take the first holder that satisfies `p` out of the line and give up its ticket. -/
def leave (p : Holder α → Bool) (q : TurnQueue α) : TurnQueue α × List α :=
  match q.waiting.find? p with
  | some holder => { q with waiting := q.waiting.eraseP p }.abandon holder.ticket
  | none => (q, [])

/-! ## Nobody is kept waiting for the ticket being served -/

theorem passOver_notMem {count : Nat} {serving : Int} {abandoned : IntSet}
    (h : abandoned.size ≤ count) :
    (passOver count serving abandoned).1 ∉ (passOver count serving abandoned).2 := by
  induction count generalizing serving abandoned with
  | zero => exact IntSet.notMem_of_size_eq_zero (Nat.le_zero.1 h)
  | succ count ih =>
    unfold passOver
    split
    · next hs => exact ih (Nat.le_of_lt_succ (Nat.lt_of_lt_of_le (IntSet.size_erase_lt hs) h))
    · next hs => exact hs

/-- The ticket being served next is not an abandoned one. -/
theorem serving_advance_notMem (q : TurnQueue α) : q.advance.serving ∉ q.advance.abandoned :=
  passOver_notMem (Nat.le_refl _)

/-- Whether nobody in line holds the ticket being served. -/
def IsSettled (q : TurnQueue α) : Prop := ∀ holder ∈ q.waiting, holder.ticket ≠ q.serving

theorem forsake_serving (q : TurnQueue α) : q.forsake q.serving = q.advance := if_pos rfl

theorem forsake_of_ne {q : TurnQueue α} {ticket : Int} (h : ticket ≠ q.serving) :
    q.forsake ticket = { q with abandoned := q.abandoned.insert ticket } :=
  if_neg h

/-- The holder of the ticket being served is taken out of the line, and the others
come to stand in another order. -/
theorem turn?_eq_some {q left : TurnQueue α} {holder : Holder α}
    (h : q.turn? = some (holder, left)) :
    holder.ticket = q.serving ∧ q.waiting.Perm (holder :: left.waiting) ∧
      { q with waiting := left.waiting } = left := by
  unfold turn? at h
  split at h
  · cases h
  · next first behind line =>
    cases h
    have split := List.takeWhile_append_dropWhile (p := (·.ticket ≠ q.serving)) (l := q.waiting)
    rw [line] at split
    refine ⟨?_, ?_, rfl⟩
    · have served := List.head?_dropWhile_not (·.ticket ≠ q.serving) q.waiting
      rw [line] at served
      simpa using served
    · exact (List.Perm.of_eq split.symm).trans (List.perm_append_comm.trans (by simp))

/-- Nobody can have a turn exactly if nobody in line holds the ticket being served. -/
theorem turn?_eq_none_iff {q : TurnQueue α} : q.turn? = none ↔ q.IsSettled := by
  constructor
  · intro h holder mem
    unfold turn? at h
    split at h
    · next line =>
      rw [← List.takeWhile_append_dropWhile (p := (·.ticket ≠ q.serving)) (l := q.waiting), line,
        List.append_nil] at mem
      simpa using List.all_eq_true.1 List.all_takeWhile holder mem
    · cases h
  · intro settled
    match found : q.turn? with
    | none => rfl
    | some (holder, left) =>
      obtain ⟨served, line, -⟩ := turn?_eq_some found
      exact absurd served (settled holder (line.mem_iff.2 List.mem_cons_self))

theorem isSettled_settleWithin {turns : Nat} {q : TurnQueue α} (h : q.waiting.length ≤ turns) :
    (q.settleWithin turns).1.IsSettled := by
  induction turns generalizing q with
  | zero =>
    have hq : q.waiting = [] := List.length_eq_zero_iff.1 (Nat.le_zero.1 h)
    simp [settleWithin, IsSettled, hq]
  | succ turns ih =>
    unfold settleWithin
    split
    · next hd => exact turn?_eq_none_iff.1 hd
    · next holder left found =>
      obtain ⟨-, line, -⟩ := turn?_eq_some found
      have shorter := line.length_eq
      refine ih (show left.waiting.length ≤ turns from ?_)
      rw [List.length_cons] at shorter
      omega

theorem isSettled_settle (q : TurnQueue α) : q.settle.1.IsSettled :=
  isSettled_settleWithin (Nat.le_refl _)

end TurnQueue

end VoiceChat
