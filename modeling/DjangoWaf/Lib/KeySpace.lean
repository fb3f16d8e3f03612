import Mathlib.Data.Nat.Notation
import Mathlib.Logic.Function.Basic
import Mathlib.Order.Lattice

/-!
# Key spaces whose entries expire

A family of keys of one store, in the fragment of the Redis command set that reads and writes
string values: `GET`, `SETEX`, `INCR`, `EXPIRE` and `DEL`. A stored value carries the instant at
which it stops being readable, if it has one; reading is the only place that instant is consulted,
so an expired cell and an absent one are the same to every reader.

Nothing here depends on what the keys or the values are. The clock is supplied by the caller, as a
reading passed to each command; no command reads a clock of its own.

* `incr` creates a missing or expired key at `1` and **without** a deadline, and keeps the deadline
  of a live one. It is the following `expire` that arms or re-arms the deadline.
* A write changes at most the cell it names (`cell_put_of_ne`).
-/

/-- A stored value together with the instant at which it stops being readable, if any. -/
structure TtlCell (T V : Type*) where
  /-- The stored value. -/
  value : V
  /-- The instant from which the value is no longer readable. -/
  deadline : Option T
  deriving DecidableEq, Repr

/-- A family of keys: every key holds at most one cell. -/
@[ext]
structure KeySpace (K T V : Type*) where
  /-- The cell stored at a key, expired or not. -/
  cell : K → Option (TtlCell T V)

namespace TtlCell

variable {T V : Type*} [LinearOrder T]

/-- A cell is live strictly before its deadline, and for ever when it has none. -/
def Live (c : TtlCell T V) (now : T) : Prop := ∀ d ∈ c.deadline, now < d

instance (c : TtlCell T V) (now : T) : Decidable (c.Live now) :=
  match h : c.deadline with
  | none => isTrue (by simp [Live, h])
  | some d => decidable_of_iff (now < d) (by simp [Live, h])

@[simp]
theorem live_some {v : V} {d now : T} : (TtlCell.mk v (some d)).Live now ↔ now < d := by
  simp [Live]

@[simp]
theorem live_none {v : V} {now : T} : (TtlCell.mk v (none : Option T)).Live now := by
  simp [Live]

/-- Liveness only ends: a cell live at an instant was live before it. -/
theorem Live.mono {c : TtlCell T V} {s t : T} (h : c.Live t) (hst : s ≤ t) : c.Live s :=
  fun d hd ↦ lt_of_le_of_lt hst (h d hd)

end TtlCell

namespace KeySpace

variable {K T V : Type*}

/-- The store with no key at all. -/
def empty : KeySpace K T V := ⟨fun _ ↦ none⟩

/-- `GET`: the value of a live key. -/
def get [LinearOrder T] (s : KeySpace K T V) (now : T) (k : K) : Option V :=
  match s.cell k with
  | some c => if c.Live now then some c.value else none
  | none => none

/-- The cell of a key, when it is live. -/
def liveCell [LinearOrder T] (s : KeySpace K T V) (now : T) (k : K) : Option (TtlCell T V) :=
  match s.cell k with
  | some c => if c.Live now then some c else none
  | none => none

variable [DecidableEq K]

/-- Store a cell at one key. -/
def put (s : KeySpace K T V) (k : K) (c : TtlCell T V) : KeySpace K T V :=
  ⟨Function.update s.cell k (some c)⟩

/-- `SETEX`: overwrite a key with a value that lives for `ttl`. -/
def setex [Add T] (s : KeySpace K T V) (now : T) (k : K) (ttl : T) (v : V) : KeySpace K T V :=
  s.put k ⟨v, some (now + ttl)⟩

/-- `DEL`. -/
def delete (s : KeySpace K T V) (k : K) : KeySpace K T V :=
  ⟨Function.update s.cell k none⟩

/-- `EXPIRE`: re-arm the deadline of a live key, and do nothing to a missing one. -/
def expire [LinearOrder T] [Add T] (s : KeySpace K T V) (now : T) (k : K) (ttl : T) :
    KeySpace K T V :=
  match s.liveCell now k with
  | some c => s.put k ⟨c.value, some (now + ttl)⟩
  | none => s

/-- `INCR`: one more than a live counter, keeping its deadline; a missing or expired one starts
again at `1` with no deadline. -/
def incr [LinearOrder T] (s : KeySpace K T ℕ) (now : T) (k : K) : KeySpace K T ℕ :=
  match s.liveCell now k with
  | some c => s.put k ⟨c.value + 1, c.deadline⟩
  | none => s.put k ⟨1, none⟩

/-! ### Reading back -/

section Reading

omit [DecidableEq K]

variable [LinearOrder T]

theorem get_eq_map_liveCell (s : KeySpace K T V) (now : T) (k : K) :
    s.get now k = (s.liveCell now k).map TtlCell.value := by
  unfold get liveCell
  split
  · split <;> rfl
  · rfl

theorem liveCell_eq_some_iff {s : KeySpace K T V} {now : T} {k : K} {c : TtlCell T V} :
    s.liveCell now k = some c ↔ s.cell k = some c ∧ c.Live now := by
  unfold liveCell
  constructor
  · intro h
    split at h
    · rename_i c' hc'
      split at h
      · rename_i hl
        obtain rfl := Option.some.inj h
        exact ⟨hc', hl⟩
      · cases h
    · cases h
  · rintro ⟨hc, hl⟩
    rw [hc]
    exact if_pos hl

theorem get_eq_some_iff {s : KeySpace K T V} {now : T} {k : K} {v : V} :
    s.get now k = some v ↔ ∃ c, s.cell k = some c ∧ c.Live now ∧ c.value = v := by
  rw [get_eq_map_liveCell, Option.map_eq_some_iff]
  constructor
  · rintro ⟨c, hc, hv⟩
    obtain ⟨hcell, hl⟩ := liveCell_eq_some_iff.1 hc
    exact ⟨c, hcell, hl, hv⟩
  · rintro ⟨c, hcell, hl, hv⟩
    exact ⟨c, liveCell_eq_some_iff.2 ⟨hcell, hl⟩, hv⟩

/-- Reading depends on the cell alone. -/
theorem get_congr {s s' : KeySpace K T V} {now : T} {k : K} (h : s.cell k = s'.cell k) :
    s.get now k = s'.get now k := by
  rw [get, get, h]

@[simp]
theorem get_of_cell_none {s : KeySpace K T V} {now : T} {k : K} (h : s.cell k = none) :
    s.get now k = none := by
  rw [get, h]

end Reading

/-! ### The cell a command names -/

@[simp]
theorem cell_put_self (s : KeySpace K T V) (k : K) (c : TtlCell T V) :
    (s.put k c).cell k = some c :=
  Function.update_self k _ s.cell

@[simp]
theorem cell_setex_self [Add T] (s : KeySpace K T V) (now : T) (k : K) (ttl : T) (v : V) :
    (s.setex now k ttl v).cell k = some ⟨v, some (now + ttl)⟩ :=
  s.cell_put_self k _

@[simp]
theorem cell_delete_self (s : KeySpace K T V) (k : K) : (s.delete k).cell k = none :=
  Function.update_self k _ s.cell

/-- `INCR` followed by `EXPIRE`, the pair that keeps a counter with a sliding deadline: the value
goes up by one from what a reader saw, and the deadline is re-armed. -/
theorem cell_incr_expire_self [LinearOrder T] [Add T] (s : KeySpace K T ℕ) (now : T) (k : K)
    (ttl : T) :
    ((s.incr now k).expire now k ttl).cell k =
      some ⟨(s.get now k).getD 0 + 1, some (now + ttl)⟩ := by
  rcases h : s.liveCell now k with - | c
  · have hget : s.get now k = none := by rw [get_eq_map_liveCell, h]; rfl
    have hlive : (s.put k ⟨1, none⟩).liveCell now k = some ⟨1, none⟩ :=
      liveCell_eq_some_iff.2 ⟨s.cell_put_self k _, TtlCell.live_none⟩
    simp only [incr, h, expire, hlive, hget, cell_put_self]
    rfl
  · have hget : s.get now k = some c.value := by rw [get_eq_map_liveCell, h]; rfl
    have hl : c.Live now := (liveCell_eq_some_iff.1 h).2
    have hlive : (s.put k ⟨c.value + 1, c.deadline⟩).liveCell now k =
        some ⟨c.value + 1, c.deadline⟩ :=
      liveCell_eq_some_iff.2 ⟨s.cell_put_self k _, hl⟩
    simp only [incr, h, expire, hlive, hget, cell_put_self]
    rfl

/-! ### Every other cell -/

theorem cell_put_of_ne (s : KeySpace K T V) {k k' : K} (c : TtlCell T V) (h : k' ≠ k) :
    (s.put k c).cell k' = s.cell k' :=
  Function.update_of_ne h _ s.cell

theorem cell_setex_of_ne [Add T] (s : KeySpace K T V) (now : T) {k k' : K} (ttl : T) (v : V)
    (h : k' ≠ k) : (s.setex now k ttl v).cell k' = s.cell k' :=
  s.cell_put_of_ne _ h

/-- What `SETEX` leaves in a cell is its own value or what was there. -/
theorem cell_setex_eq_some [Add T] {s : KeySpace K T V} {now : T} {k k' : K} {ttl : T} {v : V}
    {c : TtlCell T V} (h : (s.setex now k ttl v).cell k' = some c) :
    k' = k ∧ c = ⟨v, some (now + ttl)⟩ ∨ s.cell k' = some c := by
  rcases eq_or_ne k' k with rfl | hk
  · rw [cell_setex_self] at h
    exact .inl ⟨rfl, (Option.some.inj h).symm⟩
  · rw [s.cell_setex_of_ne now ttl v hk] at h
    exact .inr h

/-- What `DEL` leaves was there. -/
theorem cell_eq_some_of_delete {s : KeySpace K T V} {k k' : K} {c : TtlCell T V}
    (h : (s.delete k).cell k' = some c) : s.cell k' = some c := by
  rcases eq_or_ne k' k with rfl | hk
  · rw [cell_delete_self] at h
    cases h
  · exact (Function.update_of_ne hk _ s.cell).symm.trans h

/-- `EXPIRE` makes no cell. -/
theorem cell_expire_of_none [LinearOrder T] [Add T] {s : KeySpace K T V} {k' : K}
    (h : s.cell k' = none) (now : T) (k : K) (ttl : T) : (s.expire now k ttl).cell k' = none := by
  rw [expire]
  rcases hc : s.liveCell now k with - | c
  · exact h
  · have hne : k' ≠ k := by
      rintro rfl
      rw [(liveCell_eq_some_iff.1 hc).1] at h
      cases h
    exact (s.cell_put_of_ne _ hne).trans h

/-! ### Counters

What a family of counters holds while no key outlives its deadline. -/

/-- No key has outlived its deadline. -/
def NoneExpired [LinearOrder T] (s : KeySpace K T V) (now : T) : Prop :=
  ∀ k, ∀ c ∈ s.cell k, c.Live now

/-- The value stored at a key, `0` when there is none. -/
def stored (s : KeySpace K T ℕ) (k : K) : ℕ := (s.cell k).elim 0 TtlCell.value

theorem stored_put (s : KeySpace K T ℕ) (k : K) (c : TtlCell T ℕ) (k' : K) :
    (s.put k c).stored k' = if k' = k then c.value else s.stored k' := by
  rw [stored]
  rcases eq_or_ne k' k with rfl | hk
  · rw [cell_put_self, if_pos rfl]
    rfl
  · rw [cell_put_of_ne _ _ hk, if_neg hk]
    rfl

/-- A write that adds to a key. -/
theorem stored_put_add {s : KeySpace K T ℕ} {k : K} {c : TtlCell T ℕ} {n : ℕ}
    (h : c.value = s.stored k + n) (k' : K) :
    (s.put k c).stored k' = s.stored k' + if k' = k then n else 0 := by
  rw [stored_put]
  split
  · rename_i hk
    rw [h, hk]
  · rfl

theorem stored_delete (s : KeySpace K T ℕ) (k k' : K) :
    (s.delete k).stored k' = if k' = k then 0 else s.stored k' := by
  rw [stored]
  rcases eq_or_ne k' k with rfl | hk
  · rw [cell_delete_self, if_pos rfl]
    rfl
  · have hcell : (s.delete k).cell k' = s.cell k' := Function.update_of_ne hk _ s.cell
    rw [hcell, if_neg hk]
    rfl

section Unexpired

variable [LinearOrder T] {s : KeySpace K T ℕ} {now : T}

omit [DecidableEq K] in
theorem NoneExpired.liveCell_eq (h : s.NoneExpired now) (k : K) : s.liveCell now k = s.cell k := by
  rcases hc : s.cell k with - | c
  · rw [liveCell, hc]
  · exact liveCell_eq_some_iff.2 ⟨hc, h k c hc⟩

omit [DecidableEq K] in
/-- A reader sees what is stored. -/
theorem NoneExpired.getD_get (h : s.NoneExpired now) (k : K) :
    (s.get now k).getD 0 = s.stored k := by
  rw [get_eq_map_liveCell, h.liveCell_eq, stored]
  rcases s.cell k with - | c
  · rfl
  · rfl

omit [DecidableEq K] in
/-- A key is listed as long as it is stored. -/
theorem NoneExpired.isSome_get (h : s.NoneExpired now) (k : K) :
    (s.get now k).isSome = (s.cell k).isSome := by
  rw [get_eq_map_liveCell, h.liveCell_eq, Option.isSome_map]

theorem NoneExpired.put (h : s.NoneExpired now) (k : K) {c : TtlCell T ℕ} (hc : c.Live now) :
    (s.put k c).NoneExpired now := by
  intro k' c' hc'
  rcases eq_or_ne k' k with rfl | hk
  · rw [cell_put_self] at hc'
    obtain rfl := Option.some.inj hc'
    exact hc
  · rw [cell_put_of_ne _ _ hk] at hc'
    exact h k' c' hc'

theorem NoneExpired.delete (h : s.NoneExpired now) (k : K) : (s.delete k).NoneExpired now := by
  intro k' c hc
  rcases eq_or_ne k' k with rfl | hk
  · rw [cell_delete_self] at hc
    cases hc
  · exact h k' c ((Function.update_of_ne hk _ s.cell).symm.trans hc)

/-- `INCR` adds one. -/
theorem NoneExpired.stored_incr (h : s.NoneExpired now) (k k' : K) :
    (s.incr now k).stored k' = s.stored k' + if k' = k then 1 else 0 := by
  rw [incr, h.liveCell_eq]
  rcases hc : s.cell k with - | c
  · exact stored_put_add (by rw [stored, hc]; rfl) k'
  · exact stored_put_add (by rw [stored, hc]; rfl) k'

/-- At the same instant, an `INCR` leaves no key past its deadline. -/
theorem NoneExpired.incr (h : s.NoneExpired now) (k : K) : (s.incr now k).NoneExpired now := by
  rw [KeySpace.incr, h.liveCell_eq]
  rcases hc : s.cell k with - | c
  · exact h.put k TtlCell.live_none
  · exact h.put k (h k c hc)

/-- `EXPIRE` changes no value. -/
theorem stored_expire [Add T] (s : KeySpace K T ℕ) (now : T) (k : K) (ttl : T) (k' : K) :
    (s.expire now k ttl).stored k' = s.stored k' := by
  rw [expire]
  rcases hc : s.liveCell now k with - | c
  · rfl
  · have hvalue : c.value = s.stored k + 0 := by
      rw [stored, (liveCell_eq_some_iff.1 hc).1]
      rfl
    have hadd := @stored_put_add K T _ s k ⟨c.value, some (now + ttl)⟩ 0 hvalue k'
    rw [ite_self, Nat.add_zero] at hadd
    exact hadd

end Unexpired

end KeySpace
