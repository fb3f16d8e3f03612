import DjangoWaf.Lib.KeySpace
import DjangoWaf.Lib.SortedSet
import Mathlib.Algebra.Order.Group.Defs
import Mathlib.Data.List.Dedup

/-!
# Sliding windows over a sorted set

The sorted-set counter: every event is stored under its own instant, entries older than the window
are trimmed, and what remains is counted. One `record` is one atomic pipeline, executed at the
instant `now`:

```
ZADD key {now: now} ; ZREMRANGEBYSCORE key 0 (now - w) ; ZCARD ; ZRANGE 0 0 ; EXPIRE key ttl
```

The key itself may have been expired by the store in the meantime. `survives` says which keys that
can touch: the store may drop a key at or after its deadline (`drop` is its choice) and never
before.

## What the set holds

`Tracks w hist c` relates the cell to the instants recorded so far, and says three things: the set
holds nothing but recorded instants; a recorded instant that is missing is at least a whole window
older than the last one; and the deadline is not due within a window of any recorded instant. It is
kept by `record` for **any** non-decreasing clock (`Tracks.record`), so expiry and trimming never
lose an instant that still counts.

From it come the two facts a limiter rests on:

* `Tracks.mem_record`: after a record at `now`, the set is **exactly** the set of instants recorded
  in `(now - w, now]`. So the count is a count of distinct instants, and two events with one clock
  reading are one member (`Tracks.count_record`).
* `Tracks.length_le_count`: any list of distinct recorded instants inside that interval is no longer
  than the count.

## What a limiter admits

`Limited w n times admitted c` is the invariant of a limiter that admits an event only when the
count stays at most `n`: no interval of length `w`, wherever it ends, holds more than `n` admitted
events. It is kept by the three things that can happen to a key at an event: the event never
reaches the key (`Limited.skip`), it is recorded and refused (`Limited.refuse`), or it is recorded
and admitted (`Limited.admit`).

## What waiting buys

A refused event was recorded as well. `le_length_later_iff` says what is left of a set that is over
its limit once the oldest of its instants has been waited for: as many as the limit allows, at
least, so that the retry is one too many.
-/

namespace SlidingWindow

variable {T : Type*} [AddCommGroup T] [LinearOrder T]

/-- The cell of a window's key. -/
abbrev Slot (T : Type*) := Option (TtlCell T (SortedSet T T))

/-- The instants a slot holds. -/
def Slot.members (c : Slot T) : List T := (c.map fun x ↦ x.value.members).getD []

omit [AddCommGroup T] [LinearOrder T] in
theorem Slot.members_nodup (c : Slot T) : c.members.Nodup := by
  rcases c with - | x
  · exact List.nodup_nil
  · exact x.value.members_nodup

/-- What one pipeline answers, and the slot it leaves. -/
structure Recorded (T : Type*) where
  /-- `ZCARD` after the trim. -/
  count : ℕ
  /-- `ZRANGE 0 0 WITHSCORES` after the trim. -/
  oldest : Option (T × T)
  /-- The key afterwards. -/
  slot : Slot T

/-- The key as the pipeline finds it: gone if the store dropped it, which it may do only once the
deadline has passed. -/
def survives (now : T) (drop : Bool) (c : Slot T) : Slot T :=
  match c with
  | some x => if x.Live now then some x else if drop then none else some x
  | none => none

/-- One pipeline at `now` over a window of length `w`. -/
def record (now w ttl : T) (drop : Bool) (c : Slot T) : Recorded T :=
  let z := ((survives now drop c).map TtlCell.value).getD SortedSet.empty
  let z' := (z.zadd now now).zremrangebyscore 0 (now - w)
  { count := z'.zcard, oldest := z'.lowest, slot := some ⟨z', some (now + ttl)⟩ }

/-- The recorded instants in the half-open interval `(t - w, t]`. -/
def within (w t : T) (hist : List T) : List T :=
  hist.filter fun x ↦ decide (t - w < x ∧ x ≤ t)

theorem mem_within {w t x : T} {hist : List T} :
    x ∈ within w t hist ↔ x ∈ hist ∧ t - w < x ∧ x ≤ t := by
  rw [within, List.mem_filter, decide_eq_true_eq]

theorem within_append (w t : T) (l₁ l₂ : List T) :
    within w t (l₁ ++ l₂) = within w t l₁ ++ within w t l₂ :=
  List.filter_append ..

theorem within_sublist (w t : T) {l₁ l₂ : List T} (h : l₁.Sublist l₂) :
    (within w t l₁).Sublist (within w t l₂) :=
  h.filter _

/-! ### What a slot knows of the recorded instants -/

/-- The slot is a faithful record of `hist` as far as windows of length `w` can tell. -/
structure Tracks (w : T) (hist : List T) (c : Slot T) : Prop where
  /-- Members are stored under themselves. -/
  diagonal : ∀ x, c = some x → x.value.Diagonal
  /-- Nothing is held that was not recorded. -/
  mem_hist : ∀ x ∈ c.members, x ∈ hist
  /-- What is missing is a window older than some recorded instant. -/
  missing : ∀ x ∈ hist, x ∈ c.members ∨ ∃ y ∈ hist, x + w ≤ y
  /-- The deadline is at least a window after every recorded instant. -/
  deadline : ∀ x, c = some x → ∀ d ∈ x.deadline, ∀ y ∈ hist, y + w ≤ d

theorem tracks_nil (w : T) : Tracks w [] (none : Slot T) where
  diagonal _ h := nomatch h
  mem_hist x h := absurd h (by simp [Slot.members])
  missing x h := absurd h List.not_mem_nil
  deadline _ h := nomatch h

variable {w now ttl : T} {hist : List T} {c : Slot T} {drop : Bool}

omit [AddCommGroup T] in
theorem survives_eq (now : T) (drop : Bool) (c : Slot T) :
    survives now drop c = c ∨
      survives now drop c = none ∧ ∃ x d, c = some x ∧ d ∈ x.deadline ∧ d ≤ now := by
  rcases c with - | x
  · exact Or.inl rfl
  · by_cases hl : x.Live now
    · exact Or.inl (by simp [survives, hl])
    · cases drop
      · exact Or.inl (by simp [survives, hl])
      · refine Or.inr ⟨by simp [survives, hl], ?_⟩
        simp only [TtlCell.Live, not_forall, not_lt] at hl
        obtain ⟨d, hd, hle⟩ := hl
        exact ⟨x, d, rfl, hd, hle⟩

variable [IsOrderedAddMonoid T]

omit [IsOrderedAddMonoid T] in
/-- Losing an expired key loses nothing a window can still see. -/
theorem Tracks.survives (h : Tracks w hist c) (now : T) (drop : Bool) :
    (∀ x, SlidingWindow.survives now drop c = some x → x.value.Diagonal) ∧
      (∀ x ∈ (SlidingWindow.survives now drop c).members, x ∈ hist) ∧
      ∀ x ∈ hist, x ∈ (SlidingWindow.survives now drop c).members ∨
        (∃ y ∈ hist, x + w ≤ y) ∨ x + w ≤ now := by
  rcases survives_eq now drop c with hs | ⟨hs, x₀, d, hc, hd, hle⟩
  · rw [hs]
    refine ⟨h.diagonal, h.mem_hist, fun x hx ↦ ?_⟩
    rcases h.missing x hx with hm | hm
    · exact Or.inl hm
    · exact Or.inr (Or.inl hm)
  · rw [hs]
    refine ⟨fun x hx ↦ (nomatch hx), fun x hx ↦ absurd hx (by simp [Slot.members]), ?_⟩
    intro x hx
    exact Or.inr (Or.inr ((h.deadline x₀ hc d hd x hx).trans hle))

omit [AddCommGroup T] [IsOrderedAddMonoid T] in
theorem diagonal_found (hd : ∀ x, survives now drop c = some x → x.value.Diagonal) :
    (((survives now drop c).map TtlCell.value).getD SortedSet.empty).Diagonal := by
  rcases hs : survives now drop c with - | y
  · exact SortedSet.diagonal_empty
  · exact hd y hs

omit [IsOrderedAddMonoid T] in
/-- A pipeline stores the instant under itself. -/
theorem diagonal_record (w ttl : T)
    (hd : ∀ x, survives now drop c = some x → x.value.Diagonal) :
    ∀ x, (record now w ttl drop c).slot = some x → x.value.Diagonal := by
  intro x hx
  obtain rfl := Option.some.inj hx
  exact ((diagonal_found hd).zadd now).filter _

omit [IsOrderedAddMonoid T] in
/-- The members a pipeline leaves, before anything is known of the history. -/
theorem mem_members_record (w ttl : T)
    (hd : ∀ x, survives now drop c = some x → x.value.Diagonal) (x : T) :
    x ∈ (record now w ttl drop c).slot.members ↔
      (x = now ∨ x ∈ (survives now drop c).members) ∧ ¬(0 ≤ x ∧ x ≤ now - w) := by
  have hmem : x ∈ (((SlidingWindow.survives now drop c).map TtlCell.value).getD
      SortedSet.empty).members ↔ x ∈ (SlidingWindow.survives now drop c).members := by
    rcases hs : SlidingWindow.survives now drop c with - | y
    · simp [Slot.members]
    · simp [Slot.members]
  show x ∈ (SortedSet.zremrangebyscore _ 0 (now - w)).members ↔ _
  rw [((diagonal_found hd).zadd now).mem_members_zremrangebyscore, SortedSet.mem_members_zadd, hmem]

/-- **One pipeline keeps the record faithful**, for every clock that does not run backwards and
every lifetime at least as long as the window. -/
theorem Tracks.record (h : Tracks w hist c) (hnow : ∀ x ∈ hist, x ≤ now) (httl : w ≤ ttl)
    (drop : Bool) :
    Tracks w (hist ++ [now]) (SlidingWindow.record now w ttl drop c).slot := by
  obtain ⟨hdiag, hsub, hmiss⟩ := h.survives now drop
  have hmem := mem_members_record w ttl hdiag
  refine ⟨diagonal_record w ttl hdiag, ?_, ?_, ?_⟩
  · intro x hx
    rcases ((hmem x).1 hx).1 with rfl | hx'
    · simp
    · exact List.mem_append_left _ (hsub x hx')
  · intro x hx
    by_cases hkeep : x ∈ (SlidingWindow.record now w ttl drop c).slot.members
    · exact Or.inl hkeep
    · refine Or.inr ⟨now, by simp, ?_⟩
      rw [hmem] at hkeep
      -- either the trim removed it, or the old slot had lost it already
      by_cases htrim : 0 ≤ x ∧ x ≤ now - w
      · exact le_sub_iff_add_le.1 htrim.2
      · have hold : x ∉ (SlidingWindow.survives now drop c).members ∧ x ≠ now := by tauto
        have hx' : x ∈ hist := by
          rcases List.mem_append.1 hx with hx | hx
          · exact hx
          · exact absurd (List.mem_singleton.1 hx) hold.2
        rcases hmiss x hx' with hm | ⟨y, hy, hle⟩ | hle
        · exact absurd hm hold.1
        · exact hle.trans (hnow y hy)
        · exact hle
  · intro x hx d hd y hy
    obtain rfl := Option.some.inj hx
    obtain rfl := Option.some.inj hd
    have hy' : y ≤ now := by
      rcases List.mem_append.1 hy with hy | hy
      · exact hnow y hy
      · exact (List.mem_singleton.1 hy).le
    exact add_le_add hy' httl

/-- **The set after a pipeline is the window itself**: exactly the instants recorded in
`(now - w, now]`, this one included. Instants are counted from the epoch, so none is negative. -/
theorem Tracks.mem_record (h : Tracks w hist c) (hnow : ∀ x ∈ hist, x ≤ now)
    (hpos : ∀ x ∈ hist ++ [now], 0 ≤ x) (x : T) :
    x ∈ (SlidingWindow.record now w ttl drop c).slot.members ↔
      x ∈ within w now (hist ++ [now]) := by
  obtain ⟨hdiag, hsub, hmiss⟩ := h.survives now drop
  rw [mem_members_record w ttl hdiag, mem_within, List.mem_append, List.mem_singleton]
  constructor
  · rintro ⟨rfl | hx, htrim⟩
    · exact ⟨Or.inr rfl, not_le.1 fun hle ↦ htrim ⟨hpos _ (by simp), hle⟩, le_rfl⟩
    · have hx' := hsub x hx
      have hx0 : 0 ≤ x := hpos x (List.mem_append_left _ hx')
      exact ⟨Or.inl hx', not_le.1 fun hle ↦ htrim ⟨hx0, hle⟩, hnow x hx'⟩
  · rintro ⟨hx | rfl, hlt, -⟩
    · refine ⟨Or.inr ?_, fun htrim ↦ absurd hlt (not_lt.2 htrim.2)⟩
      rcases hmiss x hx with hm | ⟨y, hy, hle⟩ | hle
      · exact hm
      · exact absurd (le_sub_iff_add_le.2 (hle.trans (hnow y hy))) (not_le.2 hlt)
      · exact absurd (le_sub_iff_add_le.2 hle) (not_le.2 hlt)
    · exact ⟨Or.inl rfl, fun htrim ↦ absurd hlt (not_lt.2 htrim.2)⟩

omit [IsOrderedAddMonoid T] in
theorem count_record_eq_length (now w ttl : T) (drop : Bool) (c : Slot T) :
    (SlidingWindow.record now w ttl drop c).count =
      (SlidingWindow.record now w ttl drop c).slot.members.length :=
  (SortedSet.length_members _).symm

/-- The count is the number of **distinct** instants in the window. -/
theorem Tracks.count_record (h : Tracks w hist c) (hnow : ∀ x ∈ hist, x ≤ now)
    (hpos : ∀ x ∈ hist ++ [now], 0 ≤ x) :
    (SlidingWindow.record now w ttl drop c).count =
      (within w now (hist ++ [now])).dedup.length := by
  rw [count_record_eq_length]
  refine List.Perm.length_eq ((List.perm_ext_iff_of_nodup ?_ (List.nodup_dedup _)).2 fun x ↦ ?_)
  · exact SortedSet.members_nodup _
  · rw [List.mem_dedup]
    exact h.mem_record hnow hpos x

/-- **Counting every event means never losing one and never seeing one instant twice**: a list of
events that includes the recorded ones of the window is as long as the count exactly when its
instants are pairwise distinct and all of them were recorded. -/
theorem Tracks.count_record_eq_length_iff (h : Tracks w hist c) (hnow : ∀ x ∈ hist, x ≤ now)
    (hpos : ∀ x ∈ hist ++ [now], 0 ≤ x) {events : List T}
    (hsub : (within w now (hist ++ [now])).Sublist events) :
    (SlidingWindow.record now w ttl drop c).count = events.length ↔
      events.Nodup ∧ within w now (hist ++ [now]) = events := by
  rw [h.count_record hnow hpos]
  constructor
  · intro hlen
    have hded := (List.dedup_sublist (within w now (hist ++ [now]))).length_le
    have heq := hsub.eq_of_length (by have := hsub.length_le; omega)
    refine ⟨?_, heq⟩
    rw [← heq] at hlen ⊢
    exact List.dedup_eq_self.1 ((List.dedup_sublist _).eq_of_length hlen)
  · rintro ⟨hnd, rfl⟩
    rw [hnd.dedup]

/-- A list of distinct recorded instants inside the window is no longer than the count. Trimming
from `0` and negative instants do not matter here: what is kept too long only counts twice. -/
theorem Tracks.length_le_count (h : Tracks w hist c) (hnow : ∀ x ∈ hist, x ≤ now)
    {l : List T} (hl : l.Nodup) (hmem : ∀ x ∈ l, x ∈ hist ++ [now]) (hlt : ∀ x ∈ l, now - w < x) :
    l.length ≤ (SlidingWindow.record now w ttl drop c).count := by
  obtain ⟨hdiag, hsub, hmiss⟩ := h.survives now drop
  refine SortedSet.length_le_zcard hl fun x hx ↦ ?_
  refine (mem_members_record w ttl hdiag x).2
    ⟨?_, fun htrim ↦ absurd (hlt x hx) (not_lt.2 htrim.2)⟩
  rcases List.mem_append.1 (hmem x hx) with hx' | hx'
  · refine Or.inr ?_
    rcases hmiss x hx' with hm | ⟨y, hy, hle⟩ | hle
    · exact hm
    · exact absurd (le_sub_iff_add_le.2 (hle.trans (hnow y hy))) (not_le.2 (hlt x hx))
    · exact absurd (le_sub_iff_add_le.2 hle) (not_le.2 (hlt x hx))
  · exact Or.inl (List.mem_singleton.1 hx')

/-! ### What a limiter admits -/

/-- The admitted events of a limiter on one key never crowd a window. -/
structure Limited (w : T) (n : ℕ) (times admitted : List T) (c : Slot T) : Prop where
  /-- Every admitted instant was recorded, and only instants of the run were. -/
  tracks : ∃ hist, Tracks w hist c ∧ (∀ x ∈ hist, x ∈ times) ∧ ∀ x ∈ admitted, x ∈ hist
  /-- No instant is admitted twice. -/
  nodup : admitted.Nodup
  /-- No interval of length `w` holds more than `n` admitted instants. -/
  bound : ∀ t, (within w t admitted).length ≤ n

omit [IsOrderedAddMonoid T] in
theorem limited_nil (w : T) (n : ℕ) : Limited w n [] [] (none : Slot T) where
  tracks := ⟨[], tracks_nil w, fun _ h ↦ h, fun _ h ↦ h⟩
  nodup := List.nodup_nil
  bound _ := Nat.zero_le n

variable {n : ℕ} {times admitted : List T}

omit [IsOrderedAddMonoid T] in
/-- An event that does not reach the key leaves it as it is. -/
theorem Limited.skip (h : Limited w n times admitted c) (now : T) :
    Limited w n (times ++ [now]) admitted c := by
  obtain ⟨hist, htr, hsub, hadm⟩ := h.tracks
  exact ⟨⟨hist, htr, fun x hx ↦ List.mem_append_left _ (hsub x hx), hadm⟩, h.nodup, h.bound⟩

/-- An event that is recorded and refused. -/
theorem Limited.refuse (h : Limited w n times admitted c) (hnow : ∀ x ∈ times, x ≤ now)
    (httl : w ≤ ttl) (drop : Bool) :
    Limited w n (times ++ [now]) admitted (SlidingWindow.record now w ttl drop c).slot := by
  obtain ⟨hist, htr, hsub, hadm⟩ := h.tracks
  refine ⟨⟨hist ++ [now], htr.record (fun x hx ↦ hnow x (hsub x hx)) httl drop, ?_, ?_⟩,
    h.nodup, h.bound⟩
  · intro x hx
    rcases List.mem_append.1 hx with hx | hx
    · exact List.mem_append_left _ (hsub x hx)
    · exact List.mem_append_right _ hx
  · exact fun x hx ↦ List.mem_append_left _ (hadm x hx)

/-- An event that is recorded and admitted, the count being within the limit. The clock has to
advance: two admitted events at one instant are one member. -/
theorem Limited.admit (h : Limited w n times admitted c) (hnow : ∀ x ∈ times, x < now)
    (httl : w ≤ ttl) (hcount : (SlidingWindow.record now w ttl drop c).count ≤ n) :
    Limited w n (times ++ [now]) (admitted ++ [now])
      (SlidingWindow.record now w ttl drop c).slot := by
  obtain ⟨hist, htr, hsub, hadm⟩ := h.tracks
  have hle : ∀ x ∈ times, x ≤ now := fun x hx ↦ (hnow x hx).le
  have hfresh : now ∉ admitted := fun hmem ↦ lt_irrefl now (hnow now (hsub now (hadm now hmem)))
  have hnodup : (admitted ++ [now]).Nodup := by
    refine List.Nodup.append h.nodup (List.nodup_singleton now) ?_
    intro x hx hx'
    exact hfresh (List.mem_singleton.1 hx' ▸ hx)
  have hmem : ∀ x ∈ admitted ++ [now], x ∈ hist ++ [now] := by
    intro x hx
    rcases List.mem_append.1 hx with hx | hx
    · exact List.mem_append_left _ (hadm x hx)
    · exact List.mem_append_right _ hx
  refine ⟨⟨hist ++ [now], htr.record (fun x hx ↦ hle x (hsub x hx)) httl drop, ?_, hmem⟩,
    hnodup, fun t ↦ ?_⟩
  · intro x hx
    rcases List.mem_append.1 hx with hx | hx
    · exact List.mem_append_left _ (hsub x hx)
    · exact List.mem_append_right _ hx
  · by_cases hin : t - w < now ∧ now ≤ t
    · -- the interval ends at or after `now`, so it starts no earlier than the window counted here
      have hlen : (within w t (admitted ++ [now])).length ≤
          (SlidingWindow.record now w ttl drop c).count := by
        refine htr.length_le_count (fun x hx ↦ hle x (hsub x hx)) (hnodup.filter _) ?_ ?_
        · exact fun x hx ↦ hmem x (mem_within.1 hx).1
        · exact fun x hx ↦ lt_of_le_of_lt (sub_le_sub_right hin.2 w) (mem_within.1 hx).2.1
      exact hlen.trans hcount
    · have hnil : within w t [now] = [] := by simp [within, hin]
      rw [within_append, hnil, List.append_nil]
      exact h.bound t

/-! ### Waiting for the oldest instant

A limiter that refuses an event may name the instant at which the oldest entry leaves the window.
That frees one place, and the retry takes it: where the count was over the limit before, it is over
the limit again. -/

/-- A slot that holds nothing but instants of `hist`, each stored under itself. Unlike `Tracks` it
asks nothing of the clock. -/
structure HoldsOnly (hist : List T) (c : Slot T) : Prop where
  diagonal : ∀ x, c = some x → x.value.Diagonal
  mem_hist : ∀ x ∈ c.members, x ∈ hist

omit [AddCommGroup T] [LinearOrder T] [IsOrderedAddMonoid T] in
theorem HoldsOnly.mono {hist' : List T} (h : HoldsOnly hist c) (hsub : hist ⊆ hist') :
    HoldsOnly hist' c :=
  ⟨h.diagonal, fun x hx ↦ hsub (h.mem_hist x hx)⟩

omit [AddCommGroup T] [IsOrderedAddMonoid T] in
theorem HoldsOnly.survives (h : HoldsOnly hist c) (now : T) (drop : Bool) :
    HoldsOnly hist (SlidingWindow.survives now drop c) := by
  rcases survives_eq now drop c with hs | ⟨hs, -⟩
  · rwa [hs]
  · rw [hs]
    exact ⟨fun x hx ↦ (nomatch hx), fun x hx ↦ absurd hx (by simp [Slot.members])⟩

omit [IsOrderedAddMonoid T] in
theorem HoldsOnly.record (h : HoldsOnly hist c) (now w ttl : T) (drop : Bool) :
    HoldsOnly (hist ++ [now]) (SlidingWindow.record now w ttl drop c).slot := by
  obtain ⟨hdiag, hsub⟩ := h.survives now drop
  refine ⟨diagonal_record w ttl hdiag, fun x hx ↦ ?_⟩
  rcases ((mem_members_record w ttl hdiag x).1 hx).1 with rfl | hx
  · simp
  · exact List.mem_append_left _ (hsub x hx)

omit [IsOrderedAddMonoid T] in
/-- Instants counted from the epoch are trimmed at the cutoff. -/
theorem HoldsOnly.lt_of_mem_record (h : HoldsOnly hist c) (hpos : ∀ x ∈ hist ++ [now], 0 ≤ x)
    {x : T} (hx : x ∈ (SlidingWindow.record now w ttl drop c).slot.members) : now - w < x := by
  have hx0 := hpos x ((h.record now w ttl drop).mem_hist x hx)
  have htrim := ((mem_members_record w ttl (h.survives now drop).diagonal x).1 hx).2
  exact not_le.1 fun hle ↦ htrim ⟨hx0, hle⟩

omit [IsOrderedAddMonoid T] in
/-- The answers of a pipeline are about the set it leaves, which lives for `ttl` more. -/
theorem exists_record_eq (now w ttl : T) (drop : Bool) (c : Slot T) :
    ∃ z : SortedSet T T, SlidingWindow.record now w ttl drop c =
      ⟨z.zcard, z.lowest, some ⟨z, some (now + ttl)⟩⟩ :=
  ⟨_, rfl⟩

omit [AddCommGroup T] [IsOrderedAddMonoid T] in
/-- A key is found until its deadline. -/
theorem survives_of_lt {z : SortedSet T T} {d : T} (h : now < d) (drop : Bool) :
    SlidingWindow.survives now drop (some ⟨z, some d⟩) = some ⟨z, some d⟩ :=
  if_pos (TtlCell.live_some.2 h)

/-- A window that ends after all the instants holds itself and those later than its cutoff. -/
theorem length_within_cons (hw : 0 < w) {l : List T} (h : ∀ x ∈ l, x ≤ now) :
    (within w now (now :: l)).length = (l.filter fun x ↦ decide (now - w < x)).length + 1 := by
  have hnow : now - w < now := sub_lt_self now hw
  have htail : within w now l = l.filter fun x ↦ decide (now - w < x) :=
    List.filter_congr fun x hx ↦ by simp [h x hx]
  rw [within, List.filter_cons_of_pos (by simp [hnow]), ← within, htail, List.length_cons]

omit [IsOrderedAddMonoid T] in
/-- At an instant later than all it finds, a pipeline counts what is left of the window and
itself. -/
theorem count_record_of_fresh
    (hd : ∀ x, SlidingWindow.survives now drop c = some x → x.value.Diagonal)
    (hfresh : ∀ x ∈ (SlidingWindow.survives now drop c).members, 0 ≤ x ∧ x < now)
    (hnow : 0 ≤ now) :
    (SlidingWindow.record now w ttl drop c).count =
      (within w now (now :: (SlidingWindow.survives now drop c).members)).length := by
  have hnd : (now :: (SlidingWindow.survives now drop c).members).Nodup :=
    List.nodup_cons.2 ⟨fun h ↦ lt_irrefl now (hfresh now h).2, Slot.members_nodup _⟩
  rw [count_record_eq_length]
  refine ((List.perm_ext_iff_of_nodup (Slot.members_nodup _) (hnd.filter _)).2 fun x ↦ ?_).length_eq
  rw [mem_members_record w ttl hd, ← within, mem_within, List.mem_cons]
  refine and_congr_right fun hx ↦ ?_
  have hx' : 0 ≤ x ∧ x ≤ now := by
    rcases hx with rfl | hx
    · exact ⟨hnow, le_rfl⟩
    · exact ⟨(hfresh x hx).1, (hfresh x hx).2.le⟩
  constructor
  · exact fun h ↦ ⟨not_le.1 fun hle ↦ h ⟨hx'.1, hle⟩, hx'.2⟩
  · exact fun h hle ↦ absurd h.1 (not_lt.2 hle.2)

omit [AddCommGroup T] [IsOrderedAddMonoid T] in
/-- Moving the cutoff up to the oldest of a list of distinct instants loses one of them at most. -/
theorem length_le_length_later {l : List T} (hnd : l.Nodup) {a : T} (h : ∀ x ∈ l, a ≤ x) :
    l.length ≤ (l.filter fun x ↦ decide (a < x)).length + 1 := by
  have hsub : l.erase a ⊆ l.filter fun x ↦ decide (a < x) := by
    intro x hx
    rw [hnd.mem_erase_iff] at hx
    exact List.mem_filter.2 ⟨hx.2, decide_eq_true (lt_of_le_of_ne (h x hx.2) (Ne.symm hx.1))⟩
  have hlen := (List.subperm_of_subset (hnd.erase a) hsub).length_le
  have herase : l.length ≤ (l.erase a).length + 1 := by
    rw [List.length_erase]
    split <;> omega
  omega

omit [AddCommGroup T] [IsOrderedAddMonoid T] in
/-- **Waiting for the oldest is not enough.** A set over its limit, looked at through a cutoff `v`
that lies no later than its oldest instant, is still at the limit; so if it is below the limit
through `v`, then only because `v` is a cutoff `u` that does not wait for the oldest. -/
theorem le_length_later_iff {l : List T} (hnd : l.Nodup) {n : ℕ} (hn : n < l.length) {u v : T}
    (huv : u ≤ v) (hv : v = u ∨ ∀ x ∈ l, v ≤ x) :
    n ≤ (l.filter fun x ↦ decide (v < x)).length ↔
      n ≤ (l.filter fun x ↦ decide (u < x)).length := by
  rcases hv with rfl | hv
  · rfl
  · have hone := length_le_length_later hnd hv
    have hmono : (l.filter fun x ↦ decide (v < x)).length ≤
        (l.filter fun x ↦ decide (u < x)).length := by
      refine (List.monotone_filter_right l fun x hx ↦ ?_).length_le
      exact decide_eq_true (lt_of_le_of_lt huv (of_decide_eq_true hx))
    omega

end SlidingWindow
