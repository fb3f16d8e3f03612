import Mathlib.Data.List.MinMax
import Mathlib.Data.List.Nodup
import Mathlib.Data.List.Perm.Subperm

/-!
# Sorted sets

A finite set of members, each with a score, in the fragment of the Redis command set a sliding
window is built from: `ZADD`, `ZREMRANGEBYSCORE`, `ZCARD`, `ZCOUNT` and `ZRANGE 0 0 WITHSCORES`.

A member occurs **once**: adding a member that is already there only moves its score. The structure
carries that as a field, so `zcard` is a count of members and never of insertions.
-/

/-- A sorted set: members with their scores, no member twice. -/
structure SortedSet (M S : Type*) where
  /-- The members with their scores, latest insertion first. -/
  entries : List (M × S)
  /-- No member occurs twice. -/
  nodup : (entries.map Prod.fst).Nodup

namespace SortedSet

variable {M S : Type*}

/-- The set of a key that does not exist. -/
def empty : SortedSet M S := ⟨[], List.nodup_nil⟩

/-- The members, without their scores. -/
def members (z : SortedSet M S) : List M := z.entries.map Prod.fst

/-- `ZCARD`: how many members there are. -/
def zcard (z : SortedSet M S) : ℕ := z.entries.length

/-- Keep the entries that satisfy `p`. -/
def filter (z : SortedSet M S) (p : M × S → Bool) : SortedSet M S :=
  ⟨z.entries.filter p, z.nodup.sublist ((List.filter_sublist).map _)⟩

/-- `ZADD`: insert a member, or move the score of one that is there. -/
def zadd [DecidableEq M] (z : SortedSet M S) (m : M) (s : S) : SortedSet M S where
  entries := (m, s) :: z.entries.filter fun e ↦ decide (e.1 ≠ m)
  nodup := by
    rw [List.map_cons, List.nodup_cons]
    refine ⟨fun h ↦ ?_, (z.filter fun e ↦ decide (e.1 ≠ m)).nodup⟩
    obtain ⟨e, he, hem⟩ := List.mem_map.1 h
    exact of_decide_eq_true (List.mem_filter.1 he).2 hem

/-- `ZREMRANGEBYSCORE`: drop the members whose score lies between the bounds, both included. -/
def zremrangebyscore [LE S] [DecidableLE S] (z : SortedSet M S) (lo hi : S) : SortedSet M S :=
  z.filter fun e ↦ !(decide (lo ≤ e.2) && decide (e.2 ≤ hi))

/-- `ZCOUNT key lo +inf`: how many members score at least `lo`. -/
def zcount [LE S] [DecidableLE S] (z : SortedSet M S) (lo : S) : ℕ :=
  (z.entries.filter fun e ↦ decide (lo ≤ e.2)).length

/-- `ZRANGE 0 0 WITHSCORES`: the entry with the lowest score, if there is one. -/
def lowest [Preorder S] [DecidableLT S] (z : SortedSet M S) : Option (M × S) :=
  z.entries.argmin Prod.snd

@[simp]
theorem length_members (z : SortedSet M S) : z.members.length = z.zcard :=
  List.length_map _

theorem members_nodup (z : SortedSet M S) : z.members.Nodup := z.nodup

@[simp]
theorem members_empty : (empty : SortedSet M S).members = [] := rfl

theorem mem_members_zadd [DecidableEq M] {z : SortedSet M S} {m x : M} {s : S} :
    x ∈ (z.zadd m s).members ↔ x = m ∨ x ∈ z.members := by
  simp only [members, zadd, List.map_cons, List.mem_cons, List.mem_map, List.mem_filter,
    decide_eq_true_eq]
  constructor
  · rintro (rfl | ⟨e, ⟨he, -⟩, rfl⟩)
    · exact Or.inl rfl
    · exact Or.inr ⟨e, he, rfl⟩
  · rintro (rfl | ⟨e, he, rfl⟩)
    · exact Or.inl rfl
    · by_cases h : e.1 = m
      · exact Or.inl h
      · exact Or.inr ⟨e, ⟨he, h⟩, rfl⟩

/-- A list without repetitions whose elements are all members is no longer than the set. -/
theorem length_le_zcard {z : SortedSet M S} {l : List M} (hl : l.Nodup)
    (h : ∀ x ∈ l, x ∈ z.members) : l.length ≤ z.zcard := by
  rw [← length_members]
  exact (List.subperm_of_subset hl h).length_le

/-! ### Sets whose members are their own scores

The shape a log of instants has: every instant is stored under itself. -/

/-- Every member is its own score. -/
def Diagonal (z : SortedSet S S) : Prop := ∀ e ∈ z.entries, e.1 = e.2

theorem diagonal_empty : Diagonal (empty : SortedSet S S) := fun _ h ↦ absurd h List.not_mem_nil

theorem Diagonal.zadd [DecidableEq S] {z : SortedSet S S} (hz : z.Diagonal) (s : S) :
    (z.zadd s s).Diagonal := by
  intro e he
  rcases List.mem_cons.1 he with rfl | he
  · rfl
  · exact hz e (List.mem_filter.1 he).1

theorem Diagonal.filter {z : SortedSet S S} (hz : z.Diagonal) (p : S × S → Bool) :
    (z.filter p).Diagonal :=
  fun e he ↦ hz e (List.mem_filter.1 he).1

theorem Diagonal.mem_members_zremrangebyscore [LinearOrder S] {z : SortedSet S S}
    (hz : z.Diagonal) {lo hi x : S} :
    x ∈ (z.zremrangebyscore lo hi).members ↔ x ∈ z.members ∧ ¬(lo ≤ x ∧ x ≤ hi) := by
  simp only [members, zremrangebyscore, SortedSet.filter, List.mem_map, List.mem_filter,
    Bool.not_eq_true', Bool.and_eq_false_iff, decide_eq_false_iff_not]
  constructor
  · rintro ⟨e, ⟨he, h⟩, rfl⟩
    rw [hz e he] at *
    exact ⟨⟨e, he, hz e he⟩, by tauto⟩
  · rintro ⟨⟨e, he, rfl⟩, h⟩
    refine ⟨e, ⟨he, ?_⟩, rfl⟩
    rw [hz e he] at h
    tauto

/-- The entry of lowest score is a member under its own score, and no member comes before it. -/
theorem Diagonal.lowest_spec [LinearOrder S] {z : SortedSet S S} (hz : z.Diagonal) {e : S × S}
    (h : z.lowest = some e) : e.2 ∈ z.members ∧ ∀ x ∈ z.members, e.2 ≤ x := by
  obtain ⟨hmem, hmin, -⟩ := List.mem_argmin_iff.1 h
  refine ⟨List.mem_map.2 ⟨e, hmem, hz e hmem⟩, fun x hx ↦ ?_⟩
  obtain ⟨e', he', rfl⟩ := List.mem_map.1 hx
  rw [hz e' he']
  exact hmin e' he'

theorem exists_lowest [Preorder S] [DecidableLT S] {z : SortedSet M S} (h : 0 < z.zcard) :
    ∃ e, z.lowest = some e := by
  refine Option.ne_none_iff_exists'.1 fun hnone ↦ ?_
  rw [lowest, List.argmin_eq_none] at hnone
  rw [zcard, hnone] at h
  exact lt_irrefl 0 h

end SortedSet
