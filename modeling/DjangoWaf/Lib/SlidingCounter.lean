import DjangoWaf.Lib.KeySpace
import Mathlib.Data.List.Basic

/-!
# Counters that forget when nothing happens

The pair `INCR`, `EXPIRE` on one key counts events and starts again once none has come for a whole
lifetime. `Counts ttl bound exactly ts c` relates such a cell `c` to the instants `ts` of the events
counted since it was last cleared: the cell holds at least their number and lives on for `ttl` after
the last one. A cell that was clear when the counting began holds their number exactly, and never
more than `bound` when events stop being let through at `bound`.

* `Counts.count` reads the cell, at an instant the last event still keeps alive.
* `Counts.incr` is the step of one more event.
-/

namespace SlidingCounter

variable {T : Type*} [Add T]

/-- The cell of a counter that saw exactly these events. -/
def cell (ttl : T) (ts : List T) : Option (TtlCell T ℕ) :=
  ts.getLast?.map fun t ↦ ⟨ts.length, some (t + ttl)⟩

/-- A cell has counted the events at the given instants, and nothing else when `exactly` holds. -/
structure Counts (ttl : T) (bound : ℕ) (exactly : Prop) (ts : List T) (c : Option (TtlCell T ℕ)) :
    Prop where
  atLeast : ∀ t ∈ ts.getLast?, ∃ n, ts.length ≤ n ∧ c = some ⟨n, some (t + ttl)⟩
  eq_cell : exactly → c = cell ttl ts ∧ ts.length ≤ bound

variable {ttl : T} {bound : ℕ} {exactly : Prop} {ts : List T}

/-- Before the first event, any cell will do, and a clear one has counted exactly. -/
theorem Counts.start {c : Option (TtlCell T ℕ)} (h : exactly → c = none) :
    Counts ttl bound exactly [] c :=
  ⟨nofun, fun hex ↦ ⟨h hex, Nat.zero_le bound⟩⟩

theorem Counts.imp {exactly' : Prop} {c : Option (TtlCell T ℕ)} (h : Counts ttl bound exactly ts c)
    (himp : exactly' → exactly) : Counts ttl bound exactly' ts c :=
  ⟨h.atLeast, fun h' ↦ h.eq_cell (himp h')⟩

variable {K : Type*} [LinearOrder T] {s : KeySpace K T ℕ} {k : K} {t : T}

/-- **Reading a counter** that its last event still keeps alive. -/
theorem Counts.count (h : Counts ttl bound exactly ts (s.cell k))
    (ht : ∀ u ∈ ts.getLast?, t < u + ttl) :
    ts.length ≤ (s.get t k).getD 0 ∧ (exactly → (s.get t k).getD 0 = ts.length) := by
  rcases hlast : ts.getLast? with - | u
  · obtain rfl := List.getLast?_eq_none_iff.1 hlast
    refine ⟨Nat.zero_le _, fun hex ↦ ?_⟩
    rw [KeySpace.get_of_cell_none (h.eq_cell hex).1]
    rfl
  · obtain ⟨n, hn, hcell⟩ := h.atLeast u hlast
    have hget : s.get t k = some n :=
      KeySpace.get_eq_some_iff.2 ⟨_, hcell, TtlCell.live_some.2 (ht u hlast), rfl⟩
    rw [hget]
    refine ⟨hn, fun hex ↦ ?_⟩
    have heq := (h.eq_cell hex).1
    rw [hcell, cell, hlast] at heq
    exact congrArg TtlCell.value (Option.some.inj heq)

/-- **One more event**, let through below the bound. -/
theorem Counts.incr (h : Counts ttl bound exactly ts (s.cell k))
    (ht : ∀ u ∈ ts.getLast?, t < u + ttl) (hlt : (s.get t k).getD 0 < bound) :
    Counts ttl bound exactly (ts ++ [t]) (some ⟨(s.get t k).getD 0 + 1, some (t + ttl)⟩) := by
  obtain ⟨hle, heq⟩ := h.count ht
  have hlen : (ts ++ [t]).length = ts.length + 1 := by simp
  have hlast : (ts ++ [t]).getLast? = some t := by simp
  refine ⟨fun u hu ↦ ?_, fun hex ↦ ?_⟩
  · rw [hlast] at hu
    obtain rfl := Option.some.inj hu
    exact ⟨_, by omega, rfl⟩
  · rw [cell, hlast, hlen, heq hex]
    have := heq hex
    exact ⟨rfl, by omega⟩

end SlidingCounter
