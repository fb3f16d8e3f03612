import Mathlib.Data.List.Basic
import Mathlib.Data.List.Induction

/-!
# Bounded queues

A list that takes its items at the end and gives up the one in front when it would grow over its
capacity. Items can also leave from anywhere in between.

Everything said of a queue after some events rests on one fact: its items stand **in the order in
which they were pushed** (`run_sublist_pushed`). So the item in front is the earliest of those that
are left (`pair_sublist_pushed`), and that is the one a push into a full queue gives up
(`run_concat_push`).
-/

namespace BoundedQueue

variable {α : Type*}

/-- What happens to a queue. -/
inductive Event (α : Type*)
  | push (x : α)
  /-- The items of a kind leave. -/
  | remove (leaves : α → Bool)

/-- Another item at the end, in the place of the first one when the queue is full. -/
def push (capacity : ℕ) (q : List α) (x : α) : List α :=
  (if q.length < capacity then q else q.tail) ++ [x]

/-- One event. -/
def step (capacity : ℕ) (q : List α) : Event α → List α
  | .push x => push capacity q x
  | .remove leaves => q.filter fun x ↦ !leaves x

/-- The queue after some events. -/
def run (capacity : ℕ) (es : List (Event α)) : List α := es.foldl (step capacity) []

/-- The items some events push. -/
def pushed (es : List (Event α)) : List α :=
  es.flatMap fun
    | .push x => [x]
    | .remove _ => []

variable {capacity : ℕ}

@[simp]
theorem run_nil : run capacity ([] : List (Event α)) = [] := rfl

theorem run_concat (es : List (Event α)) (e : Event α) :
    run capacity (es ++ [e]) = step capacity (run capacity es) e := by
  rw [run, List.foldl_append]
  rfl

theorem pushed_concat_push (es : List (Event α)) (x : α) :
    pushed (es ++ [.push x]) = pushed es ++ [x] := by
  rw [pushed, List.flatMap_append]
  rfl

theorem pushed_concat_remove (es : List (Event α)) (leaves : α → Bool) :
    pushed (es ++ [.remove leaves]) = pushed es := by
  rw [pushed, List.flatMap_append]
  exact List.append_nil _

/-! ### One push -/

theorem push_sublist (q : List α) (x : α) : (push capacity q x).Sublist (q ++ [x]) := by
  rw [push]
  split_ifs
  · exact List.Sublist.refl _
  · exact q.tail_sublist.append_right [x]

theorem length_push_le {q : List α} (hcapacity : 0 < capacity) (h : q.length ≤ capacity) (x : α) :
    (push capacity q x).length ≤ capacity := by
  rw [push, List.length_append, List.length_singleton]
  split_ifs
  · omega
  · rw [List.length_tail]
    omega

/-- A push keeps all but as many items in front as would be too many. -/
theorem push_eq_drop {q : List α} (hcapacity : 0 < capacity) (h : q.length ≤ capacity) (x : α) :
    push capacity q x = (q ++ [x]).drop ((q ++ [x]).length - capacity) := by
  rw [push, List.length_append, List.length_singleton]
  split_ifs with hroom
  · rw [Nat.sub_eq_zero_of_le hroom, List.drop_zero]
  · have hfull : q.length + 1 - capacity = 1 := by omega
    have hle : 1 ≤ q.length := by omega
    rw [hfull, List.drop_append_of_le_length hle, List.drop_one]

/-! ### Any number of events -/

/-- **The items stand in the order in which they were pushed.** -/
theorem run_sublist_pushed (es : List (Event α)) : (run capacity es).Sublist (pushed es) := by
  induction es using List.reverseRecOn with
  | nil => exact List.Sublist.refl _
  | append_singleton es e ih =>
    rw [run_concat]
    cases e with
    | push x =>
      rw [pushed_concat_push]
      exact (push_sublist _ x).trans (ih.append_right [x])
    | remove leaves =>
      rw [pushed_concat_remove]
      exact List.filter_sublist.trans ih

theorem length_run_le (hcapacity : 0 < capacity) (es : List (Event α)) :
    (run capacity es).length ≤ capacity := by
  induction es using List.reverseRecOn with
  | nil => exact Nat.zero_le _
  | append_singleton es e ih =>
    rw [run_concat]
    cases e with
    | push x => exact length_push_le hcapacity ih x
    | remove leaves => exact Nat.le_trans (List.length_filter_le _ _) ih

/-- **What is in front was pushed first** among the items that are left. -/
theorem pair_sublist_pushed {es : List (Event α)} {x y : α} {rest : List α}
    (h : run capacity es = x :: rest) (hy : y ∈ rest) : [x, y].Sublist (pushed es) := by
  have hpair : [x, y].Sublist (x :: rest) := (List.singleton_sublist.2 hy).cons_cons x
  exact hpair.trans (h ▸ run_sublist_pushed es)

/-- **A push**, into a queue with room and into a full one. -/
theorem run_concat_push (hcapacity : 0 < capacity) (es : List (Event α)) (x : α) :
    ((run capacity es).length < capacity ∧
        run capacity (es ++ [.push x]) = run capacity es ++ [x]) ∨
      ∃ oldest rest, run capacity es = oldest :: rest ∧ rest.length + 1 = capacity ∧
        run capacity (es ++ [.push x]) = rest ++ [x] := by
  rw [run_concat, step, push]
  split_ifs with hroom
  · exact Or.inl ⟨hroom, rfl⟩
  · have hle := length_run_le hcapacity es
    rcases hq : run capacity es with - | ⟨oldest, rest⟩
    · rw [hq, List.length_nil] at hroom
      exact absurd hcapacity hroom
    · rw [hq, List.length_cons] at hroom hle
      exact Or.inr ⟨oldest, rest, rfl, by omega, rfl⟩

end BoundedQueue
