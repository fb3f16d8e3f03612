import DjangoWaf.Forms.Replay
import DjangoWaf.Lib.BoundedQueue

/-!
# The replay stash of a session

What `store_in_session` and `discard_from_session` make of one session, call after call. A stash of
six records loses the oldest: the records are sorted by `stored_at`, in **whole seconds**, and all
but the last five go. Records of one second keep the order of the dictionary, which is the order of
storing, as long as the clock does not run back and no key is drawn twice.

So the stash is a queue of five records (`sessionAfter_eq`), and what is known of such queues is
known of it.
-/

namespace DjangoWaf

open BoundedQueue

/-! ### Calls -/

/-- A call that changes the stash of a session. -/
inductive StashCall
  /-- `store_in_session`, with the key it draws and the second it reads. -/
  | store (formId postUrl : String) (data : Submitted) (key : String) (time : ℤ)
  /-- `discard_from_session`. -/
  | discard (sessionKey : String)

/-- The item `store_in_session` adds. -/
def stashItem (formId postUrl : String) (data : Submitted) (key : String) (time : ℤ) :
    String × ReplayRecord :=
  (key, ⟨formId, postUrl, filterSensitiveFields data, time⟩)

/-- What a call adds. -/
def StashCall.items : StashCall → Stash
  | store formId postUrl data key time => [stashItem formId postUrl data key time]
  | discard _ => []

/-- The session after a call. -/
def StashCall.after (session : Option Stash) : StashCall → Option Stash
  | store formId postUrl data key time =>
    (storeInSession session formId postUrl data key time).map Prod.snd
  | discard sessionKey => discardFromSession session sessionKey

/-- A session after some calls. It starts without a stash. -/
def sessionAfter (calls : List StashCall) : Option Stash := calls.foldl StashCall.after (some [])

/-- All that some calls add, in their order. -/
def storedItems (calls : List StashCall) : Stash := calls.flatMap StashCall.items

/-- The calls draw a new key each, and the clock they read does not run back. -/
structure Orderly (calls : List StashCall) : Prop where
  keys : ((storedItems calls).map Prod.fst).Nodup
  clock : (storedItems calls).Pairwise fun p p' ↦ p.2.storedAt ≤ p'.2.storedAt

instance : DecidablePred Orderly := fun calls ↦
  decidable_of_iff (((storedItems calls).map Prod.fst).Nodup ∧
      (storedItems calls).Pairwise fun p p' ↦ p.2.storedAt ≤ p'.2.storedAt)
    ⟨fun h ↦ ⟨h.1, h.2⟩, fun h ↦ ⟨h.keys, h.clock⟩⟩

/-- One record was stored before another. -/
def StoredBefore (calls : List StashCall) (p p' : String × ReplayRecord) : Prop :=
  [p, p'].Sublist (storedItems calls)

/-- What a call is to make of the stash it finds after some calls: a record that is stored comes
last, and a sixth one takes the place of the earliest; a record that is discarded goes. -/
def StashCall.Keeps (calls : List StashCall) (found stash : Stash) : StashCall → Prop
  | store formId postUrl data key time =>
    (found.length < 5 ∧ stash = found ++ [stashItem formId postUrl data key time]) ∨
      ∃ earliest rest, found = earliest :: rest ∧ rest.length + 1 = 5 ∧
        stash = rest ++ [stashItem formId postUrl data key time] ∧
        ∀ p ∈ rest, StoredBefore calls earliest p
  | discard sessionKey => stash = found.filter fun p ↦ p.1 ≠ sessionKey

theorem sessionAfter_concat (calls : List StashCall) (c : StashCall) :
    sessionAfter (calls ++ [c]) = c.after (sessionAfter calls) := by
  rw [sessionAfter, List.foldl_append]
  rfl

theorem storedItems_concat (calls : List StashCall) (c : StashCall) :
    storedItems (calls ++ [c]) = storedItems calls ++ c.items := by
  rw [storedItems, List.flatMap_append, List.flatMap_singleton]
  rfl

theorem Orderly.of_concat {calls : List StashCall} {c : StashCall} (h : Orderly (calls ++ [c])) :
    Orderly calls := by
  have hsub : (storedItems calls).Sublist (storedItems (calls ++ [c])) := by
    rw [storedItems_concat]
    exact List.sublist_append_left _ _
  exact ⟨(hsub.map Prod.fst).nodup h.keys, h.clock.sublist hsub⟩

/-- No sensitive field is stored. -/
theorem isSensitiveField_of_mem_storedItems {calls : List StashCall} {p : String × ReplayRecord}
    (hp : p ∈ storedItems calls) {field : String × Option String} (hfield : field ∈ p.2.data) :
    isSensitiveField field.1 = false := by
  obtain ⟨c, -, hc⟩ := List.mem_flatMap.1 hp
  cases c with
  | store formId postUrl data key time =>
    rw [List.mem_singleton.1 hc] at hfield
    have hkept := (List.mem_filter.1 hfield).2
    rwa [Bool.not_eq_true'] at hkept
  | discard sessionKey => cases hc

/-! ### One store -/

/-- Without the oldest records of a stash that is in order. -/
theorem filter_oldestKeys {stash : Stash} (hkeys : (stash.map Prod.fst).Nodup)
    (hclock : stash.Pairwise fun p p' ↦ p.2.storedAt ≤ p'.2.storedAt) :
    (stash.filter fun p ↦ p.1 ∉ oldestKeys stash) = stash.drop (stash.length - 5) := by
  have hsorted : stash.mergeSort (fun a b ↦ a.2.storedAt ≤ b.2.storedAt) = stash :=
    List.mergeSort_of_pairwise (hclock.imp fun h ↦ decide_eq_true h)
  have holdest : oldestKeys stash = (stash.take (stash.length - 5)).map Prod.fst := by
    show ((stash.mergeSort _).take ((stash.mergeSort _).length - 5)).map Prod.fst = _
    rw [hsorted]
  rw [holdest]
  exact PyDict.filter_keys_not_mem_take hkeys _

/-- **A record is stored as into a queue of five.** -/
theorem storeInSession_eq {stash : Stash} {formId postUrl : String} {data : Submitted}
    {key : String} {time : ℤ} (hlength : stash.length ≤ 5)
    (hkeys : ((stash ++ [stashItem formId postUrl data key time]).map Prod.fst).Nodup)
    (hclock : (stash ++ [stashItem formId postUrl data key time]).Pairwise
      fun p p' ↦ p.2.storedAt ≤ p'.2.storedAt) :
    storeInSession (some stash) formId postUrl data key time =
      some (key, push 5 stash (stashItem formId postUrl data key time)) := by
  have hnew : key ∉ stash.map Prod.fst := by
    rw [List.map_append, List.nodup_append] at hkeys
    exact fun hmem ↦ hkeys.2.2 key hmem key (by simp [stashItem]) rfl
  have hset : PyDict.set stash key ⟨formId, postUrl, filterSensitiveFields data, time⟩ =
      stash ++ [stashItem formId postUrl data key time] := PyDict.set_of_not_mem hnew _
  rw [storeInSession, Option.map_some]
  simp only [hset]
  rw [filter_oldestKeys hkeys hclock, push_eq_drop (by decide) hlength]
  split_ifs with hfull
  · rfl
  · rw [Nat.sub_eq_zero_of_le (not_lt.1 hfull), List.drop_zero]

/-! ### Any number of calls -/

/-- A call, as what happens to a queue of records. -/
def StashCall.event : StashCall → Event (String × ReplayRecord)
  | store formId postUrl data key time => .push (stashItem formId postUrl data key time)
  | discard sessionKey => .remove fun p ↦ p.1 = sessionKey

theorem pushed_map_event (calls : List StashCall) :
    pushed (calls.map StashCall.event) = storedItems calls := by
  induction calls with
  | nil => rfl
  | cons c calls ih =>
    cases c with
    | store formId postUrl data key time => exact congrArg _ ih
    | discard sessionKey => exact ih

/-- What a discarded key leaves. -/
theorem filter_not_eq (found : Stash) (sessionKey : String) :
    (found.filter fun p ↦ !decide (p.1 = sessionKey)) = found.filter fun p ↦ p.1 ≠ sessionKey :=
  List.filter_congr fun _ _ ↦ decide_not.symm

/-- **The stash is a queue of five records.** -/
theorem sessionAfter_eq {calls : List StashCall} (h : Orderly calls) :
    sessionAfter calls = some (run 5 (calls.map StashCall.event)) := by
  induction calls using List.reverseRecOn with
  | nil => rfl
  | append_singleton calls c ih =>
    rw [sessionAfter_concat, ih h.of_concat, List.map_append, List.map_singleton, run_concat]
    cases c with
    | store formId postUrl data key time =>
      -- what is in the stash was stored in this order, so its keys and instants are in order too
      have hsub : (run 5 (calls.map StashCall.event) ++
          [stashItem formId postUrl data key time]).Sublist
            (storedItems (calls ++ [.store formId postUrl data key time])) := by
        rw [storedItems_concat, ← pushed_map_event]
        exact (run_sublist_pushed _).append_right _
      rw [StashCall.after, storeInSession_eq (length_run_le (by decide) _)
        ((hsub.map Prod.fst).nodup h.keys) (h.clock.sublist hsub)]
      rfl
    | discard sessionKey => exact congrArg some (filter_not_eq _ sessionKey).symm

/-- **The replay stash stays small and keeps the newest.** -/
theorem replay_stash_keeps_newest {calls : List StashCall} (h : Orderly calls) :
    ∃ stash, sessionAfter calls = some stash ∧ stash.length ≤ 5 ∧
      (∀ p ∈ stash, ∀ field ∈ p.2.data, isSensitiveField field.1 = false) ∧
      ∀ before c, calls = before ++ [c] →
        ∃ found, sessionAfter before = some found ∧ c.Keeps before found stash := by
  refine ⟨_, sessionAfter_eq h, length_run_le (by decide) _, fun p hp field hfield ↦ ?_, ?_⟩
  · have hstored := (run_sublist_pushed _).subset hp
    rw [pushed_map_event] at hstored
    exact isSensitiveField_of_mem_storedItems hstored hfield
  · rintro before c rfl
    refine ⟨_, sessionAfter_eq h.of_concat, ?_⟩
    rw [List.map_append, List.map_singleton]
    cases c with
    | store formId postUrl data key time =>
      rcases run_concat_push (show 0 < 5 by decide) (before.map StashCall.event)
        (stashItem formId postUrl data key time) with
          hroom | ⟨earliest, rest, hfound, hfull, hrun⟩
      · exact Or.inl hroom
      · refine Or.inr ⟨earliest, rest, hfound, hfull, hrun, fun p hp ↦ ?_⟩
        rw [StoredBefore, ← pushed_map_event]
        exact pair_sublist_pushed hfound hp
    | discard sessionKey =>
      rw [run_concat]
      exact filter_not_eq _ sessionKey

/-- Six submissions flagged within one second, with a look at the second one in between. -/
def busySecond : List StashCall :=
  let store key := .store "login" "/login/" [("next", some "/"), ("password", some "x")] key 1000
  [store "a", store "b", .discard "b", store "c", store "d", store "e", store "f", store "g"]

/-- The first of them makes room for the last. -/
theorem replay_stash_keeps_newest_busy :
    ∃ stash, sessionAfter busySecond = some stash ∧ stash.length ≤ 5 ∧
      (∀ p ∈ stash, ∀ field ∈ p.2.data, isSensitiveField field.1 = false) ∧
      ∀ before c, busySecond = before ++ [c] →
        ∃ found, sessionAfter before = some found ∧ c.Keeps before found stash :=
  replay_stash_keeps_newest (by decide)

example : (run 5 (busySecond.map StashCall.event)).map Prod.fst = ["c", "d", "e", "f", "g"] := by
  decide +kernel

end DjangoWaf
