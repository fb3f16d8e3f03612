import DjangoWaf.Services.RateLimits
import Mathlib.Data.NNRat.Defs

/-!
# Runs of the rate limiter

Sequences of checks for one address against one store. Each check is one or more atomic pipelines,
so a run over any number of workers is the sequence of their checks in the order the store executed
them, and the store's own expiry is the `drop` each call carries.

## The admission bound

`limited_run` carries the library's `Limited` invariant through a run, one limit at a time: a check
leaves the key alone, records and refuses, or records and admits. A breach that returns early
therefore costs nothing, since the later windows are left alone by a call that is not admitted.

## What the count counts

The first window of a run holds exactly the readings of the calls that reached it
(`tracks_first`), and the verify endpoint's set those of all its calls (`tracks_verify`). Readings
are members, so **two calls with one clock reading are one entry**; the count is the number of calls
exactly when the readings inside the window are pairwise distinct.
-/

open SlidingWindow

namespace DjangoWaf

variable (cf : RateLimitConf) (ip : String)

/-- One more call: the store after it, and its result appended to the record. -/
def serveCall (s : RateStore × List (Call × RateLimitResult)) (c : Call) :
    RateStore × List (Call × RateLimitResult) :=
  ((c.check cf ip s.1).2, s.2 ++ [(c, (c.check cf ip s.1).1)])

/-- A run of `check_rate_limit` from an empty store. -/
def rateRun (calls : List Call) : RateStore × List (Call × RateLimitResult) :=
  calls.foldl (serveCall cf ip) (RateStore.empty, [])

/-- The calls of a run that were not reported exceeded. -/
def admitted (calls : List Call) : List Call :=
  ((rateRun cf ip calls).2.filter fun e ↦ !e.2.exceeded).map Prod.fst

/-- The calls of a run that reached the global windows: no path limit stopped them before. -/
def reached (calls : List Call) : List Call :=
  ((rateRun cf ip calls).2.filter fun e ↦ decide (e.2.window ≠ some .path)).map Prod.fst

theorem rateRun_concat (calls : List Call) (c : Call) :
    rateRun cf ip (calls ++ [c]) = serveCall cf ip (rateRun cf ip calls) c := by
  rw [rateRun, rateRun, List.foldl_append]
  rfl

theorem rateRun_concat_store (calls : List Call) (c : Call) :
    (rateRun cf ip (calls ++ [c])).1 = (c.check cf ip (rateRun cf ip calls).1).2 := by
  rw [rateRun_concat, serveCall]

variable {cf ip} {calls : List Call}

/-! ### The admission bound -/

theorem admitted_concat (calls : List Call) (c : Call) :
    admitted cf ip (calls ++ [c]) = admitted cf ip calls ++
      if (c.check cf ip (rateRun cf ip calls).1).1.exceeded = true then [] else [c] := by
  rw [admitted, rateRun_concat, serveCall, List.filter_append, List.map_append, admitted]
  congr 1
  cases h : (c.check cf ip (rateRun cf ip calls).1).1.exceeded <;> simp [h]

/-- Earlier calls of a run whose clock relates each call to the later ones are so related to the
last. -/
theorem now_rel_of_mem {r : ℚ → ℚ → Prop} {c : Call}
    (h : (calls ++ [c]).Pairwise fun a b ↦ r a.now b.now) :
    ∀ x ∈ calls.map Call.now, r x c.now := by
  intro x hx
  obtain ⟨c', hc', rfl⟩ := List.mem_map.1 hx
  exact (List.pairwise_append.1 h).2.2 c' hc' c (List.mem_singleton_self c)

theorem length_within_map {α : Type*} (f : α → ℚ) (w t : ℚ) (l : List α) :
    (within w t (l.map f)).length = (l.filter fun a ↦ decide (t - w < f a ∧ f a ≤ t)).length := by
  rw [within, List.filter_map, List.length_map]
  rfl

/-- **A limit holds what its limiter needs, along every run**, if no call runs another limit on its
key. A call leaves the key alone, or records there and is refused, or records there and is within
the limit. -/
theorem limited_run {l : Limit}
    (hkey : ∀ c : Call, ∀ l' ∈ c.limits cf ip, l'.key = l.key → l' = l) :
    ∀ {calls : List Call}, calls.Pairwise (·.now < ·.now) →
      Limited (l.seconds : ℚ) l.most (calls.map Call.now)
        (((admitted cf ip calls).filter fun c ↦ decide (l ∈ c.limits cf ip)).map Call.now)
        ((rateRun cf ip calls).1 l.key) := by
  intro calls
  induction calls using List.reverseRecOn with
  | nil => exact fun _ ↦ limited_nil _ _
  | append_singleton calls c ih =>
    intro hclock
    have hlt := now_rel_of_mem hclock
    have h := ih (List.pairwise_append.1 hclock).1
    have httl : (l.seconds : ℚ) ≤ l.seconds + ttlBuffer l.name := by simp
    rw [admitted_concat, List.filter_append, rateRun_concat_store, List.map_append,
      List.map_append, List.map_singleton]
    by_cases hl : l ∈ c.limits cf ip
    · rcases c.check_slot (rateRun cf ip calls).1 hl with
        ⟨⟨l₀, hsub, hex⟩, hsame⟩ | ⟨-, hslot⟩
      · rw [if_pos (c.exceeded_of_mem (hsub.subset (by simp)) hex), List.filter_nil, List.map_nil,
          List.append_nil, hsame]
        exact h.skip c.now
      · rw [hslot]
        by_cases hexc : (c.check cf ip (rateRun cf ip calls).1).1.exceeded = true
        · rw [if_pos hexc, List.filter_nil, List.map_nil, List.append_nil]
          exact h.refuse (fun x hx ↦ (hlt x hx).le) httl _
        · have hcount := Limit.count_le fun hex ↦ hexc (c.exceeded_of_mem hl hex)
          rw [if_neg hexc, List.filter_singleton, decide_eq_true hl]
          exact h.admit hlt httl hcount
    · have hother : (if (c.check cf ip (rateRun cf ip calls).1).1.exceeded = true then []
          else [c]).filter (fun c ↦ decide (l ∈ c.limits cf ip)) = [] := by
        split <;> simp [hl]
      have hsame : (c.check cf ip (rateRun cf ip calls).1).2 l.key =
          (rateRun cf ip calls).1 l.key := by
        rw [c.check_eq_checkLimits]
        exact checkLimits_of_ne fun l' hl' hk ↦ hl (hkey c l' hl' hk ▸ hl')
      rw [hother, List.map_nil, List.append_nil, hsame]
      exact h.skip c.now

/-- Every call is charged to every global window. -/
theorem limited_global {nw : WindowName × ℕ} (hnw : nw ∈ windows)
    (hclock : calls.Pairwise (·.now < ·.now)) :
    Limited (nw.2 : ℚ) (cf.threshold nw.1) (calls.map Call.now)
      ((admitted cf ip calls).map Call.now) ((rateRun cf ip calls).1 (.global ip nw.1)) := by
  have hall : (admitted cf ip calls).filter (fun c ↦ decide (globalLimit cf ip nw ∈
      c.limits cf ip)) = admitted cf ip calls := by
    refine List.filter_eq_self.2 fun c _ ↦ decide_eq_true ?_
    exact Call.mem_limits_iff.2 (Or.inr ⟨nw, hnw, rfl⟩)
  have h := limited_run (l := globalLimit cf ip nw)
    (fun _ _ hl hk ↦ Call.eq_globalLimit_of_key hnw hl hk) hclock
  rwa [hall] at h

/-- The admitted calls a configured prefix is charged for. -/
def admittedAt (cf : RateLimitConf) (ip : String) (e : String × PathEntry) (calls : List Call) :
    List Call :=
  (admitted cf ip calls).filter fun c ↦ decide (cf.matchedPrefix c.path c.method = some e)

/-- The calls charged to a configured prefix are those it is the matched one of. -/
theorem limited_path (hinj : Set.InjOn cf.prefixHash {p | p ∈ cf.paths.map Prod.fst})
    {e : String × PathEntry} (he : e ∈ cf.paths) (hclock : calls.Pairwise (·.now < ·.now)) :
    Limited (e.2.windowSeconds : ℚ) e.2.maxRequests (calls.map Call.now)
      ((admittedAt cf ip e calls).map Call.now)
      ((rateRun cf ip calls).1 (.path ip (cf.prefixHash e.1))) := by
  have hcharged : (admitted cf ip calls).filter (fun c ↦ decide (pathLimit cf ip e ∈
      c.limits cf ip)) = admittedAt cf ip e calls := by
    refine List.filter_congr fun c _ ↦ decide_eq_decide.2 ⟨fun hl ↦ ?_, fun hm ↦ ?_⟩
    · exact (Call.eq_pathLimit_of_key hinj he hl rfl).1
    · exact Call.mem_limits_iff.2 (Or.inl ⟨e, hm, rfl⟩)
  have h := limited_run (l := pathLimit cf ip e)
    (fun _ _ hl hk ↦ (Call.eq_pathLimit_of_key hinj he hl hk).2) hclock
  rwa [hcharged] at h

/-- **The admission bound.** However the calls are timed and whatever they ask for, an interval of a
window's length never holds more admitted calls than the window's threshold, and never more admitted
calls charged to one configured prefix than that prefix allows. -/
theorem admission_bound (cf : RateLimitConf) (ip : String)
    (hinj : Set.InjOn cf.prefixHash {p | p ∈ cf.paths.map Prod.fst}) (calls : List Call)
    (hclock : calls.Pairwise (·.now < ·.now)) (t : ℚ) :
    (∀ nw ∈ windows, ((admitted cf ip calls).filter fun c ↦
        decide (t - nw.2 < c.now ∧ c.now ≤ t)).length ≤ cf.threshold nw.1) ∧
      ∀ e ∈ cf.paths, ((admittedAt cf ip e calls).filter fun c ↦
        decide (t - e.2.windowSeconds < c.now ∧ c.now ≤ t)).length ≤ e.2.maxRequests := by
  refine ⟨fun nw hnw ↦ ?_, fun e he ↦ ?_⟩
  · rw [← length_within_map]
    exact (limited_global hnw hclock).bound t
  · rw [← length_within_map]
    exact (limited_path hinj he hclock).bound t

/-- Two prefixes, under the digests SHA-1 gives them. -/
def loginConf : RateLimitConf where
  burst := 2
  perMinute := 3
  per5min := 3
  paths := [("/", ⟨3, 60, none⟩), ("/login/", ⟨1, 10, some ["post"]⟩)]
  paths_nodup := by decide
  verifyMax := 20
  verifyWindowSeconds := 300
  prefixHash p := if p = "/login/" then "beca565932df" else if p = "/" then "42099b4af021" else ""

theorem admission_bound_login :
    ((admitted loginConf "192.0.2.1"
        [⟨1, "/login/", "POST", fun _ ↦ false⟩, ⟨2, "/login/", "POST", fun _ ↦ false⟩,
          ⟨3, "/login/", "GET", fun _ ↦ false⟩]).filter fun c ↦
        decide ((4 : ℚ) - (60 : ℕ) < c.now ∧ c.now ≤ 4)).length ≤ 3 :=
  have hinj : ∀ p ∈ loginConf.paths.map Prod.fst, ∀ q ∈ loginConf.paths.map Prod.fst,
      loginConf.prefixHash p = loginConf.prefixHash q → p = q := by decide
  (admission_bound loginConf "192.0.2.1" (fun p hp q hq ↦ hinj p hp q hq)
    [⟨1, "/login/", "POST", fun _ ↦ false⟩, ⟨2, "/login/", "POST", fun _ ↦ false⟩,
      ⟨3, "/login/", "GET", fun _ ↦ false⟩] (by decide +kernel) 4).1 (.min1, 60) (by decide)

/-! ### What the count counts -/

/-- One call of `check_verify_rate_limit` for the address of the run. -/
structure VerifyCall where
  now : ℚ
  /-- Which overdue keys the store has removed by the time of the call. -/
  drop : RateKey → Bool

section Counting

variable (cf : RateLimitConf) (ip : String)

/-- A run of `check_verify_rate_limit` from an empty store. -/
def verifyRun (calls : List VerifyCall) : RateStore :=
  calls.foldl (fun st c ↦ (checkVerifyRateLimit cf c.drop ip st c.now).2) RateStore.empty

/-- The count a verify call compares with its threshold. -/
def verifyCount (st : RateStore) (c : VerifyCall) : ℕ := (verifyWindow cf c.drop ip st c.now).count

/-- The count a call compares with the threshold of the first window, when its path limit lets it
get there. -/
def firstWindowCount (st : RateStore) (c : Call) : Option ℕ :=
  match checkPathRateLimit cf c.drop ip c.path st c.now c.method with
  | (some _, _) => none
  | (none, st') => some (globalWindow c.drop ip st' c.now (.sec1, 1)).count

end Counting

/-- The verify endpoint's set is a faithful record of its calls. -/
theorem tracks_verify (cf : RateLimitConf) (ip : String) :
    ∀ {calls : List VerifyCall}, calls.Pairwise (·.now ≤ ·.now) →
      Tracks (cf.verifyWindowSeconds : ℚ) (calls.map VerifyCall.now)
        (verifyRun cf ip calls (.verify ip)) := by
  intro calls
  induction calls using List.reverseRecOn with
  | nil => exact fun _ ↦ tracks_nil _
  | append_singleton calls c ih =>
    intro hclock
    obtain ⟨hpre, -, hlast⟩ := List.pairwise_append.1 hclock
    have hle : ∀ x ∈ calls.map VerifyCall.now, x ≤ c.now := by
      intro x hx
      obtain ⟨c', hc', rfl⟩ := List.mem_map.1 hx
      exact hlast c' hc' c (List.mem_singleton_self c)
    have hslot : verifyRun cf ip (calls ++ [c]) (.verify ip) =
        (verifyWindow cf c.drop ip (verifyRun cf ip calls) c.now).slot := by
      rw [verifyRun, List.foldl_append]
      show (checkVerifyRateLimit cf c.drop ip (verifyRun cf ip calls) c.now).2 (.verify ip) = _
      rw [checkVerifyRateLimit]
      split <;> exact Function.update_self ..
    rw [hslot, List.map_append, List.map_singleton]
    exact (ih hpre).record hle (by simp) _

theorem firstWindowCount_eq (cf : RateLimitConf) (ip : String) (c : Call) (st : RateStore) :
    firstWindowCount cf ip st c =
      if (c.check cf ip st).1.window = some .path then none
      else some (globalWindow c.drop ip st c.now (.sec1, 1)).count := by
  rw [firstWindowCount, checkPathRateLimit, globalWindow_eq cf]
  rcases hm : cf.matchedPrefix c.path c.method with - | e
  · rw [if_neg (by simp [Call.window_eq_path_iff, hm])]
    rfl
  · have hpath : (c.check cf ip st).1.window = some .path ↔
        (pathWindow cf c.drop ip st c.now e).count > e.2.maxRequests := by
      rw [Call.window_eq_path_iff, hm, pathWindow_eq]
      simp [Limit.exceeded, pathLimit]
    simp only [hpath]
    by_cases hex : (pathWindow cf c.drop ip st c.now e).count > e.2.maxRequests
    · rw [if_pos hex, if_pos hex]
    · rw [if_neg hex, if_neg hex]
      have hne : (globalLimit cf ip (.sec1, 1)).key ≠ (pathLimit cf ip e).key := by
        simp [globalLimit, pathLimit]
      exact congrArg (fun r ↦ some (Recorded.count r)) (Limit.pipeline_update hne _)

/-- What a call does to the first window: nothing when its path limit stops it, and one pipeline
otherwise. -/
theorem Call.check_first (cf : RateLimitConf) (ip : String) (c : Call) (st : RateStore) :
    (firstWindowCount cf ip st c = none ∧ (c.check cf ip st).1.window = some .path ∧
        (c.check cf ip st).2 (.global ip .sec1) = st (.global ip .sec1)) ∨
      (firstWindowCount cf ip st c = some (globalWindow c.drop ip st c.now (.sec1, 1)).count ∧
        (c.check cf ip st).1.window ≠ some .path ∧
        (c.check cf ip st).2 (.global ip .sec1) =
          (globalWindow c.drop ip st c.now (.sec1, 1)).slot) := by
  have hl : globalLimit cf ip (.sec1, 1) ∈ c.limits cf ip :=
    List.mem_append_right _ (List.mem_map_of_mem (by decide))
  rw [firstWindowCount_eq, globalWindow_eq cf]
  rcases c.check_slot st hl with ⟨⟨l₀, hsub, hex⟩, hslot⟩ | ⟨hno, hslot⟩
  · obtain ⟨e, he, rfl⟩ := Call.before_first_iff.1 hsub
    have hwin := (c.window_eq_path_iff st).2 ⟨e, he, hex⟩
    exact Or.inl ⟨if_pos hwin, hwin, hslot⟩
  · have hwin : ¬(c.check cf ip st).1.window = some .path := by
      rw [Call.window_eq_path_iff]
      rintro ⟨e, he, hex⟩
      exact hno _ (Call.before_first_iff.2 ⟨e, he, rfl⟩) hex
    exact Or.inr ⟨if_neg hwin, hwin, hslot⟩

theorem reached_concat (calls : List Call) (c : Call) :
    reached cf ip (calls ++ [c]) = reached cf ip calls ++
      if (c.check cf ip (rateRun cf ip calls).1).1.window = some .path then [] else [c] := by
  rw [reached, rateRun_concat, serveCall, List.filter_append, List.map_append, reached]
  congr 1
  by_cases h : (c.check cf ip (rateRun cf ip calls).1).1.window = some .path <;> simp [h]

theorem map_fst_rateRun (calls : List Call) : (rateRun cf ip calls).2.map Prod.fst = calls := by
  induction calls using List.reverseRecOn with
  | nil => rfl
  | append_singleton calls c ih => rw [rateRun_concat, serveCall, List.map_append, ih]; rfl

theorem reached_sublist (cf : RateLimitConf) (ip : String) (calls : List Call) :
    (reached cf ip calls).Sublist calls := by
  have h := (List.filter_sublist (l := (rateRun cf ip calls).2)
    (p := fun e ↦ decide (e.2.window ≠ some .path))).map Prod.fst
  rwa [map_fst_rateRun] at h

/-- The first window's set is a faithful record of the calls that reached it. -/
theorem tracks_first (cf : RateLimitConf) (ip : String) :
    ∀ {calls : List Call}, calls.Pairwise (·.now ≤ ·.now) →
      Tracks 1 ((reached cf ip calls).map Call.now)
        ((rateRun cf ip calls).1 (.global ip .sec1)) := by
  intro calls
  induction calls using List.reverseRecOn with
  | nil => exact fun _ ↦ tracks_nil _
  | append_singleton calls c ih =>
    intro hclock
    have h := ih (List.pairwise_append.1 hclock).1
    have hle : ∀ x ∈ (reached cf ip calls).map Call.now, x ≤ c.now := fun x hx ↦
      now_rel_of_mem hclock x (((reached_sublist cf ip calls).map Call.now).subset hx)
    rw [reached_concat, rateRun_concat_store]
    rcases c.check_first cf ip (rateRun cf ip calls).1 with ⟨-, hwin, hsame⟩ | ⟨-, hwin, hslot⟩
    · rw [if_pos hwin, List.append_nil, hsame]
      exact h
    · rw [if_neg hwin, hslot, List.map_append, globalWindow, Nat.cast_one]
      exact h.record hle (by simp) _

/-- The calls of a window that reached it are all the calls of the window exactly when each of them
got past its path limit. -/
theorem within_reached_eq_iff {w t : ℚ} (hle : ∀ c ∈ calls, c.now ≤ t) :
    within w t ((reached cf ip calls).map Call.now) = within w t (calls.map Call.now) ↔
      ∀ e ∈ (rateRun cf ip calls).2, t - w < e.1.now → e.2.window ≠ some .path := by
  set log := (rateRun cf ip calls).2 with hlog
  have hcalls : calls = log.map Prod.fst := (map_fst_rateRun calls).symm
  have hsub : (within w t ((reached cf ip calls).map Call.now)).Sublist
      (within w t (calls.map Call.now)) := ((reached_sublist cf ip calls).map Call.now).filter _
  have hlen : (within w t ((reached cf ip calls).map Call.now)).length =
      ((log.filter fun e ↦ decide (t - w < e.1.now ∧ e.1.now ≤ t)).filter
        fun e ↦ decide (e.2.window ≠ some .path)).length := by
    rw [reached, ← hlog, List.map_map, length_within_map, List.filter_filter, List.filter_filter]
    simp only [Bool.and_comm, Function.comp]
  have hlen' : (within w t (calls.map Call.now)).length =
      (log.filter fun e ↦ decide (t - w < e.1.now ∧ e.1.now ≤ t)).length := by
    rw [hcalls, List.map_map, length_within_map]
    rfl
  have hall : ((log.filter fun e ↦ decide (t - w < e.1.now ∧ e.1.now ≤ t)).filter
      fun e ↦ decide (e.2.window ≠ some .path)).length =
        (log.filter fun e ↦ decide (t - w < e.1.now ∧ e.1.now ≤ t)).length ↔
      ∀ e ∈ log, t - w < e.1.now → e.2.window ≠ some .path := by
    rw [List.length_filter_eq_length_iff]
    simp only [List.mem_filter, decide_eq_true_eq]
    constructor
    · intro h e he hlt
      exact h e ⟨he, hlt, hle e.1 (hcalls ▸ List.mem_map_of_mem he)⟩
    · exact fun h e he ↦ h e he.1 he.2.1
  rw [← hall, ← hlen, ← hlen']
  exact ⟨congrArg List.length, hsub.eq_of_length⟩

/-- **When the limiters count every call.** At every call of a run with a clock that never runs
backwards, the count compared with the threshold is the number of calls in the window exactly when
no two of those calls read the same instant; for the first window of `check_rate_limit`, which a
path breach returns before, exactly when moreover no path limit stopped one of them. -/
theorem count_eq_calls_iff (cf : RateLimitConf) (ip : String) :
    (∀ (calls : List VerifyCall) (c : VerifyCall), (calls ++ [c]).Pairwise (·.now ≤ ·.now) →
      (∀ c' ∈ calls ++ [c], 0 ≤ c'.now) →
      (verifyCount cf ip (verifyRun cf ip calls) c =
          (within (cf.verifyWindowSeconds : ℚ) c.now ((calls ++ [c]).map VerifyCall.now)).length ↔
        (within (cf.verifyWindowSeconds : ℚ) c.now ((calls ++ [c]).map VerifyCall.now)).Nodup)) ∧
    ∀ (calls : List Call) (c : Call) (n : ℕ), (calls ++ [c]).Pairwise (·.now ≤ ·.now) →
      (∀ c' ∈ calls ++ [c], 0 ≤ c'.now) →
      firstWindowCount cf ip (rateRun cf ip calls).1 c = some n →
      (n = (within 1 c.now ((calls ++ [c]).map Call.now)).length ↔
        (within 1 c.now ((calls ++ [c]).map Call.now)).Nodup ∧
          ∀ e ∈ (rateRun cf ip calls).2, c.now - 1 < e.1.now → e.2.window ≠ some .path) := by
  refine ⟨fun calls c hclock hpos ↦ ?_, fun calls c n hclock hpos hn ↦ ?_⟩
  · obtain ⟨hpre, -, hlast⟩ := List.pairwise_append.1 hclock
    have hle : ∀ x ∈ calls.map VerifyCall.now, x ≤ c.now := by
      intro x hx
      obtain ⟨c', hc', rfl⟩ := List.mem_map.1 hx
      exact hlast c' hc' c (List.mem_singleton_self c)
    have hpos' : ∀ x ∈ calls.map VerifyCall.now ++ [c.now], 0 ≤ x := by
      intro x hx
      rw [← List.map_singleton, ← List.map_append] at hx
      obtain ⟨c', hc', rfl⟩ := List.mem_map.1 hx
      exact hpos c' hc'
    rw [List.map_append, List.map_singleton]
    exact ((tracks_verify cf ip hpre).count_record_eq_length_iff hle hpos'
      (List.Sublist.refl _)).trans (and_iff_left rfl)
  · obtain ⟨hpre, -, hlast⟩ := List.pairwise_append.1 hclock
    have hle : ∀ c' ∈ calls, c'.now ≤ c.now := fun c' hc' ↦
      hlast c' hc' c (List.mem_singleton_self c)
    have hsub := (reached_sublist cf ip calls).map Call.now
    have hle' : ∀ x ∈ (reached cf ip calls).map Call.now, x ≤ c.now := fun x hx ↦
      now_rel_of_mem hclock x (hsub.subset hx)
    have hpos' : ∀ x ∈ (reached cf ip calls).map Call.now ++ [c.now], 0 ≤ x := by
      intro x hx
      have hx' : x ∈ (calls ++ [c]).map Call.now := by
        rw [List.map_append]
        exact (hsub.append_right _).subset hx
      obtain ⟨c', hc', rfl⟩ := List.mem_map.1 hx'
      exact hpos c' hc'
    have hcount : n = (globalWindow c.drop ip (rateRun cf ip calls).1 c.now (.sec1, 1)).count := by
      rcases c.check_first cf ip (rateRun cf ip calls).1 with ⟨hnone, -⟩ | ⟨hsome, -⟩
      · rw [hnone] at hn
        cases hn
      · rw [hsome] at hn
        exact (Option.some.inj hn).symm
    rw [hcount, globalWindow, Nat.cast_one, List.map_append, List.map_singleton,
      ← within_reached_eq_iff hle]
    refine ((tracks_first cf ip hpre).count_record_eq_length_iff hle' hpos'
      (within_sublist 1 c.now (hsub.append_right [c.now]))).trans (and_congr_right fun _ ↦ ?_)
    rw [within_append, within_append, List.append_left_inj]

theorem count_eq_calls_spaced :
    verifyCount loginConf "192.0.2.1" (verifyRun loginConf "192.0.2.1" [⟨5, fun _ ↦ false⟩])
        ⟨6, fun _ ↦ false⟩ = 2 ∧
      firstWindowCount loginConf "192.0.2.1"
        (rateRun loginConf "192.0.2.1" [⟨5, "", "GET", fun _ ↦ false⟩]).1
        ⟨11 / 2, "", "GET", fun _ ↦ false⟩ = some 2 := by
  obtain ⟨hverify, hfirst⟩ := count_eq_calls_iff loginConf "192.0.2.1"
  refine ⟨((hverify [⟨5, fun _ ↦ false⟩] ⟨6, fun _ ↦ false⟩ (by decide +kernel)
    (by decide +kernel)).2 (by decide +kernel)).trans (by decide +kernel), ?_⟩
  have hn : firstWindowCount loginConf "192.0.2.1"
      (rateRun loginConf "192.0.2.1" [⟨5, "", "GET", fun _ ↦ false⟩]).1
      ⟨11 / 2, "", "GET", fun _ ↦ false⟩ =
        some (globalWindow (fun _ ↦ false) "192.0.2.1"
          (rateRun loginConf "192.0.2.1" [⟨5, "", "GET", fun _ ↦ false⟩]).1 (11 / 2)
          (.sec1, 1)).count := rfl
  rw [hn]
  have hcount := (hfirst [⟨5, "", "GET", fun _ ↦ false⟩] ⟨11 / 2, "", "GET", fun _ ↦ false⟩ _
    (by decide +kernel) (by decide +kernel) hn).2 (by decide +kernel)
  exact congrArg some (hcount.trans (by decide +kernel))

/-- Two calls that read one instant are counted once, by either limiter. -/
theorem count_ne_calls_same_instant :
    verifyCount loginConf "192.0.2.1" (verifyRun loginConf "192.0.2.1" [⟨5, fun _ ↦ false⟩])
        ⟨5, fun _ ↦ false⟩ ≠
      (within (loginConf.verifyWindowSeconds : ℚ) 5
        (([⟨5, fun _ ↦ false⟩, ⟨5, fun _ ↦ false⟩] : List VerifyCall).map VerifyCall.now)).length ∧
    firstWindowCount loginConf "192.0.2.1"
        (rateRun loginConf "192.0.2.1" [⟨5, "", "GET", fun _ ↦ false⟩]).1
        ⟨5, "", "GET", fun _ ↦ false⟩ ≠
      some (within 1 5 (([⟨5, "", "GET", fun _ ↦ false⟩, ⟨5, "", "GET", fun _ ↦ false⟩] :
        List Call).map Call.now)).length := by
  decide +kernel

end DjangoWaf
