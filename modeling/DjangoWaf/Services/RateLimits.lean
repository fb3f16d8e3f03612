import DjangoWaf.Lib.FirstMatch
import DjangoWaf.Services.RateLimiter
import Mathlib.Data.List.Find
import Mathlib.Data.Set.Function

/-!
# One call, one list of limits

A call of `check_rate_limit` runs a list of limits (`Call.limits`): that of the configured prefix it
matches, if it matches one, and then the three global windows. Each keeps a set of its own, so what
a limit answers depends on the store the call found and not on the limits before it:

* the result is that of the **first** limit the call exceeds (`Call.check_fst`);
* a set records the call **unless a limit before it is exceeded** (`Call.check_slot`).

What is said of calls and their runs rests on these two, and the path check and the loop over the
windows are not looked into again.
-/

open SlidingWindow

namespace DjangoWaf

/-- One call of `check_rate_limit` for the address of the run. -/
structure Call where
  now : ℚ
  path : String
  method : String
  /-- Which overdue keys the store has removed by the time of the call. -/
  drop : RateKey → Bool

/-- `check_rate_limit` as this call makes it. -/
def Call.check (cf : RateLimitConf) (ip : String) (c : Call) (st : RateStore) :
    RateLimitResult × RateStore :=
  checkRateLimit cf c.drop ip st c.now c.path c.method

variable {cf : RateLimitConf} {ip : String}

/-! ### Limits -/

/-- A limit a call is checked against: under its key, no more than `most` instants in the last
`seconds`. -/
structure Limit where
  name : WindowName
  key : RateKey
  seconds : ℕ
  most : ℕ
  deriving DecidableEq, Repr

section Limits

variable (cf : RateLimitConf) (ip : String)

/-- The limit of a configured prefix. -/
def pathLimit (e : String × PathEntry) : Limit :=
  ⟨.path, .path ip (cf.prefixHash e.1), e.2.windowSeconds, e.2.maxRequests⟩

/-- The limit of a global window. -/
def globalLimit (nw : WindowName × ℕ) : Limit :=
  ⟨nw.1, .global ip nw.1, nw.2, cf.threshold nw.1⟩

/-- The limits a call is checked against, in the order they are checked. -/
def Call.limits (c : Call) : List Limit :=
  ((cf.matchedPrefix c.path c.method).map (pathLimit cf ip)).toList ++
    windows.map (globalLimit cf ip)

end Limits

/-- The pipeline of a limit. -/
def Limit.pipeline (l : Limit) (c : Call) (st : RateStore) : Recorded ℚ :=
  record c.now l.seconds (l.seconds + ttlBuffer l.name) (c.drop l.key) (st l.key)

/-- The pipeline counts more than the limit allows. -/
def Limit.exceeded (l : Limit) (c : Call) (st : RateStore) : Bool :=
  decide ((l.pipeline c st).count > l.most)

/-- What the call is answered when the limit is exceeded. -/
def Limit.refusal (l : Limit) (c : Call) (st : RateStore) : RateLimitResult :=
  ⟨true, some l.name, some (retryAfterFromOldest (l.pipeline c st).oldest l.seconds c.now)⟩

/-- The limits one after the other, up to the first that is exceeded. -/
def checkLimits (c : Call) : List Limit → RateStore → RateLimitResult × RateStore
  | [], st => (.notExceeded, st)
  | l :: rest, st =>
    let st' := Function.update st l.key (l.pipeline c st).slot
    if l.exceeded c st then (l.refusal c st, st') else checkLimits c rest st'

variable {c : Call} {st : RateStore}

/-! ### A call runs its limits -/

theorem pathWindow_eq (e : String × PathEntry) :
    pathWindow cf c.drop ip st c.now e = (pathLimit cf ip e).pipeline c st := by
  simp [pathWindow, Limit.pipeline, pathLimit, ttlBuffer]

theorem globalWindow_eq (cf : RateLimitConf) (nw : WindowName × ℕ) :
    globalWindow c.drop ip st c.now nw = (globalLimit cf ip nw).pipeline c st := rfl

theorem checkWindows_eq (ws : List (WindowName × ℕ)) :
    checkWindows cf c.drop ip c.now ws st = checkLimits c (ws.map (globalLimit cf ip)) st := by
  induction ws generalizing st with
  | nil => rfl
  | cons nw rest ih =>
    rw [checkWindows, List.map_cons, checkLimits, ih]
    simp only [Limit.exceeded, decide_eq_true_eq]
    rfl

/-- **A call is checked against its limits in order**, and answered by the first it exceeds. -/
theorem Call.check_eq_checkLimits (c : Call) (st : RateStore) :
    c.check cf ip st = checkLimits c (c.limits cf ip) st := by
  rw [Call.check, checkRateLimit, checkPathRateLimit, Call.limits]
  rcases cf.matchedPrefix c.path c.method with - | e
  · exact checkWindows_eq windows
  · simp only [Option.map_some, Option.toList_some, List.singleton_append, checkLimits,
      pathWindow_eq, Limit.exceeded, decide_eq_true_eq]
    by_cases hc : ((pathLimit cf ip e).pipeline c st).count > e.2.maxRequests
    · rw [if_pos hc]
      exact (if_pos hc).symm
    · rw [if_neg hc]
      exact (checkWindows_eq windows).trans (if_neg hc).symm

/-- The limits of one call have a set each. -/
theorem Call.limits_key_nodup (c : Call) : ((c.limits cf ip).map Limit.key).Nodup := by
  rw [Call.limits]
  rcases cf.matchedPrefix c.path c.method with - | e <;>
    simp [windows, globalLimit, pathLimit]

/-- The limits of one call have a name each. -/
theorem Call.limits_name_nodup (c : Call) : ((c.limits cf ip).map Limit.name).Nodup := by
  rw [Call.limits]
  rcases cf.matchedPrefix c.path c.method with - | e <;>
    simp [windows, globalLimit, pathLimit]

theorem Call.limits_nodup (c : Call) : (c.limits cf ip).Nodup :=
  List.Nodup.of_map Limit.key c.limits_key_nodup

theorem Limit.pipeline_update {l l' : Limit} (h : l'.key ≠ l.key) (x : Slot ℚ) :
    l'.pipeline c (Function.update st l.key x) = l'.pipeline c st := by
  rw [Limit.pipeline, Limit.pipeline, Function.update_of_ne h]

/-- Past a limit that is not exceeded, the other limits find what they would have found. -/
theorem checkLimits_cons {l : Limit} {rest : List Limit} (hkey : l.key ∉ rest.map Limit.key)
    (hl : ¬l.exceeded c st = true) :
    ∃ st', checkLimits c (l :: rest) st = checkLimits c rest st' ∧
      st' l.key = (l.pipeline c st).slot ∧
      ∀ l' ∈ rest, st' l'.key = st l'.key ∧ l'.pipeline c st' = l'.pipeline c st := by
  refine ⟨Function.update st l.key (l.pipeline c st).slot, ?_, Function.update_self .., ?_⟩
  · rw [checkLimits, if_neg hl]
  · intro l' hl'
    have hne : l'.key ≠ l.key := fun h ↦ hkey (h ▸ List.mem_map_of_mem hl')
    exact ⟨Function.update_of_ne hne _ _, Limit.pipeline_update hne _⟩

/-- Limits leave the sets of other keys alone. -/
theorem checkLimits_of_ne {k : RateKey} {ls : List Limit} (h : ∀ l ∈ ls, l.key ≠ k) :
    (checkLimits c ls st).2 k = st k := by
  induction ls generalizing st with
  | nil => rfl
  | cons l rest ih =>
    have hk : k ≠ l.key := (h l List.mem_cons_self).symm
    rw [checkLimits]
    split
    · exact Function.update_of_ne hk _ _
    · rw [ih fun l' hl' ↦ h l' (List.mem_cons_of_mem l hl')]
      exact Function.update_of_ne hk _ _

/-- Limits with a set each: the answer is that of the first limit the store exceeds. -/
theorem checkLimits_fst {ls : List Limit} (hnd : (ls.map Limit.key).Nodup) :
    (ls.find? (·.exceeded c st) = none ∧ (checkLimits c ls st).1 = .notExceeded) ∨
      ∃ l, ls.find? (·.exceeded c st) = some l ∧ (checkLimits c ls st).1 = l.refusal c st := by
  induction ls generalizing st with
  | nil => exact Or.inl ⟨rfl, rfl⟩
  | cons l rest ih =>
    rw [List.map_cons, List.nodup_cons] at hnd
    by_cases hl : l.exceeded c st = true
    · refine Or.inr ⟨l, List.find?_cons_of_pos hl, ?_⟩
      rw [checkLimits, if_pos hl]
    · obtain ⟨st', hrun, -, hrest⟩ := checkLimits_cons hnd.1 hl
      have hfind : rest.find? (·.exceeded c st') = rest.find? (·.exceeded c st) := by
        refine List.find?_congr fun l' hl' ↦ ?_
        rw [Limit.exceeded, Limit.exceeded, (hrest l' hl').2]
      rw [List.find?_cons_of_neg (p := fun l : Limit ↦ l.exceeded c st) hl, hrun, ← hfind]
      rcases @ih st' hnd.2 with h | ⟨l', hf, hres⟩
      · exact Or.inl h
      · refine Or.inr ⟨l', hf, ?_⟩
        rw [hres, Limit.refusal, Limit.refusal, (hrest l' (List.mem_of_find?_eq_some hf)).2]

/-- Limits with a set each: a limit records the call unless one before it is exceeded. -/
theorem checkLimits_slot {ls : List Limit} (hnd : (ls.map Limit.key).Nodup) {l : Limit}
    (hl : l ∈ ls) :
    ((∃ l₀, [l₀, l].Sublist ls ∧ l₀.exceeded c st = true) ∧
        (checkLimits c ls st).2 l.key = st l.key) ∨
      ((∀ l₀, [l₀, l].Sublist ls → ¬l₀.exceeded c st = true) ∧
        (checkLimits c ls st).2 l.key = (l.pipeline c st).slot) := by
  induction ls generalizing st with
  | nil => exact absurd hl List.not_mem_nil
  | cons l₁ rest ih =>
    rw [List.map_cons, List.nodup_cons] at hnd
    by_cases hex : l₁.exceeded c st = true
    · have hrun : (checkLimits c (l₁ :: rest) st).2 =
          Function.update st l₁.key (l₁.pipeline c st).slot := by
        rw [checkLimits, if_pos hex]
      rcases List.mem_cons.1 hl with rfl | hmem
      · refine Or.inr ⟨fun l₀ h ↦ ?_, by rw [hrun, Function.update_self]⟩
        exact absurd h (FirstMatch.not_pair_sublist_head fun h ↦ hnd.1 (List.mem_map_of_mem h))
      · refine Or.inl ⟨⟨l₁, FirstMatch.pair_sublist_cons.2 (Or.inr ⟨rfl, hmem⟩), hex⟩, ?_⟩
        have hne : l.key ≠ l₁.key := fun h ↦ hnd.1 (h ▸ List.mem_map_of_mem hmem)
        rw [hrun, Function.update_of_ne hne]
    · obtain ⟨st', hrun, hself, hrest⟩ := checkLimits_cons hnd.1 hex
      rw [hrun]
      rcases List.mem_cons.1 hl with rfl | hmem
      · refine Or.inr ⟨fun l₀ h ↦ ?_, ?_⟩
        · exact absurd h (FirstMatch.not_pair_sublist_head fun h ↦ hnd.1 (List.mem_map_of_mem h))
        · refine (checkLimits_of_ne fun l' hl' h ↦ ?_).trans hself
          exact hnd.1 (h ▸ List.mem_map_of_mem hl')
      · -- the limits of the tail exceed in `st'` what they exceed in `st`
        have hbefore : ∀ l₀, [l₀, l].Sublist rest →
            l₀.exceeded c st' = l₀.exceeded c st := fun l₀ h ↦ by
          rw [Limit.exceeded, Limit.exceeded, (hrest l₀ (h.subset (by simp))).2]
        rcases @ih st' hnd.2 hmem with ⟨⟨l₀, hsub, hex₀⟩, hslot⟩ | ⟨hno, hslot⟩
        · refine Or.inl ⟨⟨l₀, hsub.cons l₁, ?_⟩, hslot.trans (hrest l hmem).1⟩
          rwa [← hbefore l₀ hsub]
        · refine Or.inr ⟨fun l₀ h ↦ ?_, hslot.trans (congrArg Recorded.slot (hrest l hmem).2)⟩
          rcases FirstMatch.pair_sublist_cons.1 h with h | ⟨rfl, -⟩
          · rw [← hbefore l₀ h]
            exact hno l₀ h
          · exact hex

/-! ### The answer of a call -/

/-- **The answer of a call** is that of the first of its limits the store exceeds. -/
theorem Call.check_fst (cf : RateLimitConf) (ip : String) (c : Call) (st : RateStore) :
    ((c.limits cf ip).find? (·.exceeded c st) = none ∧ (c.check cf ip st).1 = .notExceeded) ∨
      ∃ l, (c.limits cf ip).find? (·.exceeded c st) = some l ∧
        (c.check cf ip st).1 = l.refusal c st := by
  rw [c.check_eq_checkLimits]
  exact checkLimits_fst c.limits_key_nodup

/-- **The set of a limit after a call**: it has recorded the call, unless a limit before it is
exceeded. -/
theorem Call.check_slot (c : Call) (st : RateStore) {l : Limit} (hl : l ∈ c.limits cf ip) :
    ((∃ l₀, [l₀, l].Sublist (c.limits cf ip) ∧ l₀.exceeded c st = true) ∧
        (c.check cf ip st).2 l.key = st l.key) ∨
      ((∀ l₀, [l₀, l].Sublist (c.limits cf ip) → ¬l₀.exceeded c st = true) ∧
        (c.check cf ip st).2 l.key = (l.pipeline c st).slot) := by
  rw [c.check_eq_checkLimits]
  exact checkLimits_slot c.limits_key_nodup hl

theorem Limit.count_le {l : Limit} (h : ¬l.exceeded c st = true) :
    (l.pipeline c st).count ≤ l.most := by
  rwa [Limit.exceeded, decide_eq_true_eq, not_lt] at h

/-- A call that exceeds one of its limits is refused. -/
theorem Call.exceeded_of_mem {l : Limit} (hl : l ∈ c.limits cf ip)
    (hex : l.exceeded c st = true) : (c.check cf ip st).1.exceeded = true := by
  rcases c.check_fst cf ip st with ⟨hf, -⟩ | ⟨l', -, hres⟩
  · exact absurd hex (List.find?_eq_none.1 hf l hl)
  · rw [hres]
    rfl

/-- A call is refused by `W` exactly when its limit of that name is exceeded and none that is
checked before it is. -/
theorem Call.window_eq_some_iff (c : Call) (st : RateStore) (W : WindowName) :
    (c.check cf ip st).1.window = some W ↔
      ∃ l ∈ c.limits cf ip, l.name = W ∧ l.exceeded c st = true ∧
        ∀ l₀, [l₀, l].Sublist (c.limits cf ip) → ¬l₀.exceeded c st = true := by
  have hnd : (c.limits cf ip).Nodup := c.limits_nodup
  rcases c.check_fst cf ip st with ⟨hf, hres⟩ | ⟨l, hf, hres⟩
  · rw [hres]
    refine iff_of_false nofun ?_
    rintro ⟨l, hl, -, hex, -⟩
    exact List.find?_eq_none.1 hf l hl hex
  · rw [hres]
    constructor
    · rintro ⟨⟩
      obtain ⟨hmem, hex, hno⟩ := (FirstMatch.find?_eq_some_iff_sublist hnd).1 hf
      exact ⟨l, hmem, rfl, hex, hno⟩
    · rintro ⟨l', hmem, rfl, hex, hno⟩
      have hf' := (FirstMatch.find?_eq_some_iff_sublist (p := (·.exceeded c st)) hnd).2
        ⟨hmem, hex, hno⟩
      rw [hf] at hf'
      rw [Option.some.inj hf', Limit.refusal]

/-! ### One call, one key -/

theorem Call.mem_limits_iff {l : Limit} : l ∈ c.limits cf ip ↔
    (∃ e, cf.matchedPrefix c.path c.method = some e ∧ l = pathLimit cf ip e) ∨
      ∃ nw ∈ windows, l = globalLimit cf ip nw := by
  rw [Call.limits, List.mem_append, Option.mem_toList, Option.map_eq_some_iff, List.mem_map]
  simp only [@eq_comm Limit l]

theorem mem_paths_of_matchedPrefix {path method : String} {e : String × PathEntry}
    (h : cf.matchedPrefix path method = some e) : e ∈ cf.paths := by
  unfold RateLimitConf.matchedPrefix at h
  split at h
  · cases h
  · have hmem := List.mem_of_find?_eq_some h
    rw [RateLimitConf.candidatePrefixes, List.mem_insertionSort] at hmem
    exact (List.mem_filter.1 hmem).1

/-- No other limit of a call has the key of a global window. -/
theorem Call.eq_globalLimit_of_key {nw : WindowName × ℕ} (hnw : nw ∈ windows) {l : Limit}
    (hl : l ∈ c.limits cf ip) (hkey : l.key = (globalLimit cf ip nw).key) :
    l = globalLimit cf ip nw := by
  rcases Call.mem_limits_iff.1 hl with ⟨e, -, rfl⟩ | ⟨nw', hnw', rfl⟩
  · cases hkey
  · have hname : nw'.1 = nw.1 := (RateKey.global.inj hkey).2
    rw [List.inj_on_of_nodup_map (f := Prod.fst) (l := windows) (by decide) hnw' hnw hname]

/-- When no two prefixes share a key, no other limit of a call has the key of a configured one. -/
theorem Call.eq_pathLimit_of_key (hinj : Set.InjOn cf.prefixHash {p | p ∈ cf.paths.map Prod.fst})
    {e : String × PathEntry} (he : e ∈ cf.paths) {l : Limit} (hl : l ∈ c.limits cf ip)
    (hkey : l.key = (pathLimit cf ip e).key) :
    cf.matchedPrefix c.path c.method = some e ∧ l = pathLimit cf ip e := by
  rcases Call.mem_limits_iff.1 hl with ⟨e', he', rfl⟩ | ⟨nw, -, rfl⟩
  · have hmem' := mem_paths_of_matchedPrefix he'
    have hp : e'.1 = e.1 := hinj (List.mem_map_of_mem hmem') (List.mem_map_of_mem he)
      (RateKey.path.inj hkey).2
    obtain rfl := List.inj_on_of_nodup_map cf.paths_nodup hmem' he hp
    exact ⟨he', rfl⟩
  · cases hkey

/-- A call that matches a prefix is checked against its limit first. -/
theorem Call.limits_of_matchedPrefix {e : String × PathEntry}
    (h : cf.matchedPrefix c.path c.method = some e) :
    c.limits cf ip = pathLimit cf ip e :: windows.map (globalLimit cf ip) := by
  rw [Call.limits, h]
  rfl

theorem Call.not_before_path {e : String × PathEntry}
    (h : cf.matchedPrefix c.path c.method = some e) (l₀ : Limit) :
    ¬[l₀, pathLimit cf ip e].Sublist (c.limits cf ip) := by
  rw [c.limits_of_matchedPrefix h]
  exact FirstMatch.not_pair_sublist_head (by simp [windows, globalLimit, pathLimit])

/-- The one limit before the first window is that of the prefix the call matches. -/
theorem Call.before_first_iff {l₀ : Limit} :
    [l₀, globalLimit cf ip (.sec1, 1)].Sublist (c.limits cf ip) ↔
      ∃ e, cf.matchedPrefix c.path c.method = some e ∧ l₀ = pathLimit cf ip e := by
  have hfirst : ¬[l₀, globalLimit cf ip (.sec1, 1)].Sublist (windows.map (globalLimit cf ip)) :=
    FirstMatch.not_pair_sublist_head (by simp [globalLimit])
  rcases hm : cf.matchedPrefix c.path c.method with - | e
  · have hlimits : c.limits cf ip = windows.map (globalLimit cf ip) := by
      rw [Call.limits, hm]
      rfl
    rw [hlimits]
    exact iff_of_false hfirst (by simp)
  · rw [c.limits_of_matchedPrefix hm, FirstMatch.pair_sublist_cons, or_iff_right hfirst]
    have hmem : globalLimit cf ip (.sec1, 1) ∈ windows.map (globalLimit cf ip) :=
      List.mem_map_of_mem (by decide)
    simp [hmem]

/-- A call is stopped by a path limit exactly when the prefix it matches exceeds it. -/
theorem Call.window_eq_path_iff (c : Call) (st : RateStore) :
    (c.check cf ip st).1.window = some .path ↔
      ∃ e, cf.matchedPrefix c.path c.method = some e ∧
        (pathLimit cf ip e).exceeded c st = true := by
  rw [Call.window_eq_some_iff]
  constructor
  · rintro ⟨l, hl, hname, hex, -⟩
    rcases Call.mem_limits_iff.1 hl with ⟨e, he, rfl⟩ | ⟨nw, hnw, rfl⟩
    · exact ⟨e, he, hex⟩
    · have hnames : ∀ nw ∈ windows, nw.1 ≠ WindowName.path := by decide
      exact absurd hname (hnames nw hnw)
  · rintro ⟨e, he, hex⟩
    refine ⟨pathLimit cf ip e, ?_, rfl, hex, fun l₀ h ↦ absurd h (c.not_before_path he l₀)⟩
    rw [c.limits_of_matchedPrefix he]
    exact List.mem_cons_self

end DjangoWaf
