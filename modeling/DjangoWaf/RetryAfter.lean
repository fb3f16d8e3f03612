import DjangoWaf.Services.RateLimiterRuns
import Mathlib.Tactic.Linarith

/-!
# When a refused client may come back

A refusal carries `retry_after`, the whole seconds until the oldest instant of the set leaves the
window. The refused call was recorded too, and so is the retry: when the oldest instant goes, one
place is free and the retry takes it. So a set that was over its limit is over it again at the
advertised instant, unless more than the oldest has left by then, and that happens only where the
wait was rounded up to its floor of one second. `retry_not_refused_iff` is the exact condition:
**fewer instants than the limit allows in the last `w - 1` seconds** of a window of `w`.
-/

open SlidingWindow

namespace DjangoWaf

variable {cf : RateLimitConf} {ip : String} {c c' : Call} {st : RateStore}

/-! ### What the sets of a run hold -/

/-- Running limits adds the instant of the call to the sets and nothing else. -/
theorem holdsOnly_checkLimits {times : List ℚ} {ls : List Limit} (hnow : c.now ∈ times)
    (h : ∀ k, HoldsOnly times (st k)) (k : RateKey) :
    HoldsOnly times ((checkLimits c ls st).2 k) := by
  induction ls generalizing st with
  | nil => exact h k
  | cons l rest ih =>
    have hst' : ∀ k, HoldsOnly times (Function.update st l.key (l.pipeline c st).slot k) := by
      intro k
      by_cases hk : k = l.key
      · subst hk
        rw [Function.update_self]
        refine ((h l.key).record c.now _ _ _).mono ?_
        exact List.append_subset.2 ⟨List.Subset.refl times, by simpa using hnow⟩
      · rw [Function.update_of_ne hk]
        exact h k
    rw [checkLimits]
    split
    · exact hst' k
    · exact ih hst'

/-- The sets of a run hold instants of its calls only. -/
theorem holdsOnly_rateRun (calls : List Call) (k : RateKey) :
    HoldsOnly (calls.map Call.now) ((rateRun cf ip calls).1 k) := by
  induction calls using List.reverseRecOn generalizing k with
  | nil => exact ⟨fun x hx ↦ (nomatch hx), fun x hx ↦ absurd hx List.not_mem_nil⟩
  | append_singleton calls c ih =>
    rw [rateRun_concat_store, c.check_eq_checkLimits, List.map_append, List.map_singleton]
    refine holdsOnly_checkLimits (by simp) (fun k ↦ (ih k).mono ?_) k
    exact List.subset_append_left _ _

/-! ### The set of a limit at the next call -/

/-- The instants the call finds under the limit's key. -/
def Limit.held (l : Limit) (c : Call) (st : RateStore) : List ℚ :=
  (survives c.now (c.drop l.key) (st l.key)).members

/-- With the call itself, more instants than the limit allows lie in the window that ends at the
call. -/
def Limit.Full (l : Limit) (c : Call) (st : RateStore) : Prop :=
  l.most < (within (l.seconds : ℚ) c.now (c.now :: l.held c st)).length

/-- The instants under the limit's key that are, at `t`, less than `seconds - 1` seconds old: those
that stay in the window for more than a second. -/
def Limit.recent (l : Limit) (st : RateStore) (t : ℚ) : List ℚ :=
  (st l.key).members.filter fun x ↦ decide (t - (l.seconds - 1) < x)

instance (l : Limit) (c : Call) (st : RateStore) : Decidable (l.Full c st) :=
  inferInstanceAs (Decidable (_ < _))

/-- A call later than every call before it exceeds the limits that are full. -/
theorem Limit.exceeded_iff_full {l : Limit} {times : List ℚ} (h : ∀ k, HoldsOnly times (st k))
    (htimes : ∀ x ∈ times, 0 ≤ x ∧ x < c.now) (hnow : 0 ≤ c.now) :
    l.exceeded c st = true ↔ l.Full c st := by
  obtain ⟨hdiag, hsub⟩ := (h l.key).survives c.now (c.drop l.key)
  rw [Limit.exceeded, decide_eq_true_eq, Limit.Full, Limit.held, Limit.pipeline,
    count_record_of_fresh hdiag (fun x hx ↦ htimes x (hsub x hx)) hnow]

theorem ttlBuffer_pos (name : WindowName) : (0 : ℚ) < ttlBuffer name := by
  cases name <;> simp [ttlBuffer]

/-- The advertised wait is at least a second and at most the window, and where it is longer than a
second it does not reach beyond the instant at which the oldest entry leaves. -/
theorem retryAfterFromOldest_spec {e : ℚ × ℚ} {w : ℕ} {now : ℚ} (h : now - w < e.2)
    (h' : e.2 ≤ now) :
    (1 : ℚ) ≤ retryAfterFromOldest (some e) w now ∧
      (retryAfterFromOldest (some e) w now : ℚ) ≤ w ∧
      (retryAfterFromOldest (some e) w now = 1 ∨
        now + retryAfterFromOldest (some e) w now - w ≤ e.2) := by
  have hle := PyStr.truncate_le (q := e.2 + w - now) (by linarith)
  have hw : (0 : ℚ) < w := by linarith
  rw [retryAfterFromOldest]
  rcases le_total (PyStr.truncate (e.2 + w - now)) 1 with h1 | h1
  · rw [max_eq_left h1, Int.cast_one]
    exact ⟨le_rfl, by exact_mod_cast hw, Or.inl rfl⟩
  · rw [max_eq_right h1]
    exact ⟨by exact_mod_cast h1, by linarith, Or.inr (by linarith)⟩

/-- **The set of the limit that refused, at the advertised instant.** It is full again unless fewer
instants than the limit allows were recent when it refused. -/
theorem Limit.full_retry_iff {l : Limit} {st' : RateStore} {times : List ℚ}
    (h : ∀ k, HoldsOnly times (st k)) (htimes : ∀ x ∈ times ++ [c.now], 0 ≤ x ∧ x ≤ c.now)
    (hex : l.exceeded c st = true) (hst' : st' l.key = (l.pipeline c st).slot)
    (hnext : c'.now = c.now + retryAfterFromOldest (l.pipeline c st).oldest l.seconds c.now) :
    l.Full c' st' ↔ l.most ≤ (l.recent st' c.now).length := by
  have hholds := (h l.key).record c.now l.seconds (l.seconds + ttlBuffer l.name) (c.drop l.key)
  have hcut : ∀ x ∈ (l.pipeline c st).slot.members, c.now - l.seconds < x := fun x hx ↦
    (h l.key).lt_of_mem_record (fun y hy ↦ (htimes y hy).1) hx
  obtain ⟨z, hz⟩ := exists_record_eq c.now (l.seconds : ℚ) (l.seconds + ttlBuffer l.name)
    (c.drop l.key) (st l.key)
  change l.pipeline c st = _ at hz
  rw [hz] at hnext hst' hcut
  rw [← Limit.pipeline, hz] at hholds
  have hmem : (st' l.key).members = z.members := by rw [hst']; rfl
  have hle : ∀ x ∈ z.members, x ≤ c.now := fun x hx ↦ (htimes x (hholds.mem_hist x hx)).2
  have hcount : l.most < z.members.length := by
    rw [Limit.exceeded, hz, decide_eq_true_eq] at hex
    rwa [SortedSet.length_members]
  obtain ⟨e, he⟩ := SortedSet.exists_lowest (z := z) (by
    rw [← SortedSet.length_members]
    omega)
  obtain ⟨hemem, hmin⟩ := (hholds.diagonal _ rfl).lowest_spec he
  obtain ⟨hone, hrw, hwait⟩ := retryAfterFromOldest_spec (hcut e.2 hemem) (hle e.2 hemem)
  rw [he] at hnext
  set r := retryAfterFromOldest (some e) l.seconds c.now
  -- the wait ends before the key's lifetime does
  have hheld : l.held c' st' = z.members := by
    rw [Limit.held, hst', survives_of_lt (by linarith [ttlBuffer_pos l.name])]
    rfl
  have hlate : ∀ x ∈ z.members, x ≤ c'.now := fun x hx ↦ by linarith [hle x hx]
  rw [Limit.Full, hheld, length_within_cons (by linarith) hlate, Nat.lt_succ_iff, Limit.recent,
    hmem]
  refine le_length_later_iff z.members_nodup hcount (by linarith) ?_
  rcases hwait with h1 | hwait
  · refine Or.inl ?_
    rw [hnext, h1, Int.cast_one]
    linarith
  · refine Or.inr fun x hx ↦ ?_
    rw [hnext]
    exact hwait.trans (hmin x hx)

/-! ### The next call -/

theorem one_le_retryAfterFromOldest (o : Option (ℚ × ℚ)) (w : ℕ) (now : ℚ) :
    1 ≤ retryAfterFromOldest o w now := by
  rcases o with - | e <;> exact le_max_left _ _

/-- What a refusal says of the limit that refused: it is the limit of that name among those of the
call, it was exceeded, and its set has recorded the call. -/
theorem Call.refused_spec {W : WindowName} {r : ℤ}
    (h : (c.check cf ip st).1 = ⟨true, some W, some r⟩) :
    ∃ l ∈ c.limits cf ip, l.name = W ∧ l.exceeded c st = true ∧
      (c.check cf ip st).2 l.key = (l.pipeline c st).slot ∧
      r = retryAfterFromOldest (l.pipeline c st).oldest l.seconds c.now := by
  rcases c.check_fst cf ip st with ⟨-, hres⟩ | ⟨l, hf, hres⟩
  · rw [hres] at h
    cases h
  · rw [hres, Limit.refusal, RateLimitResult.mk.injEq, Option.some.injEq, Option.some.injEq] at h
    obtain ⟨hl, hex, hno⟩ := (FirstMatch.find?_eq_some_iff_sublist c.limits_nodup).1 hf
    rcases c.check_slot st hl with ⟨⟨l₀, hsub, hex₀⟩, -⟩ | ⟨-, hslot⟩
    · exact absurd hex₀ (hno l₀ hsub)
    · exact ⟨l, hl, h.2.1, hex, hslot, h.2.2.symm⟩

/-- **Whether the advertised wait is enough.** A call at `t` is refused by `W` with `retry_after`
`r`, and the next call comes at `t + r`. It is not refused by `W` again exactly when

* a limit that is checked before its limit of that name is full, or
* its limit of that name is the one that refused, and fewer instants than that limit allows were
  less than `seconds - 1` seconds old at `t`, or
* its limit of that name is that of another prefix, and is not full. -/
theorem retry_not_refused_iff (cf : RateLimitConf) (ip : String) (calls : List Call) (c c' : Call)
    (W : WindowName) (r : ℤ) (hlast : ∀ x ∈ calls, x.now ≤ c.now)
    (hpos : ∀ x ∈ calls ++ [c], 0 ≤ x.now)
    (hres : (c.check cf ip (rateRun cf ip calls).1).1 = ⟨true, some W, some r⟩)
    (hnext : c'.now = c.now + r) :
    (c'.check cf ip (rateRun cf ip (calls ++ [c])).1).1.window ≠ some W ↔
      ∀ l ∈ c'.limits cf ip, l.name = W →
        (∃ l₀, [l₀, l].Sublist (c'.limits cf ip) ∧
            l₀.Full c' (rateRun cf ip (calls ++ [c])).1) ∨
          if l ∈ c.limits cf ip then
            (l.recent (rateRun cf ip (calls ++ [c])).1 c.now).length < l.most
          else ¬l.Full c' (rateRun cf ip (calls ++ [c])).1 := by
  obtain ⟨l₁, hmem₁, hname₁, hex₁, hslot₁, hr⟩ := Call.refused_spec hres
  rw [← rateRun_concat_store] at hslot₁
  set st' := (rateRun cf ip (calls ++ [c])).1
  have hr1 : (1 : ℚ) ≤ r := by
    rw [hr]
    exact_mod_cast one_le_retryAfterFromOldest _ _ _
  have htimes : ∀ x ∈ calls.map Call.now ++ [c.now], 0 ≤ x ∧ x ≤ c.now := by
    intro x hx
    rw [← List.map_singleton, ← List.map_append] at hx
    obtain ⟨y, hy, rfl⟩ := List.mem_map.1 hx
    refine ⟨hpos y hy, ?_⟩
    rcases List.mem_append.1 hy with hy | hy
    · exact hlast y hy
    · rw [List.mem_singleton.1 hy]
  have hfresh : ∀ x ∈ (calls ++ [c]).map Call.now, 0 ≤ x ∧ x < c'.now := by
    intro x hx
    rw [List.map_append, List.map_singleton] at hx
    exact ⟨(htimes x hx).1, by linarith [(htimes x hx).2]⟩
  have hnow' : 0 ≤ c'.now := by linarith [hpos c (by simp)]
  have hfull : ∀ l : Limit, l.exceeded c' st' = true ↔ l.Full c' st' := fun l ↦
    l.exceeded_iff_full (holdsOnly_rateRun (calls ++ [c])) hfresh hnow'
  -- the limit of that name both calls share is the one that refused
  have hself : ∀ l ∈ c.limits cf ip, l.name = W →
      (¬l.Full c' st' ↔ (l.recent st' c.now).length < l.most) := by
    intro l hl hname
    obtain rfl : l = l₁ := List.inj_on_of_nodup_map c.limits_name_nodup hl hmem₁
      (hname.trans hname₁.symm)
    rw [← not_le]
    refine not_congr (l.full_retry_iff (holdsOnly_rateRun calls) htimes hex₁ hslot₁ ?_)
    rw [hnext, hr]
  rw [Ne, Call.window_eq_some_iff]
  simp only [hfull]
  constructor
  · intro h l hl hname
    by_cases hbefore : ∃ l₀, [l₀, l].Sublist (c'.limits cf ip) ∧ l₀.Full c' st'
    · exact Or.inl hbefore
    · have hnot : ¬l.Full c' st' := fun hF ↦
        h ⟨l, hl, hname, hF, fun l₀ hsub hF₀ ↦ hbefore ⟨l₀, hsub, hF₀⟩⟩
      refine Or.inr ?_
      split
      · exact (hself l ‹_› hname).1 hnot
      · exact hnot
  · rintro h ⟨l, hl, hname, hF, hno⟩
    rcases h l hl hname with ⟨l₀, hsub, hF₀⟩ | hcase
    · exact hno l₀ hsub hF₀
    · split at hcase
      · exact (hself l ‹_› hname).2 hcase hF
      · exact hcase hF

/-- A request no path limit is configured for. -/
def getAt (now : ℚ) : Call := ⟨now, "", "GET", fun _ ↦ false⟩

/-- A burst that is refused for a second is let through after it: nothing of the burst is left in a
window of one second. -/
theorem retry_not_refused_burst :
    ((getAt (11 / 2)).check loginConf "192.0.2.1"
        (rateRun loginConf "192.0.2.1" [getAt 5, getAt (21 / 4)]).1).1 =
        ⟨true, some .sec1, some 1⟩ ∧
      ((getAt (13 / 2)).check loginConf "192.0.2.1"
        (rateRun loginConf "192.0.2.1"
          ([getAt 5, getAt (21 / 4)] ++ [getAt (11 / 2)])).1).1.window ≠ some .sec1 := by
  refine ⟨by decide +kernel, (retry_not_refused_iff loginConf "192.0.2.1" _ _ _ .sec1 1
    (by decide +kernel) (by decide +kernel) (by decide +kernel) (by decide +kernel)).2 ?_⟩
  have hfew : ∀ l ∈ (getAt (13 / 2)).limits loginConf "192.0.2.1", l.name = .sec1 →
      l ∈ (getAt (11 / 2)).limits loginConf "192.0.2.1" ∧
        (l.recent (rateRun loginConf "192.0.2.1"
          ([getAt 5, getAt (21 / 4)] ++ [getAt (11 / 2)])).1 (11 / 2)).length < l.most := by
    decide +kernel
  intro l hl hname
  obtain ⟨hshared, hlt⟩ := hfew l hl hname
  refine Or.inr ?_
  rw [if_pos hshared]
  exact hlt

/-- Four calls ten seconds apart against a limit of three a minute. The fourth is told to wait for
the first to leave the window; the three that are left and the retry are four again. -/
theorem retry_refused_again :
    ((getAt 130).check loginConf "192.0.2.1"
        (rateRun loginConf "192.0.2.1" [getAt 100, getAt 110, getAt 120]).1).1 =
        ⟨true, some .min1, some 30⟩ ∧
      ((getAt (130 + 30)).check loginConf "192.0.2.1"
        (rateRun loginConf "192.0.2.1" ([getAt 100, getAt 110, getAt 120] ++ [getAt 130])).1).1 =
        ⟨true, some .min1, some 10⟩ := by
  decide +kernel

end DjangoWaf
