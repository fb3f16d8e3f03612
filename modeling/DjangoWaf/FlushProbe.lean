import DjangoWaf.Services.FlushProbe
import Mathlib.Tactic.NormNum

/-!
# Counters beside a flush probe

What the counter of a rule of the site goes through while probes of the flush path run.

* **What a probe puts back is what it has read**, whatever happened to the counter in between. The
  hits of that time are gone, and what a flush of the site has taken in that time is counted twice
  (`probe_window_accounts`).
* A rule that is neither hit nor flushed while a probe runs **keeps its counts**
  (`quiet_probes_conserve`): a count is in the column, the counter, a flush of the site, or the
  snapshot of the probe that has deleted it (`Probe.owed`).
-/

namespace DjangoWaf

/-! ### What a probe puts back -/

def ProbeWorld.Consistent (w : ProbeWorld) : Prop :=
  ∀ ruleId, ∀ p ∈ w.probes ruleId, p.Consistent

theorem update_eq_some {probes : Uuid → Option Probe} {r r' : Uuid} {p p' : Probe}
    (h : Function.update probes r (some p) r' = some p') :
    r' = r ∧ p' = p ∨ r' ≠ r ∧ probes r' = some p' := by
  rcases eq_or_ne r' r with rfl | hne
  · rw [Function.update_self] at h
    exact .inl ⟨rfl, (Option.some.inj h).symm⟩
  · rw [Function.update_of_ne hne] at h
    exact .inr ⟨hne, h⟩

/-- A step keeps every probe consistent, and one that has begun its snapshot goes on with it. -/
theorem ProbeStep.consistent {w w' : ProbeWorld} {now : ℚ} {c : ProbeCommand}
    (h : ProbeStep w now c w') (hw : w.Consistent) :
    w'.Consistent ∧ ∀ {ruleId : Uuid} {p : Probe}, w.probes ruleId = some p →
      p.pc ≠ .snapshotKeys → ∃ p', w'.probes ruleId = some p' ∧ p.Since p' := by
  rcases h with - | ⟨-, hnone⟩ | ⟨o, hp, hkeys⟩
  case site => exact ⟨hw, fun hp hpc ↦ ⟨_, hp, .refl hpc⟩⟩
  case begin r =>
    refine ⟨fun r' p' hp' ↦ ?_, fun {r' p'} hp' hpc ↦ ⟨p', ?_, .refl hpc⟩⟩
    · rcases update_eq_some hp' with ⟨-, rfl⟩ | ⟨-, hold⟩
      · exact .start
      · exact hw r' p' hold
    · have hne : r' ≠ r := by
        rintro rfl
        rw [hnone] at hp'
        cases hp'
      exact (Function.update_of_ne hne _ _).trans hp'
  case probe r p keys =>
    obtain ⟨hconsistent, hsince⟩ :=
      @Probe.Consistent.exec r now o keys w.rules _ p (hw r p hp) hkeys
    refine ⟨fun r' p' hp' ↦ ?_, fun {r' p'} hp' hpc ↦ ?_⟩
    · rcases update_eq_some hp' with ⟨-, rfl⟩ | ⟨-, hold⟩
      · exact hconsistent
      · exact hw r' p' hold
    · rcases eq_or_ne r' r with rfl | hne
      · obtain rfl := Option.some.inj (hp.symm.trans hp')
        exact ⟨_, Function.update_self _ _ _, hsince hpc⟩
      · exact ⟨p', (Function.update_of_ne hne _ _).trans hp', .refl hpc⟩

theorem ProbeRun.consistent {w w' : ProbeWorld} {es : List ProbeEvent} (h : ProbeRun w es w')
    (hw : w.Consistent) : w'.Consistent := by
  refine Run.invariant (P := fun _ w ↦ w.Consistent) hw ?_ h
  exact fun _ hw hstep ↦ (hstep.1.consistent hw).1

/-- A probe that has begun its snapshot learns only what it had yet to read. -/
theorem ProbeRun.since {w w' : ProbeWorld} {es : List ProbeEvent} (h : ProbeRun w es w')
    (hw : w.Consistent) {ruleId : Uuid} {p : Probe} (hp : w.probes ruleId = some p)
    (hpc : p.pc ≠ .snapshotKeys) : ∃ p', w'.probes ruleId = some p' ∧ p.Since p' := by
  induction h with
  | nil => exact ⟨p, hp, .refl hpc⟩
  | snoc hrun hstep ih =>
    obtain ⟨p₁, hp₁, hsince₁⟩ := ih
    obtain ⟨p₂, hp₂, hsince₂⟩ := (hstep.1.consistent (ProbeRun.consistent hrun hw)).2 hp₁ hsince₁.pc
    exact ⟨p₂, hp₂, hsince₁.trans hsince₂⟩

/-- The rules of the site stay, and what leaves Redis does so by the site's reads. -/
theorem ProbeStep.delivered_eq {w w' : ProbeWorld} {now : ℚ} {c : ProbeCommand}
    (h : ProbeStep w now c w') (hlive : w.redis.ruleHits.NoneExpired now) {ruleId : Uuid}
    (hrule : (w.rules ruleId).isSome) :
    (w'.rules ruleId).isSome ∧ w.delivered ruleId ≤ w'.delivered ruleId ∧
      (c ≠ .site (.getDel ruleId) → w'.delivered ruleId = w.delivered ruleId) := by
  rcases h with h | - | -
  case site c _ =>
    obtain ⟨hle, heq⟩ := h.delivered_eq hlive hrule
    exact ⟨(h.total_eq hlive hrule).1, hle, fun hc ↦ heq fun hread ↦ hc (by rw [hread])⟩
  case begin => exact ⟨hrule, Nat.le_refl _, fun _ ↦ rfl⟩
  case probe => exact ⟨hrule, Nat.le_refl _, fun _ ↦ rfl⟩

theorem ProbeRun.delivered_eq {w w' : ProbeWorld} {es : List ProbeEvent} (h : ProbeRun w es w')
    {ruleId : Uuid} (hrule : (w.rules ruleId).isSome) :
    (w'.rules ruleId).isSome ∧ w.delivered ruleId ≤ w'.delivered ruleId ∧
      ((∀ e ∈ es, e.command ≠ .site (.getDel ruleId)) →
        w'.delivered ruleId = w.delivered ruleId) := by
  induction h with
  | nil => exact ⟨hrule, Nat.le_refl _, fun _ ↦ rfl⟩
  | snoc _ he ih =>
    obtain ⟨hrule', hle, heq⟩ := ih
    obtain ⟨hrule'', hle', heq'⟩ := he.1.delivered_eq he.2 hrule'
    refine ⟨hrule'', hle.trans hle', fun hes ↦ ?_⟩
    rw [heq' (hes _ (by simp)), heq fun e hmem ↦ hes e (by simp [hmem])]

theorem ProbeWorld.Consistent.start (rules : Uuid → Option HitRow) :
    (ProbeWorld.start rules).Consistent := by
  rintro r p ⟨⟩

/-- **A probe puts back what it has read.** Between the `GET` of a rule's counter for its snapshot
and the `SET` that restores it, the rule loses what is counted, and is given again what flushes of
the site have taken. -/
theorem probe_window_accounts {rules : Uuid → Option HitRow} {es es' : List ProbeEvent}
    {w w₁ w₂ w' : ProbeWorld} {ruleId r : Uuid} {keys : List Uuid} {count : ℕ}
    {rest : List (Uuid × ℕ)} {t t' : ℚ} {o : RedisOutcome}
    (hreach : ProbeRun (.start rules) es w)
    (hget : ProbeStep w t (.probe ruleId (.snapshotGet r keys) .answered) w₁)
    (hlive : w.redis.ruleHits.NoneExpired t)
    (hrun : ProbeRun w₁ es' w₂)
    (hset : ProbeStep w₂ t' (.probe ruleId (.restore r count rest) o) w') (ho : o.executed)
    (hrule : (rules r).isSome) :
    w'.total r + w.delivered r = w.total r + w'.delivered r ∧
      w.delivered r ≤ w'.delivered r ∧
      ((∀ e ∈ es', e.command ≠ .site (.getDel r)) → w'.total r = w.total r) := by
  have hw := hreach.consistent (.start rules)
  obtain ⟨p, listed, hp, hpc, rfl⟩ := hget.of_probe
  obtain ⟨p₂, listed₂, hp₂, hpc₂, rfl⟩ := hset.of_probe
  -- what the probe restores is an entry of its snapshot
  have hmem : (r, count) ∈ p₂.snapshot := by
    have hrestoring := (hrun.consistent (hget.consistent hw).1 ruleId p₂ hp₂).restoring
    rw [hpc₂] at hrestoring
    exact hrestoring List.mem_cons_self
  -- and that entry is what its `GET` found
  have hfound : w.redis.ruleHits.get t r = some count := by
    have hnodup := (hw ruleId p hp).nodup
    rw [hpc] at hnodup
    obtain ⟨-, hpending, hdisjoint⟩ := List.nodup_append.1 hnodup
    have hold : (r, count) ∉ p.snapshot := fun hin ↦
      hdisjoint r (List.mem_map_of_mem hin) r List.mem_cons_self rfl
    have hp₁ : (w.after t ruleId p .answered listed).probes ruleId =
        some (p.exec ruleId t .answered listed w.rules w.redis.ruleHits).2 :=
      Function.update_self _ _ _
    have hexec : (p.exec ruleId t .answered listed w.rules w.redis.ruleHits).2 = { p with
        snapshot := remember p.snapshot r (w.redis.ruleHits.get t r)
        pc := snapshotFrom keys } := by
      rw [Probe.exec, hpc]
      rfl
    rw [hexec] at hp₁
    obtain ⟨p', hp', hsince⟩ :=
      hrun.since (hget.consistent hw).1 hp₁ (snapshotFrom_ne keys)
    obtain rfl := Option.some.inj (hp'.symm.trans hp₂)
    rcases hsince.snapshot _ hmem with hread | hlater
    · rcases List.mem_append.1 hread with hin | hin
      · exact absurd hin hold
      · obtain ⟨c, hc, heq⟩ := Option.map_eq_some_iff.1 (Option.mem_toList.1 hin)
        cases heq
        exact hc
    · rw [pending_snapshotFrom] at hlater
      exact absurd hlater (List.nodup_cons.1 hpending).1
  have hstored : w.redis.ruleHits.stored r = count := by
    rw [← hlive.getD_get, hfound]
    rfl
  have hrestored : (w₂.after t' ruleId p₂ o listed₂).redis.ruleHits.stored r = count := by
    show (p₂.exec ruleId t' o listed₂ w₂.rules w₂.redis.ruleHits).1.stored r = count
    rw [Probe.exec, hpc₂]
    show (if o.executed then w₂.redis.ruleHits.setex t' r 172800 count
      else w₂.redis.ruleHits).stored r = count
    rw [if_pos ho, KeySpace.setex, KeySpace.stored_put, if_pos rfl]
  have hrule₀ := (hreach.delivered_eq hrule).1
  obtain ⟨hrule₁, hle, heq⟩ := hrun.delivered_eq hrule₀
  have hdelivered : (w₂.after t' ruleId p₂ o listed₂).delivered r = w₂.delivered r := rfl
  rw [HitWorld.total_eq_delivered, HitWorld.total_eq_delivered, hstored, hrestored, hdelivered]
  refine ⟨by omega, hle, fun hquiet ↦ ?_⟩
  have hsame : w₂.delivered r = w.delivered r := heq hquiet
  rw [hsame]

/-! ### Probes of which a rule sees nothing -/

/-- The counts of a rule among entries of a snapshot. -/
def entriesFor (r : Uuid) (entries : List (Uuid × ℕ)) : ℕ :=
  (entries.map fun e ↦ if e.1 = r then e.2 else 0).sum

theorem entriesFor_cons (r : Uuid) (e : Uuid × ℕ) (entries : List (Uuid × ℕ)) :
    entriesFor r (e :: entries) = (if e.1 = r then e.2 else 0) + entriesFor r entries := rfl

/-- A `GET` of the snapshot remembers the counts it finds. -/
theorem entriesFor_remember (r : Uuid) (snapshot : List (Uuid × ℕ)) (key : Uuid)
    (value : Option ℕ) :
    entriesFor r (remember snapshot key value) =
      entriesFor r snapshot + if key = r then value.getD 0 else 0 := by
  rw [remember, entriesFor, List.map_append, List.sum_append]
  rcases value with - | count
  · rw [show (none : Option ℕ).getD 0 = 0 from rfl, ite_self]
    rfl
  · rfl

/-- The counts of a rule that a probe has deleted and not yet put back. -/
def Probe.owed (r : Uuid) (p : Probe) : ℕ :=
  match p.pc with
  | .flushRead key keys => if r ∈ key :: keys then 0 else entriesFor r p.snapshot
  | .flushUpdate _ _ keys => if r ∈ keys then 0 else entriesFor r p.snapshot
  | .keyIsAbsent | .cleanup => entriesFor r p.snapshot
  | .restore key count rest => entriesFor r ((key, count) :: rest)
  | _ => 0

/-- The snapshot has the counter of a rule, which holds `n`, until the probe's flush deletes it; and
nothing counts there until the probe puts it back. -/
def Probe.Holds (r : Uuid) (n : ℕ) (p : Probe) : Prop :=
  match p.pc with
  | .snapshotKeys => entriesFor r p.snapshot = 0
  | .snapshotGet key keys => entriesFor r p.snapshot = if r ∈ key :: keys then 0 else n
  | .incr | .expire | .flushKeys => entriesFor r p.snapshot = n
  | .flushRead key keys =>
    (key :: keys).Nodup ∧ if r ∈ key :: keys then entriesFor r p.snapshot = n else n = 0
  | .flushUpdate _ _ keys =>
    keys.Nodup ∧ if r ∈ keys then entriesFor r p.snapshot = n else n = 0
  | .keyIsAbsent | .cleanup => n = 0
  | .restore key count rest =>
    (((key, count) :: rest).map Prod.fst).Nodup ∧ (r ∈ ((key, count) :: rest).map Prod.fst → n = 0)
  | .done => True

section Holding

variable {r : Uuid} {n : ℕ} {p : Probe}

theorem Probe.holds_snapshotFrom {keys : List Uuid} (hpc : p.pc = snapshotFrom keys)
    (h : entriesFor r p.snapshot = if r ∈ keys then 0 else n) : p.Holds r n ∧ p.owed r = 0 := by
  rw [Probe.Holds, Probe.owed, hpc]
  rcases keys with - | ⟨key, keys⟩
  · exact ⟨h, rfl⟩
  · exact ⟨h, rfl⟩

theorem Probe.holds_flushFrom {keys : List Uuid} (hpc : p.pc = flushFrom keys)
    (hkeys : keys.Nodup) (h : if r ∈ keys then entriesFor r p.snapshot = n else n = 0) :
    p.Holds r n ∧ p.owed r = if r ∈ keys then 0 else entriesFor r p.snapshot := by
  rw [Probe.Holds, Probe.owed, hpc]
  rcases keys with - | ⟨key, keys⟩
  · exact ⟨h, rfl⟩
  · exact ⟨⟨hkeys, h⟩, rfl⟩

theorem Probe.holds_flushCount {key : Uuid} {count : ℕ} {keys : List Uuid}
    (hpc : p.pc = flushCount key count keys) (hkeys : keys.Nodup)
    (h : if r ∈ keys then entriesFor r p.snapshot = n else n = 0) :
    p.Holds r n ∧ p.owed r = if r ∈ keys then 0 else entriesFor r p.snapshot := by
  rw [flushCount] at hpc
  split at hpc
  · exact Probe.holds_flushFrom hpc hkeys h
  · rw [Probe.Holds, Probe.owed, hpc]
    exact ⟨⟨hkeys, h⟩, rfl⟩

theorem Probe.holds_restoreFrom {entries : List (Uuid × ℕ)} (hpc : p.pc = restoreFrom entries)
    (hentries : (entries.map Prod.fst).Nodup) (h : r ∈ entries.map Prod.fst → n = 0) :
    p.Holds r n ∧ p.owed r = entriesFor r entries := by
  induction entries with
  | nil =>
    rw [Probe.Holds, Probe.owed, hpc]
    exact ⟨trivial, rfl⟩
  | cons e entries ih =>
    obtain ⟨key, count⟩ := e
    rw [restoreFrom] at hpc
    split at hpc
    · rename_i hzero
      obtain ⟨hholds, howed⟩ := ih hpc (List.nodup_cons.1 hentries).2
        fun hmem ↦ h (List.mem_cons_of_mem _ hmem)
      refine ⟨hholds, ?_⟩
      rw [howed, entriesFor_cons, hzero, ite_self, Nat.zero_add]
    · rw [Probe.Holds, Probe.owed, hpc]
      exact ⟨⟨hentries, h⟩, rfl⟩

/-- **A command of a probe**, none of which fails, moves the counts of a rule between its counter
and the probe. -/
theorem Probe.Holds.exec {ruleId : Uuid} {now : ℚ} {keys : List Uuid}
    {rules : Uuid → Option HitRow} {hits : KeySpace Uuid ℚ ℕ} (h : p.Holds r (hits.stored r))
    (hconsistent : p.Consistent) (hne : r ≠ ruleId) (hlive : hits.NoneExpired now)
    (hkeys : Listing hits now p.pc keys) :
    (p.exec ruleId now .answered keys rules hits).2.Holds r
        ((p.exec ruleId now .answered keys rules hits).1.stored r) ∧
      (p.exec ruleId now .answered keys rules hits).1.stored r +
          (p.exec ruleId now .answered keys rules hits).2.owed r =
        hits.stored r + p.owed r := by
  have hget (k : Uuid) : (hits.get now k).getD 0 = hits.stored k := hlive.getD_get k
  -- a key that is not listed counts nothing
  have habsent (hpc : p.pc = .snapshotKeys ∨ p.pc = .flushKeys) (hout : r ∉ keys) :
      hits.stored r = 0 := by
    rw [(hkeys hpc).2, Option.not_isSome_iff_eq_none] at hout
    rw [← hget, hout]
    rfl
  have hstored := Probe.stored_exec hne now .answered keys rules hits p hlive
  rcases hpc : p.pc with - | ⟨key, ks⟩ | - | - | - | ⟨key, ks⟩ | ⟨key, count, ks⟩ | - | - |
    ⟨key, count, rest⟩ | -
  all_goals
    simp only [hpc] at hstored
    simp only [Probe.Holds, hpc] at h
    rw [hstored]
  case snapshotKeys =>
    have hexec : (p.exec ruleId now .answered keys rules hits).2 =
        { p with pc := snapshotFrom (keys.filter fun key ↦ key ≠ ruleId) } := by
      rw [Probe.exec, hpc]
      rfl
    have hentries : entriesFor r p.snapshot =
        if r ∈ keys.filter fun key ↦ key ≠ ruleId then 0 else hits.stored r := by
      rw [h]
      split
      · rfl
      · rename_i hout
        have hout' : r ∉ keys := fun hin ↦ hout (List.mem_filter.2 ⟨hin, decide_eq_true hne⟩)
        exact (habsent (.inl hpc) hout').symm
    obtain ⟨hholds, howed⟩ := Probe.holds_snapshotFrom
      (p := { p with pc := snapshotFrom (keys.filter fun key ↦ key ≠ ruleId) }) rfl hentries
    rw [hexec, howed, Probe.owed, hpc]
    exact ⟨hholds, rfl⟩
  case snapshotGet =>
    have hexec : (p.exec ruleId now .answered keys rules hits).2 =
        { p with
          snapshot := remember p.snapshot key (hits.get now key)
          pc := snapshotFrom ks } := by
      rw [Probe.exec, hpc]
      rfl
    have hnodup : (key :: ks).Nodup := by
      have hall := hconsistent.nodup
      rw [hpc] at hall
      exact (List.nodup_append.1 hall).2.1
    have hentries : entriesFor r (remember p.snapshot key (hits.get now key)) =
        if r ∈ ks then 0 else hits.stored r := by
      rw [entriesFor_remember, hget, h]
      rcases eq_or_ne key r with rfl | hkey
      · rw [if_pos List.mem_cons_self, if_pos rfl, Nat.zero_add,
          if_neg (List.nodup_cons.1 hnodup).1]
      · rw [if_neg hkey, Nat.add_zero]
        simp [List.mem_cons, Ne.symm hkey]
    obtain ⟨hholds, howed⟩ := Probe.holds_snapshotFrom
      (p := { p with
        snapshot := remember p.snapshot key (hits.get now key)
        pc := snapshotFrom ks }) rfl hentries
    rw [hexec, howed, Probe.owed, hpc]
    exact ⟨hholds, rfl⟩
  case incr =>
    have hexec : (p.exec ruleId now .answered keys rules hits).2 = { p with pc := .expire } := by
      rw [Probe.exec, hpc]
      rfl
    rw [hexec, Probe.owed, Probe.owed, hpc]
    exact ⟨h, rfl⟩
  case expire =>
    have hexec : (p.exec ruleId now .answered keys rules hits).2 =
        { p with pc := .flushKeys } := by
      rw [Probe.exec, hpc]
    rw [hexec, Probe.owed, Probe.owed, hpc]
    exact ⟨h, rfl⟩
  case flushKeys =>
    have hexec : (p.exec ruleId now .answered keys rules hits).2 =
        { p with keysSeen := keys.length, pc := flushFrom keys } := by
      rw [Probe.exec, hpc]
      rfl
    have hentries : if r ∈ keys then entriesFor r p.snapshot = hits.stored r
        else hits.stored r = 0 := by
      split
      · exact h
      · exact habsent (.inr hpc) ‹_›
    obtain ⟨hholds, howed⟩ := Probe.holds_flushFrom
      (p := { p with keysSeen := keys.length, pc := flushFrom keys }) rfl (hkeys (.inr hpc)).1
      hentries
    rw [hexec, howed, Probe.owed, hpc]
    refine ⟨hholds, ?_⟩
    show hits.stored r + (if r ∈ keys then 0 else entriesFor r p.snapshot) = hits.stored r + 0
    rw [h]
    split
    · rfl
    · rw [habsent (.inr hpc) ‹_›]
  case flushRead =>
    have hexec : (p.exec ruleId now .answered keys rules hits).2 =
        { p with pc := flushCount key ((hits.get now key).getD 0) ks } := by
      rw [Probe.exec, hpc]
      rfl
    obtain ⟨hnodup, hentries⟩ := h
    obtain ⟨hkey, hks⟩ := List.nodup_cons.1 hnodup
    rcases eq_or_ne r key with rfl | hother
    · rw [if_pos List.mem_cons_self] at hentries
      obtain ⟨hholds, howed⟩ := Probe.holds_flushCount (n := 0)
        (p := { p with pc := flushCount r ((hits.get now r).getD 0) ks }) rfl hks
        (by rw [if_neg hkey])
      rw [if_neg hkey] at howed
      rw [if_pos ⟨rfl, rfl⟩, hexec, howed, Probe.owed, hpc]
      refine ⟨hholds, ?_⟩
      show 0 + entriesFor r p.snapshot = hits.stored r + if r ∈ r :: ks then 0 else _
      rw [hentries, if_pos List.mem_cons_self, Nat.add_comm]
    · have hmem : r ∈ key :: ks ↔ r ∈ ks := by simp [hother]
      simp only [hmem] at hentries
      obtain ⟨hholds, howed⟩ := Probe.holds_flushCount
        (p := { p with pc := flushCount key ((hits.get now key).getD 0) ks }) rfl hks hentries
      rw [if_neg fun hin ↦ hother hin.2, hexec, howed, Probe.owed, hpc]
      refine ⟨hholds, ?_⟩
      show hits.stored r + (if r ∈ ks then 0 else _) =
        hits.stored r + if r ∈ key :: ks then 0 else _
      simp only [hmem]
  case flushUpdate =>
    obtain ⟨hnodup, hentries⟩ := h
    have hexec : (p.exec ruleId now .answered keys rules hits).2 = { p with
        hitCount := if key = ruleId then p.hitCount + count else p.hitCount
        flushed := if key = ruleId ∨ (rules key).isSome then p.flushed + 1 else p.flushed
        pc := flushFrom ks } := by
      rw [Probe.exec, hpc]
    obtain ⟨hholds, howed⟩ := Probe.holds_flushFrom
      (p := { p with
        hitCount := if key = ruleId then p.hitCount + count else p.hitCount
        flushed := if key = ruleId ∨ (rules key).isSome then p.flushed + 1 else p.flushed
        pc := flushFrom ks }) rfl hnodup hentries
    rw [hexec, howed, Probe.owed, hpc]
    exact ⟨hholds, rfl⟩
  case keyIsAbsent =>
    have hexec : (p.exec ruleId now .answered keys rules hits).2 =
        { p with keyDeleted := (hits.get now ruleId).isNone, pc := .cleanup } := by
      rw [Probe.exec, hpc]
      rfl
    rw [hexec, Probe.owed, Probe.owed, hpc]
    exact ⟨h, rfl⟩
  case cleanup =>
    have hexec : (p.exec ruleId now .answered keys rules hits).2 =
        { p with pc := restoreFrom p.snapshot } := by
      rw [Probe.exec, hpc]
    obtain ⟨hholds, howed⟩ := Probe.holds_restoreFrom
      (p := { p with pc := restoreFrom p.snapshot }) rfl
      (List.nodup_append.1 hconsistent.nodup).1 fun _ ↦ h
    rw [hexec, howed, Probe.owed, hpc]
    exact ⟨hholds, rfl⟩
  case restore =>
    have hexec : (p.exec ruleId now .answered keys rules hits).2 =
        { p with pc := restoreFrom rest } := by
      rw [Probe.exec, hpc]
    obtain ⟨hnodup, hzero⟩ := h
    obtain ⟨hkey, hrest⟩ := List.nodup_cons.1 hnodup
    rcases eq_or_ne r key with rfl | hother
    · obtain ⟨hholds, howed⟩ := Probe.holds_restoreFrom (n := count)
        (p := { p with pc := restoreFrom rest }) rfl hrest fun hin ↦ absurd hin hkey
      rw [if_pos ⟨rfl, rfl⟩, hexec, howed, Probe.owed, hpc, hzero List.mem_cons_self]
      refine ⟨hholds, ?_⟩
      show count + entriesFor r rest = 0 + entriesFor r ((r, count) :: rest)
      rw [entriesFor_cons, if_pos rfl, Nat.zero_add]
    · obtain ⟨hholds, howed⟩ := Probe.holds_restoreFrom (n := hits.stored r)
        (p := { p with pc := restoreFrom rest }) rfl hrest
        fun hin ↦ hzero (List.mem_cons_of_mem _ hin)
      rw [if_neg fun hin ↦ hother hin.2, hexec, howed, Probe.owed, hpc]
      refine ⟨hholds, ?_⟩
      show hits.stored r + entriesFor r rest = hits.stored r + entriesFor r ((key, count) :: rest)
      rw [entriesFor_cons, if_neg (Ne.symm hother), Nat.zero_add]
  case done =>
    have hexec : (p.exec ruleId now .answered keys rules hits).2 = p := by
      rw [Probe.exec, hpc]
    rw [hexec, Probe.Holds, hpc]
    exact ⟨trivial, rfl⟩

end Holding

/-! ### Quiet probes -/

/-- A run of a probe is under way. -/
def ProbeWorld.Running (w : ProbeWorld) : Prop := ∃ ruleId, ∃ p ∈ w.probes ruleId, p.pc ≠ .done

/-- A step that leaves a rule to the probe: while one is running, the site neither hits nor flushes
the rule, and no other begins; and the probe's commands succeed. -/
structure Quiet (r : Uuid) (w : ProbeWorld) (c : ProbeCommand) : Prop where
  hit : w.Running → c ≠ .site (.incr r)
  flush : w.Running → c ≠ .site (.getDel r)
  alone : w.Running → ∀ ruleId, c ≠ .begin ruleId
  answered : ∀ {ruleId pc o}, c = .probe ruleId pc o → o = .answered

/-- The counts of a rule in all places, the running probe's snapshot among them, come to `n`. -/
structure ProbeWorld.Accounts (w : ProbeWorld) (r : Uuid) (n : ℕ) : Prop where
  consistent : w.Consistent
  rule : (w.rules r).isSome
  fresh : ∀ {ruleId p}, w.probes ruleId = some p → w.rules ruleId = none
  running : ∀ {ruleId p}, w.probes ruleId = some p → p.pc ≠ .done →
    p.Holds r (w.redis.ruleHits.stored r) ∧ w.total r + p.owed r = n ∧
      ∀ {ruleId' p'}, w.probes ruleId' = some p' → p'.pc ≠ .done → ruleId' = ruleId
  idle : ¬ w.Running → w.total r = n

theorem ProbeWorld.Accounts.start {rules : Uuid → Option HitRow} {r : Uuid} {row : HitRow}
    (hrow : rules r = some row) : (ProbeWorld.start rules).Accounts r row.hitCount := by
  refine ⟨.start rules, Option.isSome_iff_exists.2 ⟨row, hrow⟩, ?_, ?_, fun _ ↦ ?_⟩
  · rintro ruleId p ⟨⟩
  · rintro ruleId p ⟨⟩
  · show (rules r).elim 0 HitRow.hitCount + 0 + 0 = row.hitCount
    rw [hrow]
    rfl

theorem HitStep.rules_eq_none {w w' : HitWorld} {now : ℚ} {c : HitCommand}
    (h : HitStep w now c w') {ruleId : Uuid} (hnone : w.rules ruleId = none) :
    w'.rules ruleId = none := by
  rcases h with - | - | - | - | - | - | -
  case update =>
    rw [← Option.not_isSome_iff_eq_none, isSome_addHits, hnone]
    exact Bool.false_ne_true
  all_goals exact hnone

/-- What a command adds to the counts of a rule of the site. -/
def ProbeCommand.adds (r : Uuid) : ProbeCommand → ℕ
  | .site c => c.adds r
  | _ => 0

theorem HitCommand.adds_eq_zero {r : Uuid} {c : HitCommand} (h : c ≠ .incr r) : c.adds r = 0 := by
  rcases c with - | r' | - | - | - | - | -
  case incr =>
    refine if_neg fun heq ↦ h ?_
    rw [heq]
  all_goals rfl

section Step

variable {w w' : ProbeWorld} {now : ℚ} {r : Uuid} {n : ℕ}

theorem ProbeWorld.Accounts.site (hw : w.Accounts r n) {c : HitCommand} {w' : HitWorld}
    (h : HitStep w.toHitWorld now c w') (hlive : w.redis.ruleHits.NoneExpired now)
    (hquiet : Quiet r w (.site c)) :
    (ProbeWorld.mk w' w.probes).Accounts r (n + c.adds r) := by
  obtain ⟨hrule, htotal⟩ := h.total_eq hlive hw.rule
  refine ⟨hw.consistent, hrule, fun hp ↦ h.rules_eq_none (hw.fresh hp), fun {ruleId p} hp hpc ↦ ?_,
    fun hidle ↦ ?_⟩
  · obtain ⟨hholds, howed, halone⟩ := hw.running hp hpc
    have hrunning : w.Running := ⟨ruleId, p, hp, hpc⟩
    have hadds : c.adds r = 0 :=
      HitCommand.adds_eq_zero fun heq ↦ hquiet.hit hrunning (by rw [heq])
    have hstored : w'.redis.ruleHits.stored r = w.redis.ruleHits.stored r := by
      rw [h.stored_eq hlive fun heq ↦ hquiet.flush hrunning (by rw [heq]), hadds, Nat.add_zero]
    refine ⟨?_, ?_, halone⟩
    · show p.Holds r (w'.redis.ruleHits.stored r)
      rwa [hstored]
    · show w'.total r + p.owed r = n + c.adds r
      rw [htotal, hadds]
      exact howed
  · show w'.total r = n + c.adds r
    rw [htotal, hw.idle hidle]

theorem ProbeWorld.Accounts.begin (hw : w.Accounts r n) {ruleId : Uuid}
    (hrule : w.rules ruleId = none) (hprobe : w.probes ruleId = none) (hidle : ¬ w.Running) :
    ({ w with probes := Function.update w.probes ruleId (some .start) } : ProbeWorld).Accounts
      r n := by
  have hdone {r' : Uuid} {p' : Probe} (hp' : w.probes r' = some p') : p'.pc = .done := by
    by_contra hpc
    exact hidle ⟨r', p', hp', hpc⟩
  refine ⟨((@ProbeStep.begin w 0 ruleId hrule hprobe).consistent hw.consistent).1, hw.rule,
    fun {r' p'} hp' ↦ ?_, fun {r' p'} hp' hpc ↦ ?_, fun hidle' ↦ hw.idle hidle⟩
  · rcases update_eq_some hp' with ⟨rfl, -⟩ | ⟨-, hold⟩
    · exact hrule
    · exact hw.fresh hold
  · rcases update_eq_some hp' with ⟨rfl, rfl⟩ | ⟨-, hold⟩
    · refine ⟨rfl, hw.idle hidle, fun {r'' p''} hp'' hpc'' ↦ ?_⟩
      rcases update_eq_some hp'' with ⟨heq, -⟩ | ⟨-, hold⟩
      · exact heq
      · exact absurd (hdone hold) hpc''
    · exact absurd (hdone hold) hpc

theorem ProbeWorld.Accounts.probe (hw : w.Accounts r n) {ruleId : Uuid} {p : Probe}
    {keys : List Uuid} (hp : w.probes ruleId = some p)
    (hkeys : Listing w.redis.ruleHits now p.pc keys)
    (hlive : w.redis.ruleHits.NoneExpired now) :
    (w.after now ruleId p .answered keys).Accounts r n := by
  have hne : r ≠ ruleId := by
    rintro rfl
    have hrule := hw.rule
    rw [hw.fresh hp] at hrule
    cases hrule
  have hstep := (ProbeStep.probe .answered hp hkeys).consistent hw.consistent
  rcases eq_or_ne p.pc .done with hdone | hrunning
  · rwa [ProbeWorld.after_done hp hdone]
  obtain ⟨hholds, howed, halone⟩ := hw.running hp hrunning
  obtain ⟨hholds', hsum⟩ := @Probe.Holds.exec r p ruleId now keys w.rules _ hholds
    (hw.consistent ruleId p hp) hne hlive hkeys
  -- what the command takes from the counter, the probe owes
  have htotal : (w.after now ruleId p .answered keys).total r +
      (p.exec ruleId now .answered keys w.rules w.redis.ruleHits).2.owed r = n := by
    rw [HitWorld.total_eq_delivered] at howed ⊢
    have hdelivered : (w.after now ruleId p .answered keys).delivered r = w.delivered r := rfl
    have hstored : (w.after now ruleId p .answered keys).redis.ruleHits.stored r =
        (p.exec ruleId now .answered keys w.rules w.redis.ruleHits).1.stored r := rfl
    rw [hdelivered, hstored]
    omega
  refine ⟨hstep.1, hw.rule, fun {r' p'} hp' ↦ ?_, fun {r' p'} hp' hpc' ↦ ?_, fun hidle ↦ ?_⟩
  · rcases update_eq_some hp' with ⟨rfl, -⟩ | ⟨-, hold⟩
    · exact hw.fresh hp
    · exact hw.fresh hold
  · rcases update_eq_some hp' with ⟨rfl, rfl⟩ | ⟨hother, hold⟩
    · refine ⟨hholds', htotal, fun {r'' p''} hp'' hpc'' ↦ ?_⟩
      rcases update_eq_some hp'' with ⟨heq, -⟩ | ⟨-, hold⟩
      · exact heq
      · exact halone hold hpc''
    · exact absurd (halone hold hpc') hother
  · have hpc' : (p.exec ruleId now .answered keys w.rules w.redis.ruleHits).2.pc = .done := by
      by_contra hpc'
      exact hidle ⟨ruleId, _, Function.update_self _ _ _, hpc'⟩
    rw [Probe.owed, hpc'] at htotal
    exact htotal

/-- **A quiet step** adds to the counts of a rule what its command counts. -/
theorem ProbeWorld.Accounts.step {c : ProbeCommand} (hw : w.Accounts r n)
    (h : ProbeStep w now c w') (hlive : w.redis.ruleHits.NoneExpired now)
    (hquiet : Quiet r w c) : w'.Accounts r (n + c.adds r) := by
  rcases h with h | ⟨hrule, hprobe⟩ | ⟨o, hp, hkeys⟩
  · exact hw.site h hlive hquiet
  · exact hw.begin hrule hprobe fun hrunning ↦ hquiet.alone hrunning _ rfl
  · obtain rfl := hquiet.answered rfl
    exact hw.probe hp hkeys hlive

end Step

/-- A run in which no probe meets a hit or a flush of the rule. -/
def QuietRun (r : Uuid) (w : ProbeWorld) (es : List ProbeEvent) (w' : ProbeWorld) : Prop :=
  Run (fun w e w' ↦ (ProbeStep w e.now e.command w' ∧ w.redis.ruleHits.NoneExpired e.now) ∧
    Quiet r w e.command) w es w'

/-- **A quiet probe costs a rule nothing**: once it has finished, the rule's column, its counter and
the site's flushes hold the column at the start and one for each hit. -/
theorem quiet_probes_conserve {rules : Uuid → Option HitRow} {es : List ProbeEvent}
    {w : ProbeWorld} {r : Uuid} {row : HitRow} (hrow : rules r = some row)
    (hrun : QuietRun r (.start rules) es w) (hidle : ¬ w.Running) :
    w.total r = row.hitCount + (es.map fun e ↦ e.command.adds r).sum := by
  have haccounts : w.Accounts r (row.hitCount + (es.map fun e ↦ e.command.adds r).sum) := by
    refine Run.invariant
      (P := fun es w ↦ w.Accounts r (row.hitCount + (es.map fun e ↦ e.command.adds r).sum))
      (.start hrow) ?_ hrun
    intro es w w' e _ hw hstep
    rw [List.map_append, List.sum_append, ← Nat.add_assoc]
    exact hw.step hstep.1.1 hstep.1.2 hstep.2
  exact haccounts.idle hidle

/-- A step in which no probe but one takes part, and its commands succeed. -/
structure Alone (ruleId : Uuid) (c : ProbeCommand) : Prop where
  begin : ∀ {r}, c = .begin r → r = ruleId
  probe : ∀ {r pc o}, c = .probe r pc o → r = ruleId ∧ o = .answered

/-! ### A probe beside a counter of the site -/

/-- One rule of the site, whose counter holds a hit when the probe begins. -/
def probedRules : Uuid → Option HitRow := fun k ↦ if k = 7 then some ⟨5, none⟩ else none

def probed (hits : KeySpace Uuid ℚ ℕ) (p : Probe) : ProbeWorld where
  rules := probedRules
  redis := { Redis.empty with ruleHits := hits }
  records := {.expire 7}
  flushes := 0
  probes := Function.update (fun _ ↦ none) 9 (some p)

theorem probed_probes (hits : KeySpace Uuid ℚ ℕ) (p : Probe) :
    (probed hits p).probes = Function.update (fun _ ↦ none) 9 (some p) := rfl

/-- The steps of the run: quiet for the rule, and of one probe. -/
def ProbedStep (w : ProbeWorld) (e : ProbeEvent) (w' : ProbeWorld) : Prop :=
  (ProbeStep w e.now e.command w' ∧ w.redis.ruleHits.NoneExpired e.now) ∧
    Quiet 7 w e.command ∧ Alone 9 e.command

theorem ProbedStep.of_exec {hits hits' : KeySpace Uuid ℚ ℕ} {p p' : Probe} {keys : List Uuid}
    (hlive : hits.NoneExpired 0) (hkeys : Listing hits 0 p.pc keys)
    (hexec : p.exec 9 0 .answered keys probedRules hits = (hits', p')) :
    ProbedStep (probed hits p) ⟨0, .probe 9 p.pc .answered⟩ (probed hits' p') := by
  have hafter : (probed hits p).after 0 9 p .answered keys = probed hits' p' := by
    show ProbeWorld.mk _ (Function.update (Function.update _ 9 _) 9 _) = _
    have hexec' : p.exec 9 0 .answered keys (probed hits p).rules (probed hits p).redis.ruleHits =
      (hits', p') := hexec
    rw [Function.update_idem, hexec']
    rfl
  have hp : (probed hits p).probes 9 = some p := by
    rw [probed_probes, Function.update_self]
  have hstep : ProbeStep (probed hits p) 0 (.probe 9 p.pc .answered)
      ((probed hits p).after 0 9 p .answered keys) := ProbeStep.probe .answered hp hkeys
  rw [hafter] at hstep
  refine ⟨⟨hstep, hlive⟩, ⟨?_, ?_, ?_, ?_⟩, ⟨?_, ?_⟩⟩
  · exact fun _ ↦ ProbeCommand.noConfusion
  · exact fun _ ↦ ProbeCommand.noConfusion
  · exact fun _ _ ↦ ProbeCommand.noConfusion
  · rintro _ _ _ ⟨⟩
    rfl
  · exact ProbeCommand.noConfusion
  · rintro _ _ _ ⟨⟩
    exact ⟨rfl, rfl⟩

/-- The site's counter, and the probe's beside it. -/
def siteHits : KeySpace Uuid ℚ ℕ := Redis.empty.ruleHits.incr 0 7

def bothHits : KeySpace Uuid ℚ ℕ := (siteHits.incr 0 9).expire 0 9 172800

/-- The run up to the probe's first `GET`. -/
def probedBefore : List ProbeEvent :=
  [⟨0, .site (.call 7)⟩, ⟨0, .site (.incr 7)⟩, ⟨0, .begin 9⟩, ⟨0, .probe 9 .snapshotKeys .answered⟩]

/-- From there to the `SET` that restores the counter. -/
def probedBetween : List ProbeEvent :=
  [⟨0, .probe 9 .incr .answered⟩, ⟨0, .probe 9 .expire .answered⟩,
    ⟨0, .probe 9 .flushKeys .answered⟩, ⟨0, .probe 9 (.flushRead 7 [9]) .answered⟩,
    ⟨0, .probe 9 (.flushUpdate 7 1 [9]) .answered⟩, ⟨0, .probe 9 (.flushRead 9 []) .answered⟩,
    ⟨0, .probe 9 (.flushUpdate 9 1 []) .answered⟩, ⟨0, .probe 9 .keyIsAbsent .answered⟩,
    ⟨0, .probe 9 .cleanup .answered⟩]

def probeReading : Probe := ⟨[], 0, 0, 0, 0, false, .snapshotGet 7 []⟩

def probeRestoring : Probe := ⟨[(7, 1)], 1, 2, 2, 0, true, .restore 7 1 []⟩

def probeDone : Probe := ⟨[(7, 1)], 1, 2, 2, 0, true, .done⟩

theorem siteHits_live : siteHits.NoneExpired 0 := by
  have hempty : Redis.empty.ruleHits.NoneExpired 0 := by rintro k c ⟨⟩
  exact hempty.incr 7

theorem bothHits_live : bothHits.NoneExpired 0 := by
  have hincr := siteHits_live.incr 9
  have heq : bothHits = (siteHits.incr 0 9).put 9 ⟨1, some (0 + 172800)⟩ := rfl
  rw [heq]
  exact hincr.put 9 (TtlCell.live_some.2 (by norm_num))

/-- A command that lists no keys. -/
theorem listing_nil {hits : KeySpace Uuid ℚ ℕ} {pc : ProbePc} (h : pc ≠ .snapshotKeys)
    (h' : pc ≠ .flushKeys) : Listing hits 0 pc [] :=
  fun hpc ↦ absurd hpc (not_or.2 ⟨h, h'⟩)

theorem siteHits_keys : Listing siteHits 0 .snapshotKeys [7] := by
  refine fun _ ↦ ⟨List.nodup_singleton 7, fun k ↦ ?_⟩
  rw [siteHits_live.isSome_get, List.mem_singleton]
  have hcell : siteHits.cell = Function.update (fun _ ↦ none) 7 (some ⟨1, none⟩) := rfl
  rw [hcell, Function.update_apply]
  rcases eq_or_ne k 7 with rfl | hne
  · exact iff_of_true rfl rfl
  · rw [if_neg hne]
    exact iff_of_false hne Bool.false_ne_true

theorem bothHits_keys : Listing bothHits 0 .flushKeys [7, 9] := by
  refine fun _ ↦ ⟨by decide, fun k ↦ ?_⟩
  rw [bothHits_live.isSome_get]
  have hcell : bothHits.cell =
      Function.update (siteHits.incr 0 9).cell 9 (some ⟨1, some (0 + 172800)⟩) := rfl
  have hcell' : (siteHits.incr 0 9).cell = Function.update (Function.update (fun _ ↦ none) 7
    (some ⟨1, none⟩)) 9 (some ⟨1, none⟩) := rfl
  rw [hcell, hcell', Function.update_apply, Function.update_apply, Function.update_apply]
  rcases eq_or_ne k 9 with rfl | hne
  · simp
  · rcases eq_or_ne k 7 with rfl | hne'
    · simp
    · simp [hne, hne']

theorem probedBetween_run :
    Run ProbedStep (probed siteHits ⟨[(7, 1)], 0, 0, 0, 0, false, .incr⟩) probedBetween
      (probed (((bothHits.delete 7).delete 9).delete 9) probeRestoring) := by
  have hread := bothHits_live.delete 7
  have hgone := hread.delete 9
  have hstart : Run ProbedStep (probed siteHits ⟨[(7, 1)], 0, 0, 0, 0, false, .incr⟩) []
    (probed siteHits ⟨[(7, 1)], 0, 0, 0, 0, false, .incr⟩) := .nil
  have hcounted := hstart.snoc (@ProbedStep.of_exec _ (siteHits.incr 0 9) _
    ⟨[(7, 1)], 0, 0, 0, 0, false, .expire⟩ [] siteHits_live
    (listing_nil ProbePc.noConfusion ProbePc.noConfusion) rfl)
  have harmed := hcounted.snoc (@ProbedStep.of_exec _ bothHits _
    ⟨[(7, 1)], 0, 0, 0, 0, false, .flushKeys⟩ [] (siteHits_live.incr 9)
    (listing_nil ProbePc.noConfusion ProbePc.noConfusion) rfl)
  have hlisted := harmed.snoc (@ProbedStep.of_exec _ bothHits _
    ⟨[(7, 1)], 0, 0, 2, 0, false, .flushRead 7 [9]⟩ [7, 9] bothHits_live bothHits_keys rfl)
  have hread₇ := hlisted.snoc (@ProbedStep.of_exec _ (bothHits.delete 7) _
    ⟨[(7, 1)], 0, 0, 2, 0, false, .flushUpdate 7 1 [9]⟩ [] bothHits_live
    (listing_nil ProbePc.noConfusion ProbePc.noConfusion) rfl)
  have hupdate₇ := hread₇.snoc (@ProbedStep.of_exec _ (bothHits.delete 7) _
    ⟨[(7, 1)], 0, 1, 2, 0, false, .flushRead 9 []⟩ [] hread
    (listing_nil ProbePc.noConfusion ProbePc.noConfusion) rfl)
  have hread₉ := hupdate₇.snoc (@ProbedStep.of_exec _ ((bothHits.delete 7).delete 9) _
    ⟨[(7, 1)], 0, 1, 2, 0, false, .flushUpdate 9 1 []⟩ [] hread
    (listing_nil ProbePc.noConfusion ProbePc.noConfusion) (by
      have hone : ((bothHits.delete 7).get 0 9).getD 0 = 1 := hread.getD_get 9
      rw [Probe.exec]
      simp only [hone]
      rfl))
  have hupdate₉ := hread₉.snoc (@ProbedStep.of_exec _ ((bothHits.delete 7).delete 9) _
    ⟨[(7, 1)], 1, 2, 2, 0, false, .keyIsAbsent⟩ [] hgone
    (listing_nil ProbePc.noConfusion ProbePc.noConfusion) rfl)
  have habsent := hupdate₉.snoc (@ProbedStep.of_exec _ ((bothHits.delete 7).delete 9) _
    ⟨[(7, 1)], 1, 2, 2, 0, true, .cleanup⟩ [] hgone
    (listing_nil ProbePc.noConfusion ProbePc.noConfusion) rfl)
  exact habsent.snoc (@ProbedStep.of_exec _ (((bothHits.delete 7).delete 9).delete 9) _
    probeRestoring [] hgone
    (listing_nil ProbePc.noConfusion ProbePc.noConfusion) rfl)

theorem probedBefore_run :
    Run ProbedStep (.start probedRules) probedBefore (probed siteHits probeReading) := by
  have hempty : Redis.empty.ruleHits.NoneExpired 0 := by rintro k c ⟨⟩
  -- before a probe begins, every step is quiet
  have hquiet {w : ProbeWorld} {c : ProbeCommand} (hidle : ¬ w.Running)
      (hc : ∀ r pc o, c ≠ .probe r pc o) : Quiet 7 w c :=
    ⟨fun h ↦ absurd h hidle, fun h ↦ absurd h hidle, fun h ↦ absurd h hidle,
      fun heq ↦ absurd heq (hc _ _ _)⟩
  have hidle {w : ProbeWorld} (h : w.probes = fun _ ↦ none) : ¬ w.Running := by
    rintro ⟨r, p, hp, -⟩
    rw [h] at hp
    cases hp
  have hcall : ProbedStep (.start probedRules) ⟨0, .site (.call 7)⟩
      ⟨⟨probedRules, .empty, {.incr 7}, 0⟩, fun _ ↦ none⟩ :=
    ⟨⟨.site (.call rfl), hempty⟩, hquiet (hidle rfl) fun _ _ _ ↦ ProbeCommand.noConfusion,
      ⟨ProbeCommand.noConfusion, ProbeCommand.noConfusion⟩⟩
  have hincr : ProbedStep ⟨⟨probedRules, .empty, {.incr 7}, 0⟩, fun _ ↦ none⟩ ⟨0, .site (.incr 7)⟩
      ⟨⟨probedRules, { Redis.empty with ruleHits := siteHits }, {.expire 7}, 0⟩, fun _ ↦ none⟩ :=
    ⟨⟨.site (@HitStep.incr _ _ 7 0 rfl), hempty⟩,
      hquiet (hidle rfl) fun _ _ _ ↦ ProbeCommand.noConfusion,
      ⟨ProbeCommand.noConfusion, ProbeCommand.noConfusion⟩⟩
  have hbegin : ProbedStep
      ⟨⟨probedRules, { Redis.empty with ruleHits := siteHits }, {.expire 7}, 0⟩, fun _ ↦ none⟩
      ⟨0, .begin 9⟩ (probed siteHits .start) :=
    ⟨⟨.begin rfl rfl, siteHits_live⟩, hquiet (hidle rfl) fun _ _ _ ↦ ProbeCommand.noConfusion,
      ⟨fun h ↦ by cases h; rfl, ProbeCommand.noConfusion⟩⟩
  have hlisted := @ProbedStep.of_exec siteHits siteHits .start probeReading [7] siteHits_live
    siteHits_keys rfl
  have hstart : Run ProbedStep (.start probedRules) [] (.start probedRules) := .nil
  exact (((hstart.snoc hcall).snoc hincr).snoc hbegin).snoc hlisted

theorem probedGet_step :
    ProbedStep (probed siteHits probeReading) ⟨0, .probe 9 (.snapshotGet 7 []) .answered⟩
      (probed siteHits ⟨[(7, 1)], 0, 0, 0, 0, false, .incr⟩) :=
  ProbedStep.of_exec siteHits_live (listing_nil ProbePc.noConfusion ProbePc.noConfusion) rfl

/-- The counters once the probe has put back what it has read. -/
def restoredHits : KeySpace Uuid ℚ ℕ :=
  (((bothHits.delete 7).delete 9).delete 9).setex 0 7 172800 1

theorem probedSet_step :
    ProbedStep (probed (((bothHits.delete 7).delete 9).delete 9) probeRestoring)
      ⟨0, .probe 9 (.restore 7 1 []) .answered⟩ (probed restoredHits probeDone) :=
  ProbedStep.of_exec (((bothHits_live.delete 7).delete 9).delete 9)
    (listing_nil ProbePc.noConfusion ProbePc.noConfusion) rfl

/-- The whole run. -/
def probedEvents : List ProbeEvent :=
  ((probedBefore ++ [⟨0, .probe 9 (.snapshotGet 7 []) .answered⟩]) ++ probedBetween) ++
    [⟨0, .probe 9 (.restore 7 1 []) .answered⟩]

theorem probedEvents_run :
    Run ProbedStep (.start probedRules) probedEvents (probed restoredHits probeDone) :=
  ((probedBefore_run.snoc probedGet_step).append probedBetween_run).snoc probedSet_step

/-- The site at work while the probe stands before the `SET`. -/
def raced (hits : KeySpace Uuid ℚ ℕ) (records : Multiset RecordPc) (flushes : Multiset FlushPc) :
    ProbeWorld where
  toHitWorld := { (probed hits probeRestoring).toHitWorld with
    records := records, flushes := flushes }
  probes := (probed hits probeRestoring).probes

/-- What the probe leaves of the counters before the `SET`. -/
def leftHits : KeySpace Uuid ℚ ℕ := ((bothHits.delete 7).delete 9).delete 9

/-- A hit is counted, a flush of the site reads the counter, and another hit is counted. -/
def racedBetween : List ProbeEvent :=
  [⟨0, .site (.call 7)⟩, ⟨0, .site (.incr 7)⟩, ⟨0, .site .flush⟩, ⟨0, .site .keys⟩,
    ⟨0, .site (.getDel 7)⟩, ⟨0, .site (.call 7)⟩, ⟨0, .site (.incr 7)⟩]

theorem leftHits_live : leftHits.NoneExpired 0 :=
  ((bothHits_live.delete 7).delete 9).delete 9

theorem leftHits_cell (k : Uuid) : leftHits.cell k = none := by
  have hcell : leftHits.cell =
      Function.update (Function.update (Function.update bothHits.cell 7 none) 9 none) 9 none := rfl
  have hboth : bothHits.cell = Function.update (Function.update (Function.update (fun _ ↦ none) 7
    (some ⟨1, none⟩)) 9 (some ⟨1, none⟩)) 9 (some ⟨1, some (0 + 172800)⟩) := rfl
  rw [hcell, hboth]
  simp only [Function.update_apply]
  split_ifs <;> rfl

theorem leftHits_keys (k : Uuid) : k ∈ [7] ↔ ((leftHits.incr 0 7).get 0 k).isSome := by
  rw [(leftHits_live.incr 7).isSome_get, List.mem_singleton]
  have hcell : (leftHits.incr 0 7).cell =
      Function.update leftHits.cell 7 (some ⟨1, none⟩) := rfl
  rw [hcell, Function.update_apply, leftHits_cell]
  split_ifs with h
  · exact iff_of_true h rfl
  · exact iff_of_false h Bool.false_ne_true

theorem raced_step {hits hits' : KeySpace Uuid ℚ ℕ} {records records' : Multiset RecordPc}
    {flushes flushes' : Multiset FlushPc} {c : HitCommand} (hlive : hits.NoneExpired 0)
    (h : HitStep (raced hits records flushes).toHitWorld 0 c
      (raced hits' records' flushes').toHitWorld) :
    ProbeStep (raced hits records flushes) (ProbeEvent.mk 0 (.site c)).now
        (ProbeEvent.mk 0 (.site c)).command (raced hits' records' flushes') ∧
      (raced hits records flushes).redis.ruleHits.NoneExpired (ProbeEvent.mk 0 (.site c)).now :=
  ⟨.site h, hlive⟩

/-- The counters when the probe comes to its `SET`. -/
def racedHits : KeySpace Uuid ℚ ℕ := ((leftHits.incr 0 7).delete 7).incr 0 7

def racedRecords : Multiset RecordPc := .expire 7 ::ₘ .expire 7 ::ₘ {.expire 7}

theorem racedBetween_run :
    ProbeRun (raced leftHits {.expire 7} 0) racedBetween
      (raced racedHits racedRecords {.update 7 1 [] 0 1}) := by
  have hincr := leftHits_live.incr 7
  have hread := hincr.delete 7
  have hgot : 1 = ((leftHits.incr 0 7).get 0 7).getD 0 := (hincr.getD_get 7).symm
  have hstart : ProbeRun (raced leftHits {.expire 7} 0) [] (raced leftHits {.expire 7} 0) := .nil
  have hcalled := hstart.snoc (@raced_step _ leftHits _ (.incr 7 ::ₘ {.expire 7}) _ 0 _
    leftHits_live (.call rfl))
  have hcounted := hcalled.snoc (@raced_step _ (leftHits.incr 0 7) _ (.expire 7 ::ₘ {.expire 7}) _
    0 _ leftHits_live (@HitStep.incr _ _ 7 {.expire 7} rfl))
  have hbegun := hcounted.snoc (@raced_step _ (leftHits.incr 0 7) _ (.expire 7 ::ₘ {.expire 7}) _
    {.keys} _ hincr .flush)
  have hlisted := hbegun.snoc (@raced_step _ (leftHits.incr 0 7) _ (.expire 7 ::ₘ {.expire 7}) _
    {.read [7] 0 1} _ hincr (@HitStep.keys _ _ [7] 0 rfl (List.nodup_singleton 7) leftHits_keys))
  have hflushed := hlisted.snoc (@raced_step _ ((leftHits.incr 0 7).delete 7) _
    (.expire 7 ::ₘ {.expire 7}) _ {.update 7 1 [] 0 1} _ hincr
    (@HitStep.getDel _ _ 7 [] 0 1 1 0 rfl hgot))
  have hagain := hflushed.snoc (@raced_step _ ((leftHits.incr 0 7).delete 7) _
    (.incr 7 ::ₘ .expire 7 ::ₘ {.expire 7}) _ {.update 7 1 [] 0 1} _ hread (.call rfl))
  exact hagain.snoc (@raced_step _ racedHits _ racedRecords _ {.update 7 1 [] 0 1} _ hread
    (@HitStep.incr _ _ 7 (.expire 7 ::ₘ {.expire 7}) rfl))

/-- What the `SET` leaves then. -/
def racedDone : ProbeWorld :=
  (raced racedHits racedRecords {.update 7 1 [] 0 1}).after 0 9 probeRestoring .answered []

/-- Of the two hits in the window, the one the flush has read is accounted for and the other is
lost: eight have been counted. -/
theorem probe_window_accounts_probed :
    (probed siteHits probeReading).total 7 = 6 ∧ (probed siteHits probeReading).delivered 7 = 5 ∧
      racedDone.total 7 = 7 ∧ racedDone.delivered 7 = 6 ∧
      racedDone.total 7 + (probed siteHits probeReading).delivered 7 =
        (probed siteHits probeReading).total 7 + racedDone.delivered 7 := by
  have hset : ProbeStep (raced racedHits racedRecords {.update 7 1 [] 0 1}) 0
      (.probe 9 (.restore 7 1 []) .answered) racedDone :=
    @ProbeStep.probe _ 0 9 probeRestoring [] .answered rfl
      (listing_nil ProbePc.noConfusion ProbePc.noConfusion)
  have hwindow : ProbeRun (probed siteHits ⟨[(7, 1)], 0, 0, 0, 0, false, .incr⟩)
      (probedBetween ++ racedBetween) (raced racedHits racedRecords {.update 7 1 [] 0 1}) :=
    (probedBetween_run.imp fun h ↦ h.1).append racedBetween_run
  exact ⟨rfl, rfl, rfl, rfl, (probe_window_accounts (probedBefore_run.imp fun h ↦ h.1)
    probedGet_step.1.1 siteHits_live hwindow hset rfl rfl).1⟩

theorem quiet_probes_conserve_probed :
    (probed restoredHits probeDone).total 7 = 6 := by
  refine @quiet_probes_conserve _ _ _ 7 ⟨5, none⟩ rfl
    (probedEvents_run.imp fun h ↦ ⟨h.1, h.2.1⟩) ?_
  rintro ⟨r, p, hp, hpc⟩
  rw [probed_probes] at hp
  rcases update_eq_some hp with ⟨-, rfl⟩ | ⟨-, hold⟩
  · exact hpc rfl
  · cases hold

end DjangoWaf
