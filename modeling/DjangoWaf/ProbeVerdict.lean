import DjangoWaf.FlushProbe

/-!
# The verdict of a flush probe

A probe reports the flush path alive when the hit it has counted has reached its own row, and its
counter is gone. The counter can also be read by a flush of the site, whose `UPDATE` does not see
the row of the probe's transaction.

The hit of a probe that runs alone is followed through its commands (`Probe.Phase`): nothing has
counted it; then it is in the counter, unless a flush of the site has taken it; then the probe's
flush has read the counter, and found it or not. So the verdict says **who read the counter first**
(`alive_iff_read_first`).
-/

namespace DjangoWaf

/-! ### The verdict -/

/-- A probe's flush reads the probe's own counter. -/
def OwnRead (ruleId : Uuid) (e : ProbeEvent) : Prop :=
  ∃ keys, e.command = .probe ruleId (.flushRead ruleId keys) .answered

/-- A flush of the site has read, and deleted, the probe's counter. -/
def CounterTaken (ruleId : Uuid) (es : List ProbeEvent) : Prop :=
  ∃ e ∈ es, e.command = .site (.getDel ruleId)

/-- The probe's flush reads the probe's counter, and no flush of the site has done so before. -/
def ReadFirst (ruleId : Uuid) (es : List ProbeEvent) : Prop :=
  ∃ pre e post, es = pre ++ e :: post ∧ OwnRead ruleId e ∧ ¬ CounterTaken ruleId pre

theorem readFirst_concat {ruleId : Uuid} {es : List ProbeEvent} {e : ProbeEvent} :
    ReadFirst ruleId (es ++ [e]) ↔
      ReadFirst ruleId es ∨ OwnRead ruleId e ∧ ¬ CounterTaken ruleId es := by
  constructor
  · rintro ⟨pre, e', post, heq, hread, hfirst⟩
    rcases concat_eq_append_cons heq with ⟨rfl, rfl, -⟩ | ⟨post', -, hes⟩
    · exact .inr ⟨hread, hfirst⟩
    · exact .inl ⟨pre, e', post', hes, hread, hfirst⟩
  · rintro (⟨pre, e', post, rfl, hread, hfirst⟩ | ⟨hread, hfirst⟩)
    · exact ⟨pre, e', post ++ [e], by simp, hread, hfirst⟩
    · exact ⟨es, e, [], rfl, hread, hfirst⟩

theorem readFirst_concat_of_not {ruleId : Uuid} {es : List ProbeEvent} {e : ProbeEvent}
    (h : ¬ OwnRead ruleId e) : ReadFirst ruleId (es ++ [e]) ↔ ReadFirst ruleId es := by
  rw [readFirst_concat]
  exact or_iff_left fun hread ↦ h hread.1

theorem counterTaken_concat {ruleId : Uuid} {es : List ProbeEvent} {e : ProbeEvent} :
    CounterTaken ruleId (es ++ [e]) ↔
      CounterTaken ruleId es ∨ e.command = .site (.getDel ruleId) := by
  simp only [CounterTaken, List.mem_append, List.mem_singleton, or_and_right, exists_or,
    exists_eq_left]

/-- A flush of the site has yet to read a counter. -/
def FlushPc.Lists (ruleId : Uuid) : FlushPc → Prop
  | .keys => False
  | .read ks _ _ => ruleId ∈ ks
  | .update _ _ ks _ _ => ruleId ∈ ks

/-- Nothing has counted the probe's hit. -/
structure HitUntouched (ruleId : Uuid) (es : List ProbeEvent) (w : HitWorld) : Prop where
  cell : w.redis.ruleHits.cell ruleId = none
  lists : ∀ pc ∈ w.flushes, ¬ pc.Lists ruleId
  taken : ¬ CounterTaken ruleId es
  read : ¬ ReadFirst ruleId es

/-- The probe has counted its hit, and not yet read it back. -/
structure HitPending (ruleId : Uuid) (es : List ProbeEvent) (w : HitWorld) : Prop where
  counter : ¬ CounterTaken ruleId es ∧ w.redis.ruleHits.stored ruleId = 1 ∨
    CounterTaken ruleId es ∧ w.redis.ruleHits.cell ruleId = none
  read : ¬ ReadFirst ruleId es

/-- The probe's flush will not read the probe's counter again. -/
structure HitSettled (ruleId : Uuid) (es : List ProbeEvent) (w : HitWorld) (hitCount : ℕ) :
    Prop where
  cell : w.redis.ruleHits.cell ruleId = none
  hitCount : hitCount = 1 ↔ ReadFirst ruleId es

/-- The probe's flush has the given keys to read. -/
def Flushing (ruleId : Uuid) (es : List ProbeEvent) (w : HitWorld) (hitCount : ℕ)
    (keys : List Uuid) : Prop :=
  keys.Nodup ∧ (ruleId ∈ keys → HitPending ruleId es w ∧ hitCount = 0) ∧
    (ruleId ∉ keys → HitSettled ruleId es w hitCount)

/-- Where a probe's hit is, at each of its commands. -/
def Probe.Phase (ruleId : Uuid) (es : List ProbeEvent) (w : HitWorld) (p : Probe) : Prop :=
  match p.pc with
  | .snapshotKeys | .snapshotGet _ _ | .incr => HitUntouched ruleId es w ∧ p.hitCount = 0
  | .expire | .flushKeys => HitPending ruleId es w ∧ p.hitCount = 0
  | .flushRead key keys => Flushing ruleId es w p.hitCount (key :: keys)
  | .flushUpdate key count keys =>
    Flushing ruleId es w (if key = ruleId then p.hitCount + count else p.hitCount) keys
  | .keyIsAbsent => HitSettled ruleId es w p.hitCount
  | _ => (p.hitCount = 1 ↔ ReadFirst ruleId es) ∧ p.keyDeleted

section Phases

variable {ruleId : Uuid} {es : List ProbeEvent} {w : HitWorld} {p : Probe}

theorem Probe.phase_snapshotFrom {keys : List Uuid} (hpc : p.pc = snapshotFrom keys)
    (h : HitUntouched ruleId es w ∧ p.hitCount = 0) : p.Phase ruleId es w := by
  rw [Probe.Phase, hpc]
  rcases keys with - | ⟨key, keys⟩
  · exact h
  · exact h

theorem Probe.phase_flushFrom {keys : List Uuid} (hpc : p.pc = flushFrom keys)
    (h : Flushing ruleId es w p.hitCount keys) : p.Phase ruleId es w := by
  rw [Probe.Phase, hpc]
  rcases keys with - | ⟨key, keys⟩
  · exact h.2.2 List.not_mem_nil
  · exact h

theorem Probe.phase_flushCount {key : Uuid} {count : ℕ} {keys : List Uuid}
    (hpc : p.pc = flushCount key count keys)
    (h : Flushing ruleId es w (if key = ruleId then p.hitCount + count else p.hitCount) keys) :
    p.Phase ruleId es w := by
  rw [flushCount] at hpc
  split at hpc
  · rename_i hzero
    rw [hzero, Nat.add_zero, ite_self] at h
    exact Probe.phase_flushFrom hpc h
  · rw [Probe.Phase, hpc]
    exact h

theorem Probe.phase_restoreFrom {entries : List (Uuid × ℕ)} (hpc : p.pc = restoreFrom entries)
    (h : (p.hitCount = 1 ↔ ReadFirst ruleId es) ∧ p.keyDeleted) : p.Phase ruleId es w := by
  induction entries with
  | nil =>
    rw [Probe.Phase, hpc]
    exact h
  | cons e entries ih =>
    rw [restoreFrom] at hpc
    split at hpc
    · exact ih hpc
    · rw [Probe.Phase, hpc]
      exact h

end Phases

/-! Steps of the site, on which a probe's counter depends through its reads alone. -/

section SiteSteps

variable {w w' : HitWorld} {now : ℚ} {c : HitCommand} {ruleId : Uuid} {es : List ProbeEvent}
  {t : ℚ}

/-- The site counts hits of its own rules alone. -/
structure NoHits (ruleId : Uuid) (w : HitWorld) : Prop where
  rule : w.rules ruleId = none
  records : RecordPc.incr ruleId ∉ w.records

theorem NoHits.step (h : HitStep w now c w') (hw : NoHits ruleId w) :
    c ≠ .incr ruleId ∧ NoHits ruleId w' := by
  have hrule := h.rules_eq_none hw.rule
  rcases h with h | h | h | - | - | - | -
  case call r =>
    refine ⟨HitCommand.noConfusion, hrule, fun hmem ↦ ?_⟩
    rcases Multiset.mem_cons.1 hmem with heq | hmem
    · cases heq
      rw [hw.rule] at h
      cases h
    · exact hw.records hmem
  case incr r others =>
    have hrecords := hw.records
    rw [h, Multiset.mem_cons, not_or] at hrecords
    refine ⟨fun heq ↦ hrecords.1 ?_, hrule, fun hmem ↦ ?_⟩
    · cases heq
      rfl
    · rcases Multiset.mem_cons.1 hmem with heq | hmem
      · cases heq
      · exact hrecords.2 hmem
  case expire r others =>
    have hrecords := hw.records
    rw [h, Multiset.mem_cons, not_or] at hrecords
    refine ⟨HitCommand.noConfusion, hrule, fun hmem ↦ ?_⟩
    rcases Multiset.mem_cons.1 hmem with heq | hmem
    · cases heq
    · exact hrecords.2 hmem
  all_goals exact ⟨HitCommand.noConfusion, hrule, hw.records⟩

/-- The site does not make a counter that it does not count on. -/
theorem HitStep.cell_none (h : HitStep w now c w') (hc : c ≠ .incr ruleId)
    (hcell : w.redis.ruleHits.cell ruleId = none) : w'.redis.ruleHits.cell ruleId = none := by
  rcases h with - | - | - | - | - | - | -
  case incr r _ =>
    have hne : ruleId ≠ r := fun heq ↦ hc (by rw [heq])
    show (w.redis.ruleHits.incr now r).cell ruleId = none
    rw [KeySpace.incr]
    split
    · exact (KeySpace.cell_put_of_ne _ _ hne).trans hcell
    · exact (KeySpace.cell_put_of_ne _ _ hne).trans hcell
  case expire r _ =>
    show (w.redis.ruleHits.expire now r 172800).cell ruleId = none
    exact KeySpace.cell_expire_of_none hcell now r 172800
  case getDel r _ _ _ _ _ _ =>
    rcases eq_or_ne ruleId r with rfl | hne
    · exact w.redis.ruleHits.cell_delete_self ruleId
    · exact (Function.update_of_ne hne _ _).trans hcell
  all_goals exact hcell

/-- A flush lists no counter that does not exist. -/
theorem HitStep.lists (h : HitStep w now c w') (hcell : w.redis.ruleHits.cell ruleId = none)
    (hlists : ∀ pc ∈ w.flushes, ¬ pc.Lists ruleId) :
    c ≠ .getDel ruleId ∧ ∀ pc ∈ w'.flushes, ¬ pc.Lists ruleId := by
  -- a flush takes a step, and the others stay as they were
  have hstep {pc pc' : FlushPc} {others : Multiset FlushPc} (hw : w.flushes = pc ::ₘ others)
      (hpc' : ¬ pc.Lists ruleId → ¬ pc'.Lists ruleId) : ∀ q ∈ pc' ::ₘ others, ¬ q.Lists ruleId := by
    rw [hw] at hlists
    intro q hq
    rcases Multiset.mem_cons.1 hq with rfl | hq
    · exact hpc' (hlists pc (Multiset.mem_cons_self _ _))
    · exact hlists q (Multiset.mem_cons_of_mem hq)
  rcases h with - | - | - | - | ⟨h, -, hkeys⟩ | ⟨h, -⟩ | h
  case flush =>
    refine ⟨HitCommand.noConfusion, fun q hq ↦ ?_⟩
    rcases Multiset.mem_cons.1 hq with rfl | hq
    · exact id
    · exact hlists q hq
  case keys =>
    refine ⟨HitCommand.noConfusion, hstep h fun _ hlisted ↦ ?_⟩
    have hsome := (hkeys ruleId).1 hlisted
    rw [KeySpace.get_of_cell_none hcell] at hsome
    cases hsome
  case getDel r ks flushed keysSeen count others =>
    have hread := hlists _ (h ▸ Multiset.mem_cons_self _ _)
    refine ⟨fun heq ↦ hread ?_, hstep h fun hnot hin ↦ hnot ?_⟩
    · cases heq
      exact List.mem_cons_self
    · refine List.mem_cons_of_mem r ?_
      split at hin
      · exact hin
      · exact hin
  case update => exact ⟨HitCommand.noConfusion, hstep h fun hnot ↦ hnot⟩
  all_goals exact ⟨HitCommand.noConfusion, hlists⟩

theorem not_ownRead_site {c : HitCommand} : ¬ OwnRead ruleId ⟨t, .site c⟩ := by
  rintro ⟨keys, ⟨⟩⟩

theorem HitUntouched.site (hw : HitUntouched ruleId es w) (h : HitStep w now c w')
    (hc : c ≠ .incr ruleId) : HitUntouched ruleId (es ++ [⟨t, .site c⟩]) w' := by
  obtain ⟨hread, hlists⟩ := h.lists hw.cell hw.lists
  refine ⟨h.cell_none hc hw.cell, hlists, ?_, ?_⟩
  · rw [counterTaken_concat]
    rintro (htaken | heq)
    · exact hw.taken htaken
    · cases heq
      exact hread rfl
  · rw [readFirst_concat_of_not not_ownRead_site]
    exact hw.read

theorem HitPending.site (hw : HitPending ruleId es w) (h : HitStep w now c w')
    (hlive : w.redis.ruleHits.NoneExpired now) (hc : c ≠ .incr ruleId) :
    HitPending ruleId (es ++ [⟨t, .site c⟩]) w' := by
  have hread : ¬ ReadFirst ruleId (es ++ [⟨t, .site c⟩]) := by
    rw [readFirst_concat_of_not not_ownRead_site]
    exact hw.read
  refine ⟨?_, hread⟩
  rw [counterTaken_concat]
  rcases eq_or_ne c (.getDel ruleId) with rfl | hne
  · exact .inr ⟨.inr rfl, h.cell_eq_none⟩
  · have hcommand : ProbeCommand.site c ≠ .site (.getDel ruleId) := by
      rintro ⟨⟩
      exact hne rfl
    rcases hw.counter with ⟨htaken, hone⟩ | ⟨htaken, hnone⟩
    · refine .inl ⟨?_, ?_⟩
      · rintro (hbefore | heq)
        · exact htaken hbefore
        · exact hcommand heq
      · rw [h.stored_eq hlive hne, hone, HitCommand.adds_eq_zero hc]
    · exact .inr ⟨.inl htaken, h.cell_none hc hnone⟩

theorem HitSettled.site {hitCount : ℕ} (hw : HitSettled ruleId es w hitCount)
    (h : HitStep w now c w') (hc : c ≠ .incr ruleId) :
    HitSettled ruleId (es ++ [⟨t, .site c⟩]) w' hitCount := by
  refine ⟨h.cell_none hc hw.cell, ?_⟩
  rw [readFirst_concat_of_not not_ownRead_site]
  exact hw.hitCount

theorem Flushing.site {hitCount : ℕ} {keys : List Uuid} (hw : Flushing ruleId es w hitCount keys)
    (h : HitStep w now c w') (hlive : w.redis.ruleHits.NoneExpired now) (hc : c ≠ .incr ruleId) :
    Flushing ruleId (es ++ [⟨t, .site c⟩]) w' hitCount keys := by
  obtain ⟨hkeys, hin, hout⟩ := hw
  exact ⟨hkeys, fun hmem ↦ (hin hmem).imp_left fun hpending ↦ hpending.site h hlive hc,
    fun hmem ↦ (hout hmem).site h hc⟩

/-- **A step of the site** keeps where a probe's hit is. -/
theorem Probe.Phase.site {p : Probe} (hw : p.Phase ruleId es w) (h : HitStep w now c w')
    (hlive : w.redis.ruleHits.NoneExpired now) (hc : c ≠ .incr ruleId) :
    p.Phase ruleId (es ++ [⟨t, .site c⟩]) w' := by
  have hread : ReadFirst ruleId (es ++ [⟨t, .site c⟩]) ↔ ReadFirst ruleId es :=
    readFirst_concat_of_not not_ownRead_site
  rcases hpc : p.pc with - | ⟨key, ks⟩ | - | - | - | ⟨key, ks⟩ | ⟨key, count, ks⟩ | - | - |
    ⟨key, count, rest⟩ | -
  all_goals simp only [Probe.Phase, hpc] at hw ⊢
  case snapshotKeys | snapshotGet | incr => exact ⟨hw.1.site h hc, hw.2⟩
  case expire | flushKeys => exact ⟨hw.1.site h hlive hc, hw.2⟩
  case flushRead | flushUpdate => exact hw.site h hlive hc
  case keyIsAbsent => exact hw.site h hc
  all_goals
    rw [hread]
    exact hw

end SiteSteps

/-! Commands of the probe that do not touch its counter. -/

section Congr

variable {w w' : HitWorld} {ruleId : Uuid} {es es' : List ProbeEvent}

theorem HitUntouched.congr (hw : HitUntouched ruleId es w)
    (hcell : w'.redis.ruleHits.cell ruleId = w.redis.ruleHits.cell ruleId)
    (hflushes : w'.flushes = w.flushes) (htaken : CounterTaken ruleId es' ↔ CounterTaken ruleId es)
    (hread : ReadFirst ruleId es' ↔ ReadFirst ruleId es) : HitUntouched ruleId es' w' := by
  refine ⟨hcell.trans hw.cell, ?_, htaken.not.2 hw.taken, hread.not.2 hw.read⟩
  rw [hflushes]
  exact hw.lists

theorem HitPending.congr (hw : HitPending ruleId es w)
    (hcell : w'.redis.ruleHits.cell ruleId = w.redis.ruleHits.cell ruleId)
    (htaken : CounterTaken ruleId es' ↔ CounterTaken ruleId es)
    (hread : ReadFirst ruleId es' ↔ ReadFirst ruleId es) : HitPending ruleId es' w' := by
  refine ⟨?_, hread.not.2 hw.read⟩
  rw [htaken, KeySpace.stored, hcell]
  exact hw.counter

theorem HitSettled.congr {hitCount : ℕ} (hw : HitSettled ruleId es w hitCount)
    (hcell : w'.redis.ruleHits.cell ruleId = w.redis.ruleHits.cell ruleId)
    (hread : ReadFirst ruleId es' ↔ ReadFirst ruleId es) : HitSettled ruleId es' w' hitCount :=
  ⟨hcell.trans hw.cell, hw.hitCount.trans hread.symm⟩

theorem Flushing.congr {hitCount : ℕ} {keys : List Uuid} (hw : Flushing ruleId es w hitCount keys)
    (hcell : w'.redis.ruleHits.cell ruleId = w.redis.ruleHits.cell ruleId)
    (htaken : CounterTaken ruleId es' ↔ CounterTaken ruleId es)
    (hread : ReadFirst ruleId es' ↔ ReadFirst ruleId es) :
    Flushing ruleId es' w' hitCount keys :=
  ⟨hw.1, fun hin ↦ (hw.2.1 hin).imp_left fun hpending ↦ hpending.congr hcell htaken hread,
    fun hout ↦ (hw.2.2 hout).congr hcell hread⟩

end Congr

/-! Commands of the probe. -/

section ProbeSteps

variable {w : ProbeWorld} {now : ℚ} {ruleId : Uuid} {es : List ProbeEvent} {p : Probe}
  {keys : List Uuid}

/-- **A command of the probe**, which does not fail, takes its hit to the next place. -/
theorem Probe.Phase.exec (h : p.Phase ruleId es w.toHitWorld)
    (hlive : w.redis.ruleHits.NoneExpired now) (hkeys : Listing w.redis.ruleHits now p.pc keys) :
    (p.exec ruleId now .answered keys w.rules w.redis.ruleHits).2.Phase ruleId
      (es ++ [⟨now, .probe ruleId p.pc .answered⟩])
      (w.after now ruleId p .answered keys).toHitWorld := by
  have hread (hown : ∀ ks, p.pc ≠ .flushRead ruleId ks) :
      ReadFirst ruleId (es ++ [⟨now, .probe ruleId p.pc .answered⟩]) ↔ ReadFirst ruleId es := by
    refine readFirst_concat_of_not ?_
    rintro ⟨ks, heq⟩
    injection heq with _ hpc
    exact hown ks hpc
  have htaken : CounterTaken ruleId (es ++ [⟨now, .probe ruleId p.pc .answered⟩]) ↔
      CounterTaken ruleId es := by
    rw [counterTaken_concat]
    exact or_iff_left ProbeCommand.noConfusion
  have hexec : (w.after now ruleId p .answered keys).redis.ruleHits =
    (p.exec ruleId now .answered keys w.rules w.redis.ruleHits).1 := rfl
  have hflushes : (w.after now ruleId p .answered keys).flushes = w.flushes := rfl
  generalize (w.after now ruleId p .answered keys).toHitWorld = w' at hexec hflushes ⊢
  rcases hpc : p.pc with - | ⟨key, ks⟩ | - | - | - | ⟨key, ks⟩ | ⟨key, count, ks⟩ | - | - |
    ⟨key, count, rest⟩ | -
  all_goals
    rw [hpc] at hread htaken
    simp only [Probe.Phase, hpc] at h
    simp only [Probe.exec, hpc] at hexec ⊢
  case snapshotKeys =>
    refine Probe.phase_snapshotFrom rfl ⟨?_, h.2⟩
    exact h.1.congr (congrArg (KeySpace.cell · ruleId) hexec) hflushes htaken
      (hread fun _ ↦ ProbePc.noConfusion)
  case snapshotGet =>
    refine Probe.phase_snapshotFrom rfl ⟨?_, h.2⟩
    exact h.1.congr (congrArg (KeySpace.cell · ruleId) hexec) hflushes htaken
      (hread fun _ ↦ ProbePc.noConfusion)
  case incr =>
    have hcount : w'.redis.ruleHits.stored ruleId = 1 := by
      have hstored : w.redis.ruleHits.stored ruleId = 0 := by
        rw [KeySpace.stored, h.1.cell]
        rfl
      rw [hexec]
      show (w.redis.ruleHits.incr now ruleId).stored ruleId = 1
      rw [hlive.stored_incr, hstored, if_pos rfl]
    show HitPending ruleId _ w' ∧ p.hitCount = 0
    refine ⟨⟨.inl ⟨htaken.not.2 h.1.taken, hcount⟩, ?_⟩, h.2⟩
    rw [hread fun _ ↦ ProbePc.noConfusion]
    exact h.1.read
  case expire =>
    have hcell : w'.redis.ruleHits = w.redis.ruleHits.expire now ruleId 172800 := hexec
    show HitPending ruleId _ w' ∧ p.hitCount = 0
    refine ⟨⟨?_, ?_⟩, h.2⟩
    · rw [htaken, hcell, KeySpace.stored_expire]
      exact h.1.counter.imp_right fun hgone ↦
        ⟨hgone.1, KeySpace.cell_expire_of_none hgone.2 now ruleId 172800⟩
    · rw [hread fun _ ↦ ProbePc.noConfusion]
      exact h.1.read
  case flushKeys =>
    have hcell : w'.redis.ruleHits.cell ruleId = w.redis.ruleHits.cell ruleId :=
      congrArg (KeySpace.cell · ruleId) hexec
    have hread := hread fun _ ↦ ProbePc.noConfusion
    obtain ⟨hnodup, hlisted⟩ := hkeys (.inr hpc)
    refine @Probe.phase_flushFrom ruleId _ w' _ keys rfl ⟨hnodup, fun _ ↦ ?_, fun hout ↦ ?_⟩
    · exact ⟨h.1.congr hcell htaken hread, h.2⟩
    · -- the counter is listed as long as it is there
      have hnone : w.redis.ruleHits.cell ruleId = none := by
        rcases h.1.counter with ⟨-, hone⟩ | ⟨-, hnone⟩
        · rw [hlisted, Option.not_isSome_iff_eq_none] at hout
          rw [← hlive.getD_get, hout] at hone
          cases hone
        · exact hnone
      refine ⟨hcell.trans hnone, ?_⟩
      rw [hread]
      refine ⟨fun hone ↦ ?_, fun hfirst ↦ absurd hfirst h.1.read⟩
      have hzero : p.hitCount = 1 := hone
      rw [h.2] at hzero
      cases hzero
  case flushRead =>
    have hhits : w'.redis.ruleHits = w.redis.ruleHits.delete key := hexec
    obtain ⟨hnodup, hin, hout⟩ := h
    obtain ⟨hkey, hks⟩ := List.nodup_cons.1 hnodup
    refine Probe.phase_flushCount rfl ?_
    rcases eq_or_ne key ruleId with rfl | hne
    · -- the counter is read, and it holds the hit unless a flush of the site has read it before
      obtain ⟨hpending, hzero⟩ := hin List.mem_cons_self
      refine ⟨hks, fun hmem ↦ absurd hmem hkey, fun _ ↦ ⟨?_, ?_⟩⟩
      · rw [hhits]
        exact w.redis.ruleHits.cell_delete_self key
      · rw [if_pos rfl, hlive.getD_get, readFirst_concat]
        show p.hitCount + _ = 1 ↔ _
        rw [hzero, Nat.zero_add]
        refine ⟨fun hone ↦ .inr ⟨⟨ks, rfl⟩, ?_⟩, ?_⟩
        · rcases hpending.counter with ⟨htaken, -⟩ | ⟨-, hnone⟩
          · exact htaken
          · rw [KeySpace.stored, hnone] at hone
            cases hone
        · rintro (hfirst | ⟨-, hfirst⟩)
          · exact absurd hfirst hpending.read
          · exact (hpending.counter.resolve_right fun hgone ↦ hfirst hgone.1).2
    · rw [if_neg hne]
      have hcell : w'.redis.ruleHits.cell ruleId = w.redis.ruleHits.cell ruleId := by
        rw [hhits]
        exact Function.update_of_ne (Ne.symm hne) _ _
      have hother (ks' : List Uuid) : ProbePc.flushRead key ks ≠ .flushRead ruleId ks' := by
        rintro ⟨⟩
        exact hne rfl
      have hflushing : Flushing ruleId es w.toHitWorld p.hitCount ks :=
        ⟨hks, fun hmem ↦ hin (List.mem_cons_of_mem _ hmem),
          fun hmem ↦ hout (by simp [hmem, Ne.symm hne])⟩
      exact hflushing.congr hcell htaken (hread hother)
  case flushUpdate =>
    have hcell : w'.redis.ruleHits.cell ruleId = w.redis.ruleHits.cell ruleId :=
      congrArg (KeySpace.cell · ruleId) hexec
    exact Probe.phase_flushFrom rfl
      (Flushing.congr h hcell htaken (hread fun _ ↦ ProbePc.noConfusion))
  case keyIsAbsent =>
    show (p.hitCount = 1 ↔ ReadFirst ruleId _) ∧ (!false && _) = true
    refine ⟨?_, ?_⟩
    · rw [hread fun _ ↦ ProbePc.noConfusion]
      exact h.hitCount
    · rw [KeySpace.get_of_cell_none h.cell]
      rfl
  case cleanup =>
    refine @Probe.phase_restoreFrom ruleId _ w' _ p.snapshot rfl ?_
    rw [hread fun _ ↦ ProbePc.noConfusion]
    exact h
  case restore =>
    refine @Probe.phase_restoreFrom ruleId _ w' _ rest rfl ?_
    rw [hread fun _ ↦ ProbePc.noConfusion]
    exact h
  case done =>
    rw [Probe.Phase, hpc]
    rw [hread fun _ ↦ ProbePc.noConfusion]
    exact h

end ProbeSteps

/-- A run with one probe, whose commands succeed. -/
def LoneProbeRun (ruleId : Uuid) (rules : Uuid → Option HitRow) (es : List ProbeEvent)
    (w : ProbeWorld) : Prop :=
  Run (fun w e w' ↦ (ProbeStep w e.now e.command w' ∧ w.redis.ruleHits.NoneExpired e.now) ∧
    Alone ruleId e.command) (.start rules) es w

/-- Where the hit of a lone probe is. -/
structure ProbeWorld.Tracks (w : ProbeWorld) (ruleId : Uuid) (es : List ProbeEvent) : Prop where
  noHits : NoHits ruleId w.toHitWorld
  none : w.probes ruleId = none → HitUntouched ruleId es w.toHitWorld
  some : ∀ {p}, w.probes ruleId = some p → p.Phase ruleId es w.toHitWorld

theorem ProbeWorld.Tracks.start {rules : Uuid → Option HitRow} {ruleId : Uuid}
    (hrule : rules ruleId = Option.none) : (ProbeWorld.start rules).Tracks ruleId [] := by
  refine ⟨⟨hrule, Multiset.notMem_zero _⟩, fun _ ↦ ⟨rfl, ?_, ?_, ?_⟩, ?_⟩
  · intro pc hpc
    exact absurd hpc (Multiset.notMem_zero pc)
  · rintro ⟨e, ⟨⟩, -⟩
  · rintro ⟨pre, e, post, heq, -⟩
    simp at heq
  · rintro p ⟨⟩

theorem ProbeWorld.Tracks.step {w w' : ProbeWorld} {now : ℚ} {c : ProbeCommand} {ruleId : Uuid}
    {es : List ProbeEvent} (hw : w.Tracks ruleId es) (h : ProbeStep w now c w')
    (hlive : w.redis.ruleHits.NoneExpired now) (halone : Alone ruleId c) :
    w'.Tracks ruleId (es ++ [⟨now, c⟩]) := by
  rcases h with h | ⟨hrule, hprobe⟩ | ⟨o, hp, hkeys⟩
  case site =>
    obtain ⟨hc, hnoHits⟩ := hw.noHits.step h
    exact ⟨hnoHits, fun hnone ↦ (hw.none hnone).site h hc,
      fun hp ↦ (hw.some hp).site h hlive hc⟩
  case begin r =>
    obtain rfl := halone.begin rfl
    have hread : ReadFirst r (es ++ [⟨now, .begin r⟩]) ↔ ReadFirst r es := by
      refine readFirst_concat_of_not ?_
      rintro ⟨ks, ⟨⟩⟩
    have htaken : CounterTaken r (es ++ [⟨now, .begin r⟩]) ↔ CounterTaken r es := by
      rw [counterTaken_concat]
      exact or_iff_left ProbeCommand.noConfusion
    refine ⟨hw.noHits, fun hnone ↦ ?_, fun {p'} hp' ↦ ?_⟩
    · exact (hw.none hprobe).congr rfl rfl htaken hread
    · rcases update_eq_some hp' with ⟨-, rfl⟩ | ⟨hne, -⟩
      · exact ⟨(hw.none hprobe).congr rfl rfl htaken hread, rfl⟩
      · exact absurd rfl hne
  case probe r p keys =>
    obtain ⟨rfl, rfl⟩ := halone.probe rfl
    refine ⟨⟨hw.noHits.rule, hw.noHits.records⟩, fun hnone ↦ ?_, fun {p'} hp' ↦ ?_⟩
    · have hsome := (Function.update_self r _ w.probes).symm.trans hnone
      cases hsome
    · rcases update_eq_some hp' with ⟨-, rfl⟩ | ⟨hne, -⟩
      · exact (hw.some hp).exec hlive hkeys
      · exact absurd rfl hne

/-- A probe's rule is none of the site's. -/
theorem ProbeStep.probes_eq_none {w w' : ProbeWorld} {now : ℚ} {c : ProbeCommand}
    (h : ProbeStep w now c w') {ruleId : Uuid} (hrule : (w.rules ruleId).isSome)
    (hprobe : w.probes ruleId = none) : w'.probes ruleId = none := by
  rcases h with - | ⟨hnone, -⟩ | ⟨o, hp, -⟩
  · exact hprobe
  · refine (Function.update_of_ne ?_ _ _).trans hprobe
    rintro rfl
    rw [hnone] at hrule
    cases hrule
  · refine (Function.update_of_ne ?_ _ _).trans hprobe
    rintro rfl
    rw [hprobe] at hp
    cases hp

theorem ProbeRun.probes_eq_none {w w' : ProbeWorld} {es : List ProbeEvent} (hrun : ProbeRun w es w')
    {ruleId : Uuid} (hrule : (w.rules ruleId).isSome) (hprobe : w.probes ruleId = none) :
    w'.probes ruleId = none := by
  induction hrun with
  | nil => exact hprobe
  | snoc hrun hstep ih => exact hstep.1.probes_eq_none (ProbeRun.delivered_eq hrun hrule).1 ih

/-- **A lone probe finds the flush path alive exactly when it reads its own counter first**: no
flush of the site has read it before the probe's own does. -/
theorem alive_iff_read_first {rules : Uuid → Option HitRow} {ruleId : Uuid}
    {es : List ProbeEvent} {w : ProbeWorld} {p : Probe} (hrun : LoneProbeRun ruleId rules es w)
    (hp : w.probes ruleId = some p) (hdone : p.pc = .done) :
    p.result.alive ↔ ReadFirst ruleId es := by
  -- the probe has created its rule, so there was none of its key
  have hrule : rules ruleId = none := by
    rw [← Option.not_isSome_iff_eq_none]
    intro hsome
    have hnever := ProbeRun.probes_eq_none (hrun.imp fun hstep ↦ hstep.1) hsome rfl
    rw [hnever] at hp
    cases hp
  have htracks : w.Tracks ruleId es := by
    refine Run.invariant (P := fun es w ↦ w.Tracks ruleId es) (.start hrule) ?_ hrun
    exact fun _ hw hstep ↦ hw.step hstep.1.1 hstep.1.2 hstep.2
  have hphase := htracks.some hp
  rw [Probe.Phase, hdone] at hphase
  rw [Probe.result_alive, ← hphase.1]
  exact and_iff_left hphase.2

theorem alive_iff_read_first_probed :
    probeDone.result.alive = true ∧ ReadFirst 9 probedEvents := by
  have halive : probeDone.result.alive = true := rfl
  have hp : (probed restoredHits probeDone).probes 9 = some probeDone := by
    rw [probed_probes, Function.update_self]
  exact ⟨halive, (alive_iff_read_first (probedEvents_run.imp fun h ↦ ⟨h.1, h.2.2⟩) hp rfl).1 halive⟩

end DjangoWaf
