import DjangoWaf.HitCounts

/-!
# The flush probe, command by command

`run_flush_probe` creates a rule of its own inside a transaction that is always rolled back, counts
one hit of it with the real `_record_rule_hit`, and runs the real `flush_rule_hit_counts`. That task
takes every counter of the site, and what it writes is rolled back, while what it deletes from Redis
is not. So the probe first reads all other counters, and in the end puts them back.

Its commands take turns with the calls and flushes of the site, and with those of other probes, and
each of its own commands may fail, before or after the server has executed it. The rows of the
transaction are seen by the probe alone, so they are kept with the probe.

* `Probe.exec` is one command; `ProbeStep` is one command of any of the parties.
* A command of a probe changes the counter of another rule where it **deletes or restores** it
  (`Probe.stored_exec`).
* The snapshot has **one entry for each key**, and a probe restores entries of it alone
  (`Probe.Consistent`).
-/

namespace DjangoWaf

/-! ### The probe -/

/-- How a command that Redis is sent ends. -/
inductive RedisOutcome
  | answered
  /-- The server executes the command, and the answer is lost. -/
  | unanswered
  | refused
  deriving DecidableEq

/-- The server executes the command. -/
def RedisOutcome.executed (o : RedisOutcome) : Bool := o ≠ .refused

/-- The client raises. -/
def RedisOutcome.raises (o : RedisOutcome) : Bool := o ≠ .answered

/-- The command a run of `run_flush_probe` executes next, from its rule's creation on. -/
inductive ProbePc
  /-- `KEYS` of `_snapshot_other_keys`. -/
  | snapshotKeys
  /-- `GET` of `_snapshot_other_keys`, with the keys it has yet to read. -/
  | snapshotGet (key : Uuid) (keys : List Uuid)
  /-- `INCR` of `_record_rule_hit`. -/
  | incr
  | expire
  /-- `KEYS` of `flush_rule_hit_counts`. -/
  | flushKeys
  /-- The pipeline of `GET` and `DEL`. -/
  | flushRead (key : Uuid) (keys : List Uuid)
  /-- The `UPDATE` of the rule whose counter has been read and deleted. -/
  | flushUpdate (key : Uuid) (count : ℕ) (keys : List Uuid)
  /-- `GET` of `_key_is_absent`. -/
  | keyIsAbsent
  /-- `DEL` of `_cleanup_probe_key`, after the rollback. -/
  | cleanup
  /-- `SET` of `_reconcile_other_keys`, with the entries it has yet to restore. -/
  | restore (key : Uuid) (count : ℕ) (rest : List (Uuid × ℕ))
  | done
  deriving DecidableEq

/-- A run of `run_flush_probe`, in the variables it keeps. -/
structure Probe where
  /-- `other_keys_snapshot`. -/
  snapshot : List (Uuid × ℕ)
  /-- The column of its own rule, inside its transaction. -/
  hitCount : ℕ
  flushed : ℕ
  keysSeen : ℕ
  errors : ℕ
  keyDeleted : Bool
  pc : ProbePc
  deriving DecidableEq

/-- The rule has been created. -/
def Probe.start : Probe := ⟨[], 0, 0, 0, 0, false, .snapshotKeys⟩

/-- `for key in keys` of `_snapshot_other_keys`. -/
def snapshotFrom : List Uuid → ProbePc
  | [] => .incr
  | key :: keys => .snapshotGet key keys

/-- `if value is not None: snapshot[key_str] = value`, for a key the snapshot does not have. -/
def remember (snapshot : List (Uuid × ℕ)) (key : Uuid) (value : Option ℕ) : List (Uuid × ℕ) :=
  snapshot ++ (value.map fun count ↦ (key, count)).toList

/-- `for key in keys` of `flush_rule_hit_counts`. -/
def flushFrom : List Uuid → ProbePc
  | [] => .keyIsAbsent
  | key :: keys => .flushRead key keys

/-- `if count <= 0: continue` of `flush_rule_hit_counts`. -/
def flushCount (key : Uuid) (count : ℕ) (keys : List Uuid) : ProbePc :=
  if count = 0 then flushFrom keys else .flushUpdate key count keys

/-- `for key_str, raw_value in snapshot.items()` of `_reconcile_other_keys`. -/
def restoreFrom : List (Uuid × ℕ) → ProbePc
  | [] => .done
  | (key, count) :: rest => if count = 0 then restoreFrom rest else .restore key count rest

/-- One command of the probe whose rule is `ruleId`: what it leaves of the counters, and of the
probe. A `KEYS` is answered by `keys`. -/
def Probe.exec (ruleId : Uuid) (now : ℚ) (o : RedisOutcome) (keys : List Uuid)
    (rules : Uuid → Option HitRow) (hits : KeySpace Uuid ℚ ℕ) (p : Probe) :
    KeySpace Uuid ℚ ℕ × Probe :=
  match p.pc with
  | .snapshotKeys =>
    (hits, { p with
      pc := if o.raises then .incr else snapshotFrom (keys.filter fun key ↦ key ≠ ruleId) })
  | .snapshotGet key keys =>
    (hits, { p with
      snapshot := remember p.snapshot key (if o.raises then none else hits.get now key)
      pc := snapshotFrom keys })
  | .incr =>
    (if o.executed then hits.incr now ruleId else hits,
      { p with pc := if o.raises then .flushKeys else .expire })
  | .expire =>
    (if o.executed then hits.expire now ruleId 172800 else hits, { p with pc := .flushKeys })
  | .flushKeys =>
    (hits, if o.raises then { p with errors := 1, pc := .keyIsAbsent }
      else { p with keysSeen := keys.length, pc := flushFrom keys })
  | .flushRead key keys =>
    (if o.executed then hits.delete key else hits,
      if o.raises then { p with errors := p.errors + 1, pc := flushFrom keys }
      else { p with pc := flushCount key ((hits.get now key).getD 0) keys })
  | .flushUpdate key count keys =>
    (hits, { p with
      hitCount := if key = ruleId then p.hitCount + count else p.hitCount
      flushed := if key = ruleId ∨ (rules key).isSome then p.flushed + 1 else p.flushed
      pc := flushFrom keys })
  | .keyIsAbsent =>
    (hits, { p with keyDeleted := !o.raises && (hits.get now ruleId).isNone, pc := .cleanup })
  | .cleanup =>
    (if o.executed then hits.delete ruleId else hits, { p with pc := restoreFrom p.snapshot })
  | .restore key count rest =>
    (if o.executed then hits.setex now key 172800 count else hits,
      { p with pc := restoreFrom rest })
  | .done => (hits, p)

/-- What `run_flush_probe` returns. -/
structure ProbeResult where
  alive : Bool
  flushed : ℕ
  keysSeen : ℕ
  errors : ℕ
  hitCountDelta : ℕ
  keyDeleted : Bool
  failureReason : Option String
  deriving DecidableEq

def Probe.failureReason (p : Probe) : Option String :=
  if p.hitCount ≠ 1 then
    some ("expected the probe's BlockRule.hit_count to advance by 1, advanced by " ++
      toString p.hitCount ++ ": the flush ran (flushed=" ++ toString p.flushed ++
      ", keys_seen=" ++ toString p.keysSeen ++ ", errors=" ++ toString p.errors ++
      ") but did not apply the counter this probe wrote")
  else if !p.keyDeleted then
    some "the probe's Redis hit-count key was still present after the flush ran"
  else none

def Probe.result (p : Probe) : ProbeResult :=
  ⟨p.failureReason.isNone, p.flushed, p.keysSeen, p.errors, p.hitCount, p.keyDeleted,
    p.failureReason⟩

theorem Probe.result_alive (p : Probe) : p.result.alive ↔ p.hitCount = 1 ∧ p.keyDeleted := by
  unfold Probe.result Probe.failureReason
  by_cases hcount : p.hitCount = 1
  · cases hkey : p.keyDeleted <;> simp [hcount]
  · simp [hcount]

/-! ### The site -/

/-- The calls and flushes of the site, and the probes by their rules. -/
structure ProbeWorld extends HitWorld where
  probes : Uuid → Option Probe

def ProbeWorld.start (rules : Uuid → Option HitRow) : ProbeWorld := ⟨.start rules, fun _ ↦ none⟩

/-- A step, by the party that takes it. -/
inductive ProbeCommand
  /-- A command of a call or a flush of the site. -/
  | site (c : HitCommand)
  /-- A probe begins, and creates its rule. -/
  | begin (ruleId : Uuid)
  /-- The command a probe stands before. -/
  | probe (ruleId : Uuid) (pc : ProbePc) (o : RedisOutcome)
  deriving DecidableEq

structure ProbeEvent where
  now : ℚ
  command : ProbeCommand

/-- What the commands of the probe whose rule is `ruleId` leave. -/
def ProbeWorld.after (w : ProbeWorld) (now : ℚ) (ruleId : Uuid) (p : Probe) (o : RedisOutcome)
    (keys : List Uuid) : ProbeWorld :=
  ⟨{ w.toHitWorld with
      redis := { w.redis with
        ruleHits := (p.exec ruleId now o keys w.rules w.redis.ruleHits).1 } },
    Function.update w.probes ruleId
      (some (p.exec ruleId now o keys w.rules w.redis.ruleHits).2)⟩

/-- `KEYS` answers with the keys there are, in any order; other commands take no answer from it. -/
def Listing (hits : KeySpace Uuid ℚ ℕ) (now : ℚ) (pc : ProbePc) (keys : List Uuid) : Prop :=
  pc = .snapshotKeys ∨ pc = .flushKeys →
    keys.Nodup ∧ ∀ k, k ∈ keys ↔ (hits.get now k).isSome

/-- One command of one of the parties. -/
inductive ProbeStep (w : ProbeWorld) (now : ℚ) : ProbeCommand → ProbeWorld → Prop
  | site {c : HitCommand} {w' : HitWorld} : HitStep w.toHitWorld now c w' →
      ProbeStep w now (.site c) ⟨w', w.probes⟩
  /-- The primary key of the new rule is fresh. -/
  | begin {ruleId : Uuid} : w.rules ruleId = none → w.probes ruleId = none →
      ProbeStep w now (.begin ruleId)
        { w with probes := Function.update w.probes ruleId (some .start) }
  | probe {ruleId : Uuid} {p : Probe} {keys : List Uuid} (o : RedisOutcome) :
      w.probes ruleId = some p → Listing w.redis.ruleHits now p.pc keys →
      ProbeStep w now (.probe ruleId p.pc o) (w.after now ruleId p o keys)

theorem ProbeStep.of_probe {w w' : ProbeWorld} {now : ℚ} {ruleId : Uuid} {pc : ProbePc}
    {o : RedisOutcome} (h : ProbeStep w now (.probe ruleId pc o) w') :
    ∃ p keys, w.probes ruleId = some p ∧ p.pc = pc ∧ w' = w.after now ruleId p o keys := by
  generalize hc : ProbeCommand.probe ruleId pc o = c at h
  rcases h with - | - | ⟨_, hp, -⟩
  case site => cases hc
  case begin => cases hc
  case probe =>
    cases hc
    exact ⟨_, _, hp, rfl, rfl⟩

theorem ProbeWorld.after_done {w : ProbeWorld} {now : ℚ} {ruleId : Uuid} {p : Probe}
    {o : RedisOutcome} {keys : List Uuid} (hp : w.probes ruleId = some p) (hpc : p.pc = .done) :
    w.after now ruleId p o keys = w := by
  have hexec : p.exec ruleId now o keys w.rules w.redis.ruleHits = (w.redis.ruleHits, p) := by
    rw [Probe.exec, hpc]
  rw [ProbeWorld.after, hexec, ← hp, Function.update_eq_self]

/-- A run of any calls, flushes and probes from a database, in which no command finds a key that has
outlived its deadline. -/
def ProbeRun (w : ProbeWorld) (es : List ProbeEvent) (w' : ProbeWorld) : Prop :=
  Run (fun w e w' ↦ ProbeStep w e.now e.command w' ∧ w.redis.ruleHits.NoneExpired e.now) w es w'

/-! ### What the site does to a counter -/

/-- The counts of a rule that have left Redis. -/
def HitWorld.delivered (w : HitWorld) (ruleId : Uuid) : ℕ := w.hitCount ruleId + w.held ruleId

theorem HitWorld.total_eq_delivered (w : HitWorld) (ruleId : Uuid) :
    w.total ruleId = w.delivered ruleId + w.redis.ruleHits.stored ruleId := by
  rw [HitWorld.total, HitWorld.delivered]
  omega

section Site

variable {w w' : HitWorld} {now : ℚ} {c : HitCommand}

/-- A command of the site that is not a flush's read of a counter adds to it what it counts. -/
theorem HitStep.stored_eq (h : HitStep w now c w') (hlive : w.redis.ruleHits.NoneExpired now)
    {ruleId : Uuid} (hread : c ≠ .getDel ruleId) :
    w'.redis.ruleHits.stored ruleId = w.redis.ruleHits.stored ruleId + c.adds ruleId := by
  rcases h with - | - | - | - | - | - | -
  case incr => exact hlive.stored_incr _ _
  case expire => exact w.redis.ruleHits.stored_expire now _ _ ruleId
  case getDel r _ _ _ _ _ _ =>
    have hne : ruleId ≠ r := fun heq ↦ hread (by rw [heq])
    exact (w.redis.ruleHits.stored_delete r ruleId).trans (if_neg hne)
  all_goals rfl

/-- A flush's read of a counter leaves nothing there. -/
theorem HitStep.cell_eq_none {ruleId : Uuid} (h : HitStep w now (.getDel ruleId) w') :
    w'.redis.ruleHits.cell ruleId = none := by
  cases h
  exact w.redis.ruleHits.cell_delete_self ruleId

/-- Only a read of a rule's counter takes counts of it out of Redis, and none comes back. -/
theorem HitStep.delivered_eq (h : HitStep w now c w') (hlive : w.redis.ruleHits.NoneExpired now)
    {ruleId : Uuid} (hrule : (w.rules ruleId).isSome) :
    w.delivered ruleId ≤ w'.delivered ruleId ∧
      (c ≠ .getDel ruleId → w'.delivered ruleId = w.delivered ruleId) := by
  have htotal := (h.total_eq hlive hrule).2
  rw [HitWorld.total_eq_delivered, HitWorld.total_eq_delivered] at htotal
  rcases eq_or_ne c (.getDel ruleId) with rfl | hread
  · have hgone : w'.redis.ruleHits.stored ruleId = 0 := by
      rw [KeySpace.stored, h.cell_eq_none]
      rfl
    have hadds : HitCommand.adds ruleId (.getDel ruleId) = 0 := rfl
    exact ⟨by omega, fun hne ↦ absurd rfl hne⟩
  · have hstored := h.stored_eq hlive hread
    exact ⟨by omega, fun _ ↦ by omega⟩

end Site

/-! ### What a probe does to a counter -/

/-- A probe's own command changes the counter of another rule where it deletes or restores it. -/
theorem Probe.stored_exec {ruleId r : Uuid} (hne : r ≠ ruleId) (now : ℚ) (o : RedisOutcome)
    (keys : List Uuid) (rules : Uuid → Option HitRow) (hits : KeySpace Uuid ℚ ℕ) (p : Probe)
    (hlive : hits.NoneExpired now) :
    (p.exec ruleId now o keys rules hits).1.stored r =
      match p.pc with
      | .flushRead key _ => if o.executed ∧ r = key then 0 else hits.stored r
      | .restore key count _ => if o.executed ∧ r = key then count else hits.stored r
      | _ => hits.stored r := by
  unfold Probe.exec
  rcases hpc : p.pc with - | - | - | - | - | ⟨key, ks⟩ | - | - | - | ⟨key, count, rest⟩ | -
  case incr =>
    rcases ho : o.executed with - | -
    · rfl
    · show (hits.incr now ruleId).stored r = _
      rw [hlive.stored_incr, if_neg hne, Nat.add_zero]
  case expire =>
    rcases ho : o.executed with - | -
    · rfl
    · exact hits.stored_expire now ruleId 172800 r
  case flushRead =>
    rcases ho : o.executed with - | -
    · rfl
    · show (hits.delete key).stored r = _
      rw [hits.stored_delete]
      simp
  case cleanup =>
    rcases ho : o.executed with - | -
    · rfl
    · show (hits.delete ruleId).stored r = _
      rw [hits.stored_delete, if_neg hne]
  case restore =>
    rcases ho : o.executed with - | -
    · rfl
    · show (hits.setex now key 172800 count).stored r = _
      rw [KeySpace.setex, KeySpace.stored_put]
      simp
  all_goals rfl

/-- The keys whose counters a probe has yet to read for its snapshot. -/
def ProbePc.pending : ProbePc → List Uuid
  | .snapshotGet key keys => key :: keys
  | _ => []

/-- The entries of the snapshot a probe has yet to restore. -/
def ProbePc.restoring : ProbePc → List (Uuid × ℕ)
  | .restore key count rest => (key, count) :: rest
  | _ => []

theorem pending_snapshotFrom (keys : List Uuid) : (snapshotFrom keys).pending = keys := by
  cases keys <;> rfl

theorem restoring_snapshotFrom (keys : List Uuid) : (snapshotFrom keys).restoring = [] := by
  cases keys <;> rfl

theorem pending_flushFrom (keys : List Uuid) : (flushFrom keys).pending = [] := by
  cases keys <;> rfl

theorem restoring_flushFrom (keys : List Uuid) : (flushFrom keys).restoring = [] := by
  cases keys <;> rfl

theorem pending_flushCount (key : Uuid) (count : ℕ) (keys : List Uuid) :
    (flushCount key count keys).pending = [] := by
  rw [flushCount]
  split
  · exact pending_flushFrom keys
  · rfl

theorem restoring_flushCount (key : Uuid) (count : ℕ) (keys : List Uuid) :
    (flushCount key count keys).restoring = [] := by
  rw [flushCount]
  split
  · exact restoring_flushFrom keys
  · rfl

theorem pending_restoreFrom (entries : List (Uuid × ℕ)) : (restoreFrom entries).pending = [] := by
  induction entries with
  | nil => rfl
  | cons e entries ih =>
    rw [restoreFrom]
    split
    · exact ih
    · rfl

theorem restoring_restoreFrom (entries : List (Uuid × ℕ)) :
    (restoreFrom entries).restoring.Sublist entries := by
  induction entries with
  | nil => exact .slnil
  | cons e entries ih =>
    rw [restoreFrom]
    split
    · exact ih.cons e
    · exact .refl _

/-- What a probe keeps of its snapshot: one entry for each key, and no other entries to restore. -/
structure Probe.Consistent (p : Probe) : Prop where
  empty : p.pc = .snapshotKeys → p.snapshot = []
  nodup : (p.snapshot.map Prod.fst ++ p.pc.pending).Nodup
  restoring : p.pc.restoring ⊆ p.snapshot

theorem Probe.Consistent.start : Probe.start.Consistent :=
  ⟨fun _ ↦ rfl, List.nodup_nil, fun _ h ↦ h⟩

theorem snapshotFrom_ne (keys : List Uuid) : snapshotFrom keys ≠ .snapshotKeys := by
  cases keys <;> exact ProbePc.noConfusion

theorem flushFrom_ne (keys : List Uuid) : flushFrom keys ≠ .snapshotKeys := by
  cases keys <;> exact ProbePc.noConfusion

theorem flushCount_ne (key : Uuid) (count : ℕ) (keys : List Uuid) :
    flushCount key count keys ≠ .snapshotKeys := by
  rw [flushCount]
  split
  · exact flushFrom_ne keys
  · exact ProbePc.noConfusion

theorem restoreFrom_ne (entries : List (Uuid × ℕ)) : restoreFrom entries ≠ .snapshotKeys := by
  induction entries with
  | nil => exact ProbePc.noConfusion
  | cons e entries ih =>
    rw [restoreFrom]
    split
    · exact ih
    · exact ProbePc.noConfusion

/-- What a probe has learned since: entries of its snapshot for the keys it had yet to read. -/
structure Probe.Since (p p' : Probe) : Prop where
  pc : p'.pc ≠ .snapshotKeys
  pending : p'.pc.pending ⊆ p.pc.pending
  snapshot : ∀ e ∈ p'.snapshot, e ∈ p.snapshot ∨ e.1 ∈ p.pc.pending

theorem Probe.Since.refl {p : Probe} (h : p.pc ≠ .snapshotKeys) : p.Since p :=
  ⟨h, List.Subset.refl _, fun _ he ↦ .inl he⟩

theorem Probe.Since.trans {p p' p'' : Probe} (h : p.Since p') (h' : p'.Since p'') :
    p.Since p'' := by
  refine ⟨h'.pc, fun _ hk ↦ h.pending (h'.pending hk), fun e he ↦ ?_⟩
  rcases h'.snapshot e he with hold | hpending
  · exact h.snapshot e hold
  · exact .inr (h.pending hpending)

/-- A command after the snapshot, which leaves it as it is and restores only its entries. -/
theorem Probe.Consistent.later {p p' : Probe} (h : p.Consistent)
    (hsnapshot : p'.snapshot = p.snapshot) (hpc : p'.pc ≠ .snapshotKeys)
    (hpending : p'.pc.pending = []) (hrestoring : p'.pc.restoring ⊆ p.snapshot) :
    p'.Consistent ∧ p.Since p' := by
  refine ⟨⟨fun hstart ↦ absurd hstart hpc, ?_, ?_⟩, ⟨hpc, ?_, fun e he ↦ .inl ?_⟩⟩
  · rw [hsnapshot, hpending, List.append_nil]
    exact (List.nodup_append.1 h.nodup).1
  · rwa [hsnapshot]
  · rw [hpending]
    exact List.nil_subset _
  · rwa [← hsnapshot]

/-- A `GET` of the snapshot, which remembers what it finds. -/
theorem Probe.Consistent.remembered {p p' : Probe} (h : p.Consistent) {key : Uuid}
    {keys : List Uuid} {value : Option ℕ} (hpc : p.pc = .snapshotGet key keys)
    (hsnapshot : p'.snapshot = remember p.snapshot key value) (hpc' : p'.pc = snapshotFrom keys) :
    p'.Consistent ∧ p.Since p' := by
  have hne : p'.pc ≠ .snapshotKeys := by
    rw [hpc']
    exact snapshotFrom_ne keys
  have hpending : p.pc.pending = key :: keys := by
    rw [hpc]
    rfl
  have hnodup := h.nodup
  rw [hpending] at hnodup
  refine ⟨⟨fun hstart ↦ absurd hstart hne, ?_, ?_⟩, ⟨hne, ?_, fun e he ↦ ?_⟩⟩
  · rw [hsnapshot, hpc', remember, pending_snapshotFrom, List.map_append, List.append_assoc]
    refine hnodup.sublist (List.Sublist.append_left ?_ _)
    rcases value with - | count
    · exact List.sublist_cons_self key keys
    · exact .refl _
  · rw [hpc', restoring_snapshotFrom]
    exact List.nil_subset _
  · rw [hpc', pending_snapshotFrom, hpending]
    exact List.subset_cons_self key keys
  · rw [hsnapshot, remember, List.mem_append] at he
    rcases he with hold | hnew
    · exact .inl hold
    · obtain ⟨count, -, rfl⟩ := Option.map_eq_some_iff.1 (Option.mem_toList.1 hnew)
      rw [hpending]
      exact .inr List.mem_cons_self

/-- **Every command of a probe** keeps its snapshot consistent, and one after the first learns only
what it had yet to read. -/
theorem Probe.Consistent.exec {ruleId : Uuid} {now : ℚ} {o : RedisOutcome} {keys : List Uuid}
    {rules : Uuid → Option HitRow} {hits : KeySpace Uuid ℚ ℕ} {p : Probe} (h : p.Consistent)
    (hkeys : Listing hits now p.pc keys) :
    (p.exec ruleId now o keys rules hits).2.Consistent ∧
      (p.pc ≠ .snapshotKeys → p.Since (p.exec ruleId now o keys rules hits).2) := by
  have hnil : ([] : List (Uuid × ℕ)) ⊆ p.snapshot := List.nil_subset _
  have hflush (ks : List Uuid) : (flushFrom ks).restoring ⊆ p.snapshot := by
    rw [restoring_flushFrom]
    exact hnil
  have hcount (key : Uuid) (count : ℕ) (ks : List Uuid) :
      (flushCount key count ks).restoring ⊆ p.snapshot := by
    rw [restoring_flushCount]
    exact hnil
  have hlater {p' : Probe} {q : Prop} (hkept : p'.Consistent ∧ p.Since p') :
      p'.Consistent ∧ (q → p.Since p') :=
    hkept.imp_right fun hsince _ ↦ hsince
  unfold Probe.exec
  rcases hpc : p.pc with - | ⟨key, ks⟩ | - | - | - | ⟨key, ks⟩ | ⟨key, count, ks⟩ | - | - |
    ⟨key, count, rest⟩ | -
  case snapshotKeys =>
    refine ⟨?_, fun hne ↦ absurd rfl hne⟩
    have hempty := h.empty hpc
    rcases o.raises with - | -
    · refine ⟨fun _ ↦ hempty, ?_, ?_⟩
      · show (p.snapshot.map Prod.fst ++ (snapshotFrom _).pending).Nodup
        rw [hempty, pending_snapshotFrom]
        exact (hkeys (.inl hpc)).1.filter _
      · show (snapshotFrom _).restoring ⊆ p.snapshot
        rw [restoring_snapshotFrom]
        exact hnil
    · refine And.left (h.later rfl ?_ ?_ ?_)
      · exact ProbePc.noConfusion
      · rfl
      · exact hnil
  case snapshotGet => exact hlater (h.remembered hpc rfl rfl)
  case incr =>
    refine hlater ?_
    rcases o.raises with - | -
    · exact h.later rfl ProbePc.noConfusion rfl hnil
    · exact h.later rfl ProbePc.noConfusion rfl hnil
  case expire => exact hlater (h.later rfl ProbePc.noConfusion rfl hnil)
  case flushKeys =>
    refine hlater ?_
    rcases o.raises with - | -
    · exact h.later rfl (flushFrom_ne keys) (pending_flushFrom keys) (hflush keys)
    · exact h.later rfl ProbePc.noConfusion rfl hnil
  case flushRead =>
    rcases o.raises with - | -
    · exact hlater (h.later rfl (flushCount_ne key _ ks) (pending_flushCount key _ ks)
        (hcount key _ ks))
    · exact hlater (h.later rfl (flushFrom_ne ks) (pending_flushFrom ks) (hflush ks))
  case flushUpdate =>
    exact hlater (h.later rfl (flushFrom_ne ks) (pending_flushFrom ks) (hflush ks))
  case keyIsAbsent => exact hlater (h.later rfl ProbePc.noConfusion rfl hnil)
  case cleanup =>
    exact hlater (h.later rfl (restoreFrom_ne _) (pending_restoreFrom _)
      (restoring_restoreFrom p.snapshot).subset)
  case restore =>
    have hrest : (restoreFrom rest).restoring ⊆ p.snapshot := by
      have hbefore := h.restoring
      rw [hpc] at hbefore
      exact fun e he ↦ hbefore (List.mem_cons_of_mem _ ((restoring_restoreFrom rest).subset he))
    exact hlater (h.later rfl (restoreFrom_ne rest) (pending_restoreFrom rest) hrest)
  case done =>
    exact hlater (h.later rfl (by rw [hpc]; exact ProbePc.noConfusion) (by rw [hpc]; rfl)
      (by rw [hpc]; exact hnil))

end DjangoWaf
