import DjangoWaf.Lib.Run
import DjangoWaf.Services.RuleMatching
import Mathlib.Algebra.BigOperators.Group.Multiset.Basic

/-!
# Hit counts under interleaving

`_record_rule_hit` counts a match in Redis with `INCR` and then `EXPIRE`, and
`flush_rule_hit_counts` moves the counters to the `hit_count` column: it lists the keys, and for
each of them reads and deletes the counter in one `MULTI`/`EXEC` pipeline and then adds what it read
with one `UPDATE`. Any number of both take turns, one command or statement at a time.

A count is in one of **three places**: the column, the counter, or a flush that has read it and not
yet written it. Every step but `INCR` moves counts between these places, and the pipeline moves all
of a counter at once. So for every rule the three together are what they were at the start, and one
more for each `INCR` (`hit_counts_conserved`). An `EXPIRE` that comes after another flush's
`DEL` finds no key and does nothing.

**What is assumed** is what keeps a count from leaving these places in another way: no command
fails, and none finds a key that has outlived its deadline.
-/

namespace DjangoWaf

/-! ### The two parties -/

/-- The command a call of `_record_rule_hit` executes next. -/
inductive RecordPc
  | incr (ruleId : Uuid)
  | expire (ruleId : Uuid)
  | done
  deriving DecidableEq

/-- The command a run of `flush_rule_hit_counts` executes next, with the keys it has yet to read and
the figures it returns. -/
inductive FlushPc
  /-- `KEYS waf:rule_hits:*`. -/
  | keys
  /-- The pipeline of `GET` and `DEL` for the first of the keys. -/
  | read (keys : List Uuid) (flushed keysSeen : ℕ)
  /-- The `UPDATE` of the rule whose counter has been read and deleted. -/
  | update (ruleId : Uuid) (count : ℕ) (keys : List Uuid) (flushed keysSeen : ℕ)
  deriving DecidableEq

/-- The run returns. -/
def FlushPc.Finished (pc : FlushPc) : Prop := ∃ flushed keysSeen, pc = .read [] flushed keysSeen

/-- The counts of a rule that a run has read and not written. -/
def FlushPc.held (ruleId : Uuid) : FlushPc → ℕ
  | .update r count _ _ _ => if r = ruleId then count else 0
  | _ => 0

/-- A `BlockRule`, in the columns a flush writes. -/
structure HitRow where
  hitCount : ℕ
  lastHitAt : Option ℚ

/-- The database, Redis, and the calls and runs under way. -/
structure HitWorld where
  rules : Uuid → Option HitRow
  redis : Redis
  records : Multiset RecordPc
  flushes : Multiset FlushPc

/-- The rules of the database, and nothing counted or under way. -/
def HitWorld.start (rules : Uuid → Option HitRow) : HitWorld := ⟨rules, .empty, 0, 0⟩

/-- `filter(id=rule_id).update(hit_count=F("hit_count") + count, last_hit_at=now)`. -/
def addHits (now : ℚ) (ruleId : Uuid) (count : ℕ) (rules : Uuid → Option HitRow) :
    Uuid → Option HitRow :=
  Function.update rules ruleId
    ((rules ruleId).map fun row ↦ ⟨row.hitCount + count, some now⟩)

/-! ### Steps -/

/-- A step, by the command it executes. -/
inductive HitCommand
  /-- An existing rule matches, and `_record_rule_hit` is called. -/
  | call (ruleId : Uuid)
  | incr (ruleId : Uuid)
  | expire (ruleId : Uuid)
  /-- A run of the task begins. -/
  | flush
  | keys
  | getDel (ruleId : Uuid)
  | update (ruleId : Uuid)
  deriving DecidableEq

/-- A command and the time of the server that executes it. -/
structure HitEvent where
  now : ℚ
  command : HitCommand

/-- One command of one of the parties. -/
inductive HitStep (w : HitWorld) (now : ℚ) : HitCommand → HitWorld → Prop
  | call {ruleId : Uuid} : (w.rules ruleId).isSome →
      HitStep w now (.call ruleId) { w with records := .incr ruleId ::ₘ w.records }
  | incr {ruleId : Uuid} {others : Multiset RecordPc} : w.records = .incr ruleId ::ₘ others →
      HitStep w now (.incr ruleId) { w with
        redis := { w.redis with ruleHits := w.redis.ruleHits.incr now ruleId }
        records := .expire ruleId ::ₘ others }
  | expire {ruleId : Uuid} {others : Multiset RecordPc} : w.records = .expire ruleId ::ₘ others →
      HitStep w now (.expire ruleId) { w with
        redis := { w.redis with ruleHits := w.redis.ruleHits.expire now ruleId 172800 }
        records := .done ::ₘ others }
  | flush : HitStep w now .flush { w with flushes := .keys ::ₘ w.flushes }
  /-- The keys come in any order. -/
  | keys {keys : List Uuid} {others : Multiset FlushPc} : w.flushes = .keys ::ₘ others →
      keys.Nodup → (∀ k, k ∈ keys ↔ (w.redis.ruleHits.get now k).isSome) →
      HitStep w now .keys { w with flushes := .read keys 0 keys.length ::ₘ others }
  | getDel {ruleId : Uuid} {keys : List Uuid} {flushed keysSeen count : ℕ}
      {others : Multiset FlushPc} : w.flushes = .read (ruleId :: keys) flushed keysSeen ::ₘ others →
      count = (w.redis.ruleHits.get now ruleId).getD 0 →
      HitStep w now (.getDel ruleId) { w with
        redis := { w.redis with ruleHits := w.redis.ruleHits.delete ruleId }
        flushes :=
          (if count = 0 then .read keys flushed keysSeen
            else .update ruleId count keys flushed keysSeen) ::ₘ others }
  | update {ruleId : Uuid} {keys : List Uuid} {flushed keysSeen count : ℕ}
      {others : Multiset FlushPc} :
      w.flushes = .update ruleId count keys flushed keysSeen ::ₘ others →
      HitStep w now (.update ruleId) { w with
        rules := addHits now ruleId count w.rules
        -- a rule that was deleted is not counted among those flushed
        flushes :=
          .read keys (if (w.rules ruleId).isSome then flushed + 1 else flushed) keysSeen ::ₘ
            others }

/-- A call that nothing interrupts is `_record_rule_hit`. -/
theorem HitStep.recordRuleHit {w : HitWorld} {ruleId : Uuid} (h : (w.rules ruleId).isSome)
    (now : ℚ) : ∃ w₁ w₂, HitStep w now (.call ruleId) w₁ ∧ HitStep w₁ now (.incr ruleId) w₂ ∧
      HitStep w₂ now (.expire ruleId)
        { w with redis := recordRuleHit now ruleId w.redis, records := .done ::ₘ w.records } :=
  ⟨_, _, .call h, @HitStep.incr _ _ ruleId w.records rfl, @HitStep.expire _ _ ruleId w.records rfl⟩

/-! ### Conservation -/

/-- The counts of a rule that runs of the task hold. -/
def HitWorld.held (w : HitWorld) (ruleId : Uuid) : ℕ := (w.flushes.map (FlushPc.held ruleId)).sum

/-- The column of a rule. -/
def HitWorld.hitCount (w : HitWorld) (ruleId : Uuid) : ℕ :=
  (w.rules ruleId).elim 0 HitRow.hitCount

/-- The counts of a rule in all three places. -/
def HitWorld.total (w : HitWorld) (ruleId : Uuid) : ℕ :=
  w.hitCount ruleId + w.redis.ruleHits.stored ruleId + w.held ruleId

/-- What a command adds to the counts of a rule. -/
def HitCommand.adds (ruleId : Uuid) : HitCommand → ℕ
  | .incr r => if ruleId = r then 1 else 0
  | _ => 0

/-- The `INCR`s of a rule in a run. -/
def increments (ruleId : Uuid) (es : List HitEvent) : ℕ :=
  (es.map fun e ↦ e.command.adds ruleId).sum

theorem held_cons {w : HitWorld} {pc : FlushPc} {others : Multiset FlushPc}
    (h : w.flushes = pc ::ₘ others) (ruleId : Uuid) :
    w.held ruleId = pc.held ruleId + (others.map (FlushPc.held ruleId)).sum := by
  rw [HitWorld.held, h, Multiset.map_cons, Multiset.sum_cons]

/-- An `UPDATE` adds what it was given to its own rule, when that exists. -/
theorem addHits_elim {rules : Uuid → Option HitRow} {ruleId : Uuid} (h : (rules ruleId).isSome)
    (now : ℚ) (r : Uuid) (count : ℕ) :
    (addHits now r count rules ruleId).elim 0 HitRow.hitCount =
      (rules ruleId).elim 0 HitRow.hitCount + if r = ruleId then count else 0 := by
  obtain ⟨row, hrow⟩ := Option.isSome_iff_exists.1 h
  rcases eq_or_ne r ruleId with rfl | hne
  · rw [addHits, Function.update_self, hrow, if_pos rfl]
    rfl
  · rw [addHits, Function.update_of_ne (Ne.symm hne), if_neg hne]
    rfl

theorem isSome_addHits (now : ℚ) (r : Uuid) (count : ℕ) (rules : Uuid → Option HitRow)
    (ruleId : Uuid) : (addHits now r count rules ruleId).isSome = (rules ruleId).isSome := by
  rcases eq_or_ne r ruleId with rfl | hne
  · rw [addHits, Function.update_self, Option.isSome_map]
  · rw [addHits, Function.update_of_ne (Ne.symm hne)]

/-- **What one step does to the counts of a rule**: it keeps the rule, and adds what its command
adds. -/
theorem HitStep.total_eq {w w' : HitWorld} {now : ℚ} {c : HitCommand} (h : HitStep w now c w')
    (hlive : w.redis.ruleHits.NoneExpired now) {ruleId : Uuid} (hrule : (w.rules ruleId).isSome) :
    (w'.rules ruleId).isSome ∧ w'.total ruleId = w.total ruleId + c.adds ruleId := by
  rcases h with h | h | h | - | ⟨h, -, -⟩ | ⟨h, hcount⟩ | h
  case call => exact ⟨hrule, rfl⟩
  case incr =>
    refine ⟨hrule, ?_⟩
    show w.hitCount ruleId + (w.redis.ruleHits.incr now _).stored ruleId + w.held ruleId = _
    rw [hlive.stored_incr, HitWorld.total, HitCommand.adds]
    omega
  case expire =>
    refine ⟨hrule, ?_⟩
    show w.hitCount ruleId + (w.redis.ruleHits.expire now _ _).stored ruleId + w.held ruleId = _
    rw [KeySpace.stored_expire]
    rfl
  case flush =>
    refine ⟨hrule, ?_⟩
    have hheld := held_cons (w := { w with flushes := .keys ::ₘ w.flushes }) rfl ruleId
    rw [HitWorld.total, hheld]
    show w.hitCount ruleId + w.redis.ruleHits.stored ruleId + (0 + w.held ruleId) = _
    rw [Nat.zero_add]
    rfl
  case keys =>
    refine ⟨hrule, ?_⟩
    have hbefore := held_cons h ruleId
    rw [HitWorld.total, HitWorld.total, hbefore, held_cons rfl ruleId]
    rfl
  case getDel r keys flushed keysSeen count others =>
    refine ⟨hrule, ?_⟩
    have hbefore := held_cons h ruleId
    have hread : count = w.redis.ruleHits.stored r := hcount.trans (hlive.getD_get r)
    -- the pipeline moves the whole counter to the run
    have hpc : FlushPc.held ruleId (if count = 0 then .read keys flushed keysSeen
        else .update r count keys flushed keysSeen) = if r = ruleId then count else 0 := by
      split
      · rename_i hzero
        rw [hzero, ite_self]
        rfl
      · rfl
    have hstored := w.redis.ruleHits.stored_delete r ruleId
    rw [HitWorld.total, HitWorld.total, held_cons rfl ruleId, hbefore, hpc]
    show w.hitCount ruleId + (w.redis.ruleHits.delete r).stored ruleId + _ =
      w.hitCount ruleId + w.redis.ruleHits.stored ruleId + (0 + _) + 0
    rw [hstored]
    rcases eq_or_ne r ruleId with rfl | hne
    · rw [if_pos rfl, if_pos rfl, hread]
      omega
    · rw [if_neg (Ne.symm hne), if_neg hne]
      rfl
  case update r keys flushed keysSeen count others =>
    refine ⟨(isSome_addHits now r count w.rules ruleId).trans hrule, ?_⟩
    have hbefore := held_cons h ruleId
    have hrow := addHits_elim hrule now r count
    rw [HitWorld.total, HitWorld.total, held_cons rfl ruleId, hbefore]
    show (addHits now r count w.rules ruleId).elim 0 HitRow.hitCount +
      w.redis.ruleHits.stored ruleId + (0 + _) =
      w.hitCount ruleId + w.redis.ruleHits.stored ruleId +
        ((if r = ruleId then count else 0) + _) + 0
    rw [hrow, HitWorld.hitCount]
    omega

/-! ### Runs -/

/-- A run of any calls and flushes from a database, in which no command finds a key that has
outlived its deadline. -/
def HitRun (rules : Uuid → Option HitRow) (es : List HitEvent) (w : HitWorld) : Prop :=
  Run (fun w e w' ↦ HitStep w e.now e.command w' ∧ w.redis.ruleHits.NoneExpired e.now)
    (.start rules) es w

theorem HitRun.step {rules : Uuid → Option HitRow} {es : List HitEvent} {w w' : HitWorld} {now : ℚ}
    {c : HitCommand} (hrun : HitRun rules es w) (h : HitStep w now c w')
    (hlive : w.redis.ruleHits.NoneExpired now) : HitRun rules (es ++ [⟨now, c⟩]) w' :=
  .snoc hrun ⟨h, hlive⟩

/-- The calls of `_record_rule_hit` for a rule in a run. -/
def calls (ruleId : Uuid) (es : List HitEvent) : ℕ :=
  es.countP fun e ↦ e.command = .call ruleId

/-- The three places of a rule's counts hold the column at the start and one for each `INCR`. -/
theorem HitRun.total_eq {rules : Uuid → Option HitRow} {es : List HitEvent} {w : HitWorld}
    (hrun : HitRun rules es w) {ruleId : Uuid} {row : HitRow} (hrow : rules ruleId = some row) :
    w.total ruleId = row.hitCount + increments ruleId es := by
  have hstart : (HitWorld.start rules).total ruleId = row.hitCount := by
    show (rules ruleId).elim 0 HitRow.hitCount + 0 + 0 = row.hitCount
    rw [hrow]
    rfl
  have hrule : ((HitWorld.start rules).rules ruleId).isSome := by
    show (rules ruleId).isSome
    rw [hrow]
    rfl
  have hsum : (w.rules ruleId).isSome ∧
      w.total ruleId = (HitWorld.start rules).total ruleId + increments ruleId es :=
    Run.measure_eq (I := fun w ↦ (w.rules ruleId).isSome) hrule
      (fun hsome hstep ↦ hstep.1.total_eq hstep.2 hsome) hrun
  rw [hsum.2, hstart]

/-- **Once every run has finished**, no run holds a count. -/
theorem HitWorld.held_eq_zero {w : HitWorld} (h : ∀ pc ∈ w.flushes, pc.Finished) (ruleId : Uuid) :
    w.held ruleId = 0 := by
  refine Multiset.sum_eq_zero fun n hn ↦ ?_
  obtain ⟨pc, hpc, rfl⟩ := Multiset.mem_map.1 hn
  obtain ⟨flushed, keysSeen, rfl⟩ := h pc hpc
  rfl

/-- What a step does to the calls that have yet to count: a call is one more of them, until its
`INCR`. -/
theorem HitStep.waiting_eq {w w' : HitWorld} {now : ℚ} {c : HitCommand} (h : HitStep w now c w')
    (ruleId : Uuid) :
    w'.records.count (.incr ruleId) + c.adds ruleId =
      w.records.count (.incr ruleId) + if c = .call ruleId then 1 else 0 := by
  rcases h with h | h | h | - | - | - | -
  case call r =>
    rw [Multiset.count_cons]
    simp only [RecordPc.incr.injEq, HitCommand.call.injEq, eq_comm (a := r)]
    rfl
  case incr r others =>
    rw [h, Multiset.count_cons, Multiset.count_cons]
    simp [HitCommand.adds]
  case expire r others =>
    rw [h, Multiset.count_cons, Multiset.count_cons]
    simp [HitCommand.adds]
  all_goals rfl

/-- Every call has been counted, or has yet to count. -/
theorem HitRun.waiting_eq {rules : Uuid → Option HitRow} {es : List HitEvent} {w : HitWorld}
    (hrun : HitRun rules es w) (ruleId : Uuid) :
    w.records.count (.incr ruleId) + increments ruleId es = calls ruleId es := by
  refine Run.invariant (P := fun es w ↦ w.records.count (.incr ruleId) + increments ruleId es =
    calls ruleId es) rfl ?_ hrun
  intro es w w' e _ ih hstep
  have hwaiting := hstep.1.waiting_eq ruleId
  have hincr : increments ruleId (es ++ [e]) = increments ruleId es + e.command.adds ruleId := by
    rw [increments, List.map_append, List.sum_append, List.map_singleton, List.sum_singleton]
    rfl
  have hcalls : calls ruleId (es ++ [e]) =
      calls ruleId es + if e.command = .call ruleId then 1 else 0 := by
    rw [calls, List.countP_append, List.countP_singleton]
    simp [calls]
  omega

/-- **Hit counts are conserved.** -/
theorem hit_counts_conserved {rules : Uuid → Option HitRow} {es : List HitEvent} {w : HitWorld}
    (hrun : HitRun rules es w) {ruleId : Uuid} {row : HitRow} (hrow : rules ruleId = some row)
    {now : ℚ} (hlive : w.redis.ruleHits.NoneExpired now) :
    w.hitCount ruleId + (w.redis.ruleHits.get now ruleId).getD 0 + w.held ruleId =
        row.hitCount + increments ruleId es ∧
      ((∀ pc ∈ w.flushes, pc.Finished) →
        w.hitCount ruleId + (w.redis.ruleHits.get now ruleId).getD 0 =
          row.hitCount + increments ruleId es) ∧
      ((∀ pc ∈ w.flushes, pc.Finished) → (∀ pc ∈ w.records, pc = .done) →
        w.hitCount ruleId + (w.redis.ruleHits.get now ruleId).getD 0 =
          row.hitCount + calls ruleId es) := by
  have htotal : w.hitCount ruleId + (w.redis.ruleHits.get now ruleId).getD 0 + w.held ruleId =
      row.hitCount + increments ruleId es := by
    rw [hlive.getD_get]
    exact hrun.total_eq hrow
  have hflushed (h : ∀ pc ∈ w.flushes, pc.Finished) :
      w.hitCount ruleId + (w.redis.ruleHits.get now ruleId).getD 0 =
        row.hitCount + increments ruleId es := by
    have hheld := HitWorld.held_eq_zero h ruleId
    omega
  refine ⟨htotal, hflushed, fun h hdone ↦ ?_⟩
  have hwaiting := hrun.waiting_eq ruleId
  have hnone : w.records.count (.incr ruleId) = 0 := by
    refine Multiset.count_eq_zero.2 fun hmem ↦ ?_
    cases hdone _ hmem
  rw [hflushed h]
  omega

/-- The first match of a rule, whose `EXPIRE` comes after a flush has deleted the counter. -/
def lateExpire : List HitEvent :=
  [⟨0, .call 7⟩, ⟨0, .incr 7⟩, ⟨0, .flush⟩, ⟨0, .keys⟩, ⟨0, .getDel 7⟩, ⟨0, .expire 7⟩,
    ⟨0, .update 7⟩]

def lateExpireEnd : HitWorld where
  rules := addHits 0 7 1 fun _ ↦ some ⟨5, none⟩
  redis := { Redis.empty with
    ruleHits := ((Redis.empty.ruleHits.incr 0 7).delete 7).expire 0 7 172800 }
  records := {.done}
  flushes := {.read [] 1 1}

theorem lateExpire_run : HitRun (fun _ ↦ some ⟨5, none⟩) lateExpire lateExpireEnd := by
  have hempty : Redis.empty.ruleHits.NoneExpired 0 := by rintro k c ⟨⟩
  have hincr := hempty.incr 7
  have hdelete := hincr.delete 7
  have hone : (Redis.empty.ruleHits.incr 0 7).get 0 7 = some 1 :=
    KeySpace.get_eq_some_iff.2 ⟨⟨1, none⟩, KeySpace.cell_put_self _ _ _, TtlCell.live_none, rfl⟩
  have hkeys (k : Uuid) : k ∈ [7] ↔ ((Redis.empty.ruleHits.incr 0 7).get 0 k).isSome := by
    rcases eq_or_ne k 7 with rfl | hk
    · simp [hone]
    · have hnone : (Redis.empty.ruleHits.incr 0 7).cell k = none :=
        KeySpace.cell_put_of_ne _ _ hk
      simp [hk, KeySpace.get_of_cell_none hnone]
  have hstart : HitRun (fun _ ↦ some ⟨5, none⟩) [] (.start fun _ ↦ some ⟨5, none⟩) := .nil
  have hcounted := (hstart.step (@HitStep.call _ _ 7 rfl) hempty).step
    (@HitStep.incr _ _ 7 0 rfl) hempty
  have hlisted := (hcounted.step .flush hincr).step
    (@HitStep.keys _ _ [7] 0 rfl (List.nodup_singleton 7) hkeys) hincr
  have hread := hlisted.step
    (@HitStep.getDel _ _ 7 [] 0 1 1 0 rfl (congrArg (Option.getD · 0) hone).symm) hincr
  have hexpired := hread.step (@HitStep.expire _ _ 7 0 rfl) hdelete
  exact hexpired.step (@HitStep.update _ _ 7 [] 0 1 1 0 rfl) hdelete

theorem hit_counts_conserved_lateExpire :
    lateExpireEnd.hitCount 7 = 6 ∧ calls 7 lateExpire = 1 ∧
      lateExpireEnd.hitCount 7 + (lateExpireEnd.redis.ruleHits.get 0 7).getD 0 =
        5 + calls 7 lateExpire := by
  have hempty : Redis.empty.ruleHits.NoneExpired 0 := by rintro k c ⟨⟩
  have hlive : lateExpireEnd.redis.ruleHits.NoneExpired 0 := (hempty.incr 7).delete 7
  obtain ⟨-, -, hcalls⟩ :=
    @hit_counts_conserved _ _ _ lateExpire_run 7 ⟨5, none⟩ rfl 0 hlive
  refine ⟨rfl, by decide, hcalls ?_ ?_⟩
  · intro pc hpc
    rw [Multiset.mem_singleton.1 hpc]
    exact ⟨1, 1, rfl⟩
  · exact fun pc hpc ↦ Multiset.mem_singleton.1 hpc

end DjangoWaf
