import DjangoWaf.Lib.Run
import DjangoWaf.Middleware
import DjangoWaf.Services.AnomalyDetector
import Mathlib.Logic.Function.Basic

/-!
# Writes of auto rules that overlap

`getOrCreateAutoRule` is one transaction that nothing interrupts. Here the same transaction is taken
apart into its statements, and any number of runs of it, with operators' saves, take turns under
`READ COMMITTED`: a locking read waits for the row's lock, a transaction keeps its locks until it
ends, what it inserts is not seen before, and an insert waits for a rival's uncommitted row of the
same key and fails on a committed one.

A run reads the row and derives its **write defaults** from it, and hands them to
`update_or_create`, which gets the row again, inserts one if there is none, gets it once more when
the insert is refused, and updates the row it got *with the defaults it was given*. The recovery of
`_update_or_create_auto_rule` is for the `IntegrityError` of a refused insert, but that error
reaches it only when the row is gone again by the second get.

* In every interleaving, no run raises `IntegrityError` and a key has at most one row
  (`raceInv_run`).
* No name and no decision is lost, **as long as no run that read no row gets one**
  (`nothingLost_of_readsItsRow`). A run that does writes defaults derived from nothing over it.
-/

namespace DjangoWaf

variable (cf : Conf)

/-! ### Write defaults -/

/-- What `_auto_rule_write_defaults` returns beside the row, in the columns that depend on it. -/
structure WriteDefaults where
  isActive : Option Bool
  reviewStatus : Option ReviewStatus
  detectors : String

/-- `_auto_rule_write_defaults`: a decided row's `is_active` and `review_status` are dropped. -/
def AutoRuleWrite.defaults (a : AutoRuleWrite) (existing : Option BlockRule) : WriteDefaults where
  isActive := if existing.any fun r ↦ r.reviewStatus.decided then none
    else some (isActiveOnCreate cf a.detectorName)
  reviewStatus := if existing.any fun r ↦ r.reviewStatus.decided then none
    else some (reviewStatusOnCreate cf a.detectorName)
  detectors := mergeDetectorNames (existing.elim "" BlockRule.detectors) a.detectorName

/-- The `UPDATE` of `update_or_create`. -/
def AutoRuleWrite.update (a : AutoRuleWrite) (d : WriteDefaults) (r : BlockRule) : BlockRule :=
  { r with
    name := a.name
    matchType := a.matchType
    expiresAt := some a.expiry
    detectors := d.detectors
    isActive := d.isActive.getD r.isActive
    reviewStatus := d.reviewStatus.getD r.reviewStatus }

/-- The row of its `INSERT`. -/
def AutoRuleWrite.insert (a : AutoRuleWrite) (d : WriteDefaults) (id : Uuid) (now : ℚ) :
    BlockRule :=
  { toCriterion := a.toCriterion, id, name := a.name, action := a.action, priority := 100,
    isActive := d.isActive.getD true, source := .auto, expiresAt := some a.expiry,
    reviewStatus := d.reviewStatus.getD .notApplicable, reviewedAt := none,
    detectors := d.detectors, createdAt := now }

/-- Defaults derived from the row refresh it as the uninterrupted write does. -/
theorem update_defaults (a : AutoRuleWrite) (r : BlockRule) :
    a.update (a.defaults cf (some r)) r = a.refresh cf r := by
  rw [AutoRuleWrite.update, AutoRuleWrite.refresh, AutoRuleWrite.defaults]
  rcases hr : r.reviewStatus.decided with - | - <;> simp [hr]

/-- Defaults derived from no row create one as the uninterrupted write does. -/
theorem insert_defaults (a : AutoRuleWrite) (id : Uuid) (now : ℚ) :
    a.insert (a.defaults cf none) id now = a.create cf id now := rfl

/-! ### Runs, statement by statement -/

/-- `update_or_create` is called with the first defaults, and again after a lost insert race. -/
inductive Attempt
  | first
  | retry
  deriving DecidableEq, Repr

/-- The statement a run executes next, with the row its write defaults are derived from. -/
inductive Pc
  /-- The read of `_auto_rule_write_defaults`. -/
  | start
  /-- The locking `get` of `update_or_create`. -/
  | get (attempt : Attempt) (existing : Option BlockRule)
  | insert (attempt : Attempt) (existing : Option BlockRule)
  /-- The `get` after an `INSERT` that was refused. -/
  | getAgain (attempt : Attempt) (existing : Option BlockRule)
  | update (attempt : Attempt) (existing : Option BlockRule) (id : Uuid)
  /-- The read of `_auto_rule_write_defaults` after an `IntegrityError`. -/
  | reread
  | commit
  | done
  /-- The run has raised `BlockRule.DoesNotExist`. -/
  | doesNotExist
  /-- The run has raised `IntegrityError`. -/
  | integrityError
  deriving DecidableEq

/-- Where a locking read leads, by what it finds. -/
def Pc.onRead : Pc → Option BlockRule → Option Pc
  | .start, found => some (.get .first found)
  | .get attempt existing, some r => some (.update attempt existing r.id)
  | .get attempt existing, none => some (.insert attempt existing)
  | .getAgain attempt existing, some r => some (.update attempt existing r.id)
  -- the error of the refused insert leaves `update_or_create`; the first one is caught
  | .getAgain .first _, none => some .reread
  | .getAgain .retry _, none => some .integrityError
  | .reread, some r => some (.get .retry (some r))
  | .reread, none => some .doesNotExist
  | .insert _ _, _ | .update _ _ _, _ | .commit, _ | .done, _ | .doesNotExist, _
  | .integrityError, _ => none

/-- The runs that take turns: what each writes, and the primary keys of the rows it would insert,
which are its own. -/
structure Races (R : Type) where
  write : R → AutoRuleWrite
  freshId : R → Attempt → Uuid
  freshId_inj : ∀ {run run' attempt attempt'}, freshId run attempt = freshId run' attempt' →
    run = run'
  comma_free : ∀ run, ',' ∉ (write run).detectorName.toList

/-- The committed rows with the updates of the transactions that lock them, what is inserted and not
yet committed, the row locks, and where each run stands. `writers` is no part of the database: it
keeps the names of all runs that have written a row. -/
structure RaceState (R : Type) where
  rows : List BlockRule
  inserted : List (R × BlockRule)
  lockedBy : Uuid → Option R
  pc : R → Pc
  writers : Uuid → List String

variable {R : Type} [DecidableEq R] (rs : Races R)

namespace RaceState

/-- No run has begun. The names a row starts with count as its writers. -/
def start (rows : List BlockRule) : RaceState R where
  rows
  inserted := []
  lockedBy _ := none
  pc _ := .start
  writers id := (rows.find? fun r ↦ r.id = id).elim [] fun r ↦ detectorNames r.detectors

variable (s : RaceState R)

/-- `SELECT … FOR UPDATE` of a run's key: `none` while another transaction holds the row. -/
def lockingGet (run : R) : Option (Option BlockRule) :=
  match s.rows.find? (rs.write run).finds with
  | none => some none
  | some r =>
    if s.lockedBy r.id = none ∨ s.lockedBy r.id = some run then some (some r) else none

/-- The locks without those of a run. -/
def released (run : R) : Uuid → Option R := fun id ↦
  if s.lockedBy id = some run then none else s.lockedBy id

/-- The state after a locking read: the row that was found is locked, and a run that raises rolls
back. -/
def afterRead (run : R) (found : Option BlockRule) (pc : Pc) : RaceState R :=
  { s with
    lockedBy := match found with
      | some r => Function.update s.lockedBy r.id (some run)
      | none => if pc = .doesNotExist ∨ pc = .integrityError then s.released run else s.lockedBy
    pc := Function.update s.pc run pc }

/-- The state after an `INSERT` that is accepted. -/
def afterInsert (run : R) (row : BlockRule) : RaceState R :=
  { s with
    inserted := (run, row) :: s.inserted
    writers := Function.update s.writers row.id [(rs.write run).detectorName]
    pc := Function.update s.pc run .commit }

/-- The state after an `UPDATE`. -/
def afterUpdate (run : R) (existing : Option BlockRule) (id : Uuid) : RaceState R :=
  { s with
    rows := s.rows.map fun r ↦
      if r.id = id then (rs.write run).update ((rs.write run).defaults cf existing) r else r
    writers := Function.update s.writers id ((rs.write run).detectorName :: s.writers id)
    pc := Function.update s.pc run .commit }

/-- The state after a `COMMIT`. -/
def afterCommit (run : R) : RaceState R :=
  { s with
    rows := s.rows ++ (s.inserted.filter fun x ↦ x.1 = run).map Prod.snd
    inserted := s.inserted.filter fun x ↦ x.1 ≠ run
    lockedBy := s.released run
    pc := Function.update s.pc run .done }

/-- The next statement of a run, or `none` while it waits. -/
def statement (now : ℚ) (run : R) : Option (RaceState R) :=
  match s.pc run with
  | .insert attempt existing =>
    -- a rival's uncommitted row of the key has to be committed or gone first
    if s.inserted.any fun x ↦ (rs.write run).finds x.2 then none
    else if s.rows.any (rs.write run).finds then
      some { s with pc := Function.update s.pc run (.getAgain attempt existing) }
    else some (s.afterInsert rs run ((rs.write run).insert
      ((rs.write run).defaults cf existing) (rs.freshId run attempt) now))
  | .update _ existing id => some (s.afterUpdate cf rs run existing id)
  | .commit => some (s.afterCommit run)
  | pc => do
    let found ← s.lockingGet rs run
    let pc' ← pc.onRead found
    some (s.afterRead run found pc')

/-- The `UPDATE` of a review view, or `none` while a transaction holds the row. -/
def review (f : BlockRule → BlockRule) (id : Uuid) : Option (RaceState R) :=
  if s.lockedBy id = none then
    some { s with rows := s.rows.map fun r ↦ if r.id = id then f r else r }
  else none

end RaceState

/-- One statement of the system. -/
inductive RaceEvent (R : Type)
  | statement (run : R) (now : ℚ)
  | confirm (id : Uuid) (now : ℚ)
  | reject (id : Uuid) (now : ℚ)

/-- The state after a statement. -/
def RaceState.step (s : RaceState R) : RaceEvent R → Option (RaceState R)
  | .statement run now => s.statement cf rs now run
  | .confirm id now => s.review (BlockRule.confirmed now) id
  | .reject id now => s.review (BlockRule.rejected now) id

/-! ### What a statement can do -/

/-- **What a statement of a run can do**: a locking read, an insert that is refused or accepted, an
update, or the commit. -/
inductive StatementSpec (now : ℚ) (run : R) (s : RaceState R) : RaceState R → Prop
  | found {pc : Pc} {r : BlockRule} (hr : r ∈ s.rows) (hfinds : (rs.write run).finds r = true)
      (hlock : s.lockedBy r.id = none ∨ s.lockedBy r.id = some run)
      (hpc : (s.pc run).onRead (some r) = some pc) : StatementSpec now run s (s.afterRead run r pc)
  | absent {pc : Pc} (hnone : ∀ r ∈ s.rows, (rs.write run).finds r = false)
      (hpc : (s.pc run).onRead none = some pc) : StatementSpec now run s (s.afterRead run none pc)
  | refused {attempt : Attempt} {existing : Option BlockRule} {r : BlockRule}
      (hpc : s.pc run = .insert attempt existing) (hr : r ∈ s.rows)
      (hfinds : (rs.write run).finds r = true) :
      StatementSpec now run s
        { s with pc := Function.update s.pc run (.getAgain attempt existing) }
  | accepted {attempt : Attempt} {existing : Option BlockRule}
      (hpc : s.pc run = .insert attempt existing)
      (hnone : ∀ r ∈ s.rows, (rs.write run).finds r = false)
      (hrival : ∀ x ∈ s.inserted, (rs.write run).finds x.2 = false) :
      StatementSpec now run s (s.afterInsert rs run ((rs.write run).insert
        ((rs.write run).defaults cf existing) (rs.freshId run attempt) now))
  | updated {attempt : Attempt} {existing : Option BlockRule} {id : Uuid}
      (hpc : s.pc run = .update attempt existing id) :
      StatementSpec now run s (s.afterUpdate cf rs run existing id)
  | committed (hpc : s.pc run = .commit) : StatementSpec now run s (s.afterCommit run)

variable {rs} {s s' : RaceState R} {run : R} {now : ℚ}

/-- A locking read finds the row of the key, when nobody else holds it, or there is none. -/
theorem lockingGet_cases {found : Option BlockRule} (h : s.lockingGet rs run = some found) :
    (found = none ∧ ∀ r ∈ s.rows, (rs.write run).finds r = false) ∨
      ∃ r, found = some r ∧ r ∈ s.rows ∧ (rs.write run).finds r = true ∧
        (s.lockedBy r.id = none ∨ s.lockedBy r.id = some run) := by
  rw [RaceState.lockingGet] at h
  split at h
  · rename_i hnone
    refine Or.inl ⟨(Option.some.inj h).symm, fun r hr ↦ ?_⟩
    rw [← Bool.not_eq_true]
    exact List.find?_eq_none.1 hnone r hr
  · rename_i r hr
    split at h
    · rename_i hlock
      exact Or.inr ⟨r, (Option.some.inj h).symm, List.mem_of_find?_eq_some hr,
        List.find?_some hr, hlock⟩
    · cases h

theorem statement_spec (h : s.statement cf rs now run = some s') :
    StatementSpec cf rs now run s s' := by
  rw [RaceState.statement] at h
  split at h
  · rename_i attempt existing hpc
    split at h
    · cases h
    · rename_i hrival
      split at h
      · rename_i hany
        obtain ⟨r, hr, hfinds⟩ := List.any_eq_true.1 hany
        obtain rfl := Option.some.inj h
        exact .refused hpc hr hfinds
      · rename_i hnone
        obtain rfl := Option.some.inj h
        refine .accepted hpc (fun r hr ↦ ?_) fun x hx ↦ ?_
        · rw [← Bool.not_eq_true]
          exact fun hfinds ↦ hnone (List.any_eq_true.2 ⟨r, hr, hfinds⟩)
        · rw [← Bool.not_eq_true]
          exact fun hfinds ↦ hrival (List.any_eq_true.2 ⟨x, hx, hfinds⟩)
  · rename_i hpc
    obtain rfl := Option.some.inj h
    exact .updated hpc
  · rename_i hpc
    obtain rfl := Option.some.inj h
    exact .committed hpc
  · obtain ⟨found, hfound, h⟩ := Option.bind_eq_some_iff.1 h
    obtain ⟨pc, hpc, h⟩ := Option.bind_eq_some_iff.1 h
    obtain rfl := Option.some.inj h
    rcases lockingGet_cases hfound with ⟨rfl, hnone⟩ | ⟨r, rfl, hr, hfinds, hlock⟩
    · exact .absent hnone hpc
    · exact .found hr hfinds hlock hpc

/-! ### The invariant -/

/-- The run holds the lock of a row of its key. -/
def RaceState.Holds (rs : Races R) (s : RaceState R) (run : R) (r : BlockRule) : Prop :=
  r ∈ s.rows ∧ (rs.write run).finds r = true ∧ s.lockedBy r.id = some run

/-- Where a run stands fits the database: it still holds the row it read, a run that inserts read
none, and only the first attempt inserts. -/
def Pc.Fits (rs : Races R) (s : RaceState R) (run : R) : Pc → Prop
  | .get _ (some r) => s.Holds rs run r
  | .get attempt none => attempt = .first
  | .insert attempt existing | .getAgain attempt existing => attempt = .first ∧ existing = none
  | .update _ existing id =>
    ∃ r, s.Holds rs run r ∧ r.id = id ∧ (existing = some r ∨ existing = none)
  | .integrityError => False
  | .start | .reread | .commit | .done | .doesNotExist => True

/-- **The invariant of the races**: primary keys and auto keys name one row, uncommitted ones
included, a key of a new row is in the table only once its run is done, and every run stands where
the database says. -/
structure RaceInv (rs : Races R) (s : RaceState R) : Prop where
  primary : ∀ r ∈ s.rows, ∀ r' ∈ s.rows, r.id = r'.id → r = r'
  unique : ∀ k : AutoKey, s.rows.countP k.holds + s.inserted.countP (fun x ↦ k.holds x.2) ≤ 1
  inserted : ∀ x ∈ s.inserted, s.pc x.1 = .commit ∧ (rs.write x.1).finds x.2 = true ∧
    ∃ attempt, x.2.id = rs.freshId x.1 attempt
  fresh : ∀ r ∈ s.rows, ∀ run attempt, r.id = rs.freshId run attempt → s.pc run = .done
  position : ∀ run, (s.pc run).Fits rs s run

omit [DecidableEq R] in
theorem RaceInv.length_filter_le_one (h : RaceInv rs s) (k : AutoKey) :
    (s.rows.filter k.holds).length ≤ 1 := by
  rw [← List.countP_eq_length_filter]
  exact (Nat.le_add_right _ _).trans (h.unique k)

omit [DecidableEq R] in
theorem RaceInv.ne_integrityError (h : RaceInv rs s) (run : R) : s.pc run ≠ .integrityError := by
  intro hpc
  have hfits := h.position run
  rw [hpc] at hfits
  exact hfits

omit [DecidableEq R] in
/-- A key names one row. -/
theorem RaceInv.eq_of_finds (h : RaceInv rs s) {a : AutoRuleWrite} {r r' : BlockRule}
    (hr : r ∈ s.rows) (hr' : r' ∈ s.rows) (hfinds : a.finds r = true)
    (hfinds' : a.finds r' = true) : r = r' :=
  eq_of_length_filter_le_one (h.length_filter_le_one a.key) hr hr' hfinds hfinds'

/-- A step leaves a run alone: where it stands, and the rows it has locked. -/
structure Leaves (run : R) (s s' : RaceState R) : Prop where
  pc : s'.pc run = s.pc run
  locked : ∀ r ∈ s.rows, s.lockedBy r.id = some run → r ∈ s'.rows ∧ s'.lockedBy r.id = some run

omit [DecidableEq R] in
/-- A run that is left alone stands where it stood. -/
theorem Leaves.fits (h : Leaves run s s') (hfits : (s.pc run).Fits rs s run) :
    (s'.pc run).Fits rs s' run := by
  have hholds : ∀ r, s.Holds rs run r → s'.Holds rs run r := by
    rintro r ⟨hr, hfinds, hlock⟩
    obtain ⟨hr', hlock'⟩ := h.locked r hr hlock
    exact ⟨hr', hfinds, hlock'⟩
  rw [h.pc]
  generalize s.pc run = pc at hfits
  cases pc with
  | get attempt existing =>
    rcases existing with - | r
    · exact hfits
    · exact hholds r hfits
  | update attempt existing id =>
    obtain ⟨r, hr, hid, hexisting⟩ := hfits
    exact ⟨r, hholds r hr, hid, hexisting⟩
  | _ => exact hfits

/-- **A step that only moves a run** and takes or drops its locks. -/
theorem RaceInv.of_rows_eq (h : RaceInv rs s) (hrows : s'.rows = s.rows)
    (hinserted : s'.inserted = s.inserted) (hcommit : s.pc run ≠ .commit) (hdone : s.pc run ≠ .done)
    (hleaves : ∀ run', run' ≠ run → Leaves run' s s') (hfits : (s'.pc run).Fits rs s' run) :
    RaceInv rs s' where
  primary := hrows ▸ h.primary
  unique := hrows ▸ hinserted ▸ h.unique
  inserted := by
    rw [hinserted]
    intro x hx
    obtain ⟨hpc, hid⟩ := h.inserted x hx
    refine ⟨((hleaves x.1 fun hrun ↦ ?_).pc).trans hpc, hid⟩
    exact hcommit (hrun ▸ hpc)
  fresh := by
    rw [hrows]
    intro r hr run' attempt hid
    have hpc := h.fresh r hr run' attempt hid
    refine ((hleaves run' fun hrun ↦ ?_).pc).trans hpc
    exact hdone (hrun ▸ hpc)
  position := by
    intro run'
    by_cases hrun : run' = run
    · rw [hrun]
      exact hfits
    · exact (hleaves run' hrun).fits (h.position run')

/-! ### Statement by statement -/

/-- A run that is about to read has not written. -/
theorem Pc.onRead_moves {pc pc' : Pc} {found : Option BlockRule} (h : pc.onRead found = some pc') :
    pc ≠ .commit ∧ pc ≠ .done := by
  constructor
  · rintro rfl
    cases h
  · rintro rfl
    cases h

/-- Dropping a run's locks leaves those of the others. -/
theorem released_of_ne {run' : R} (hrun : run' ≠ run) {id : Uuid} (h : s.lockedBy id = some run') :
    s.released run id = some run' := by
  rw [RaceState.released, if_neg, h]
  rw [h]
  exact fun heq ↦ hrun (Option.some.inj heq)

/-- **A locking read that finds the row** takes a free lock, or has it already. -/
theorem RaceInv.found (h : RaceInv rs s) {r : BlockRule} {pc : Pc} (hr : r ∈ s.rows)
    (hfinds : (rs.write run).finds r = true)
    (hlock : s.lockedBy r.id = none ∨ s.lockedBy r.id = some run)
    (hpc : (s.pc run).onRead (some r) = some pc) : RaceInv rs (s.afterRead run (some r) pc) := by
  have hself : (s.afterRead run (some r) pc).pc run = pc := Function.update_self ..
  have hholds : (s.afterRead run (some r) pc).Holds rs run r := by
    refine ⟨hr, hfinds, ?_⟩
    show Function.update s.lockedBy r.id (some run) r.id = some run
    rw [Function.update_self]
  obtain ⟨hcommit, hdone⟩ := Pc.onRead_moves hpc
  refine h.of_rows_eq rfl rfl hcommit hdone
    (fun run' hrun ↦ ⟨Function.update_of_ne hrun _ _, ?_⟩) ?_
  · intro r' hr' hlock'
    refine ⟨hr', (Function.update_of_ne (fun hid ↦ ?_) _ _).trans hlock'⟩
    rw [hid] at hlock'
    rw [hlock'] at hlock
    exact hlock.elim nofun fun heq ↦ hrun (Option.some.inj heq)
  · have hfits := h.position run
    rw [hself]
    generalize s.pc run = pc₀ at hpc hfits
    cases pc₀ with
    | start =>
      obtain rfl := Option.some.inj hpc
      exact hholds
    | get attempt existing =>
      obtain rfl := Option.some.inj hpc
      refine ⟨r, hholds, rfl, ?_⟩
      rcases existing with - | r₀
      · exact Or.inr rfl
      · obtain ⟨hr₀, hfinds₀, -⟩ := hfits
        rw [h.eq_of_finds hr₀ hr hfinds₀ hfinds]
        exact Or.inl rfl
    | getAgain attempt existing =>
      obtain rfl := Option.some.inj hpc
      exact ⟨r, hholds, rfl, Or.inr hfits.2⟩
    | reread =>
      obtain rfl := Option.some.inj hpc
      exact hholds
    | _ => cases hpc

/-- **A locking read that finds no row.** A run that read the row holds it, so it is not this one.
-/
theorem RaceInv.absent (h : RaceInv rs s) {pc : Pc}
    (hnone : ∀ r ∈ s.rows, (rs.write run).finds r = false)
    (hpc : (s.pc run).onRead none = some pc) : RaceInv rs (s.afterRead run none pc) := by
  have hself : (s.afterRead run none pc).pc run = pc := Function.update_self ..
  obtain ⟨hcommit, hdone⟩ := Pc.onRead_moves hpc
  refine h.of_rows_eq rfl rfl hcommit hdone
    (fun run' hrun ↦ ⟨Function.update_of_ne hrun _ _, ?_⟩) ?_
  · intro r' hr' hlock'
    refine ⟨hr', ?_⟩
    show (if pc = .doesNotExist ∨ pc = .integrityError then s.released run else s.lockedBy) r'.id =
      some run'
    split
    · exact released_of_ne hrun hlock'
    · exact hlock'
  · have hfits := h.position run
    rw [hself]
    generalize s.pc run = pc₀ at hpc hfits
    cases pc₀ with
    | start =>
      obtain rfl := Option.some.inj hpc
      exact rfl
    | get attempt existing =>
      obtain rfl := Option.some.inj hpc
      rcases existing with - | r₀
      · exact ⟨hfits, rfl⟩
      · obtain ⟨hr₀, hfinds₀, -⟩ := hfits
        rw [hnone r₀ hr₀] at hfinds₀
        cases hfinds₀
    | getAgain attempt existing =>
      obtain ⟨rfl, -⟩ := hfits
      obtain rfl := Option.some.inj hpc
      exact trivial
    | reread =>
      obtain rfl := Option.some.inj hpc
      exact trivial
    | _ => cases hpc

/-- **An insert that is refused** leads to another get. -/
theorem RaceInv.refused (h : RaceInv rs s) {attempt : Attempt} {existing : Option BlockRule}
    (hpc : s.pc run = .insert attempt existing) :
    RaceInv rs { s with pc := Function.update s.pc run (.getAgain attempt existing) } := by
  have hfits := h.position run
  rw [hpc] at hfits
  refine h.of_rows_eq rfl rfl (by rw [hpc]; exact nofun) (by rw [hpc]; exact nofun)
    (fun run' hrun ↦ ⟨Function.update_of_ne hrun _ _, fun r hr hlock ↦ ⟨hr, hlock⟩⟩) ?_
  show (Function.update s.pc run (.getAgain attempt existing) run).Fits rs _ run
  rw [Function.update_self]
  exact hfits

/-- The keys of the row a run inserts. -/
theorem holds_insert {a : AutoRuleWrite} {d : WriteDefaults} {id : Uuid} (k : AutoKey) :
    k.holds (a.insert d id now) = true ↔ a.key = k := by
  rw [AutoKey.holds_iff]
  exact ⟨fun h ↦ h.2, fun h ↦ ⟨rfl, h⟩⟩

/-- **An insert that is accepted**: neither a committed row nor an uncommitted one has the key. -/
theorem RaceInv.accepted (h : RaceInv rs s) {attempt : Attempt} {existing : Option BlockRule}
    (hpc : s.pc run = .insert attempt existing)
    (hnone : ∀ r ∈ s.rows, (rs.write run).finds r = false)
    (hrival : ∀ x ∈ s.inserted, (rs.write run).finds x.2 = false) (d : WriteDefaults) :
    RaceInv rs (s.afterInsert rs run
      ((rs.write run).insert d (rs.freshId run attempt) now)) := by
  have hcommit : (s.afterInsert rs run ((rs.write run).insert d (rs.freshId run attempt) now)).pc
      run = .commit := Function.update_self ..
  have hother : ∀ run', run' ≠ run → Leaves run' s (s.afterInsert rs run
      ((rs.write run).insert d (rs.freshId run attempt) now)) :=
    fun run' hrun ↦ ⟨Function.update_of_ne hrun _ _, fun r hr hlock ↦ ⟨hr, hlock⟩⟩
  refine ⟨h.primary, fun k ↦ ?_, fun x hx ↦ ?_, fun r hr run' attempt' hid ↦ ?_, fun run' ↦ ?_⟩
  · show s.rows.countP k.holds + ((run, _) :: s.inserted).countP (fun x ↦ k.holds x.2) ≤ 1
    rw [List.countP_cons]
    split
    · -- the new row is the first of its key
      rename_i hk
      obtain rfl := (holds_insert k).1 hk
      have hrows : s.rows.countP (rs.write run).key.holds = 0 :=
        List.countP_eq_zero.2 fun r hr hfinds ↦ by
          rw [← (rs.write run).finds_eq, hnone r hr] at hfinds
          cases hfinds
      have hinserted : s.inserted.countP (fun x ↦ (rs.write run).key.holds x.2) = 0 :=
        List.countP_eq_zero.2 fun x hx hfinds ↦ by
          rw [← (rs.write run).finds_eq, hrival x hx] at hfinds
          cases hfinds
      rw [hrows, hinserted]
    · exact h.unique k
  · rcases List.mem_cons.1 hx with rfl | hx
    · exact ⟨hcommit, (holds_insert _).2 rfl, attempt, rfl⟩
    · obtain ⟨hpc', hid⟩ := h.inserted x hx
      refine ⟨((hother x.1 fun hrun ↦ ?_).pc).trans hpc', hid⟩
      rw [hrun, hpc] at hpc'
      cases hpc'
  · have hdone := h.fresh r hr run' attempt' hid
    refine ((hother run' fun hrun ↦ ?_).pc).trans hdone
    rw [hrun, hpc] at hdone
    cases hdone
  · by_cases hrun : run' = run
    · rw [hrun, hcommit]
      exact trivial
    · exact (hother run' hrun).fits (h.position run')

omit [DecidableEq R] in
/-- **Rows rewritten in place**: primary keys stay, and no row gets an auto key it did not have. -/
theorem RaceInv.map_rows (h : RaceInv rs s) {f : BlockRule → BlockRule}
    (hid : ∀ r, (f r).id = r.id) (hkey : ∀ r (k : AutoKey), k.holds (f r) = true → k.holds r = true)
    (hrows : s'.rows = s.rows.map f) (hinserted : s'.inserted = s.inserted)
    (hcommit : ∀ run', s.pc run' = .commit → s'.pc run' = .commit)
    (hdone : ∀ run', s.pc run' = .done → s'.pc run' = .done)
    (hfits : ∀ run', (s'.pc run').Fits rs s' run') : RaceInv rs s' where
  primary := by
    rw [hrows]
    intro r₁ hr₁ r₂ hr₂ heq
    obtain ⟨t₁, ht₁, rfl⟩ := List.mem_map.1 hr₁
    obtain ⟨t₂, ht₂, rfl⟩ := List.mem_map.1 hr₂
    rw [hid, hid] at heq
    rw [h.primary t₁ ht₁ t₂ ht₂ heq]
  unique k := by
    have hle : s.rows.countP (k.holds ∘ f) ≤ s.rows.countP k.holds :=
      List.countP_mono_left fun r _ ↦ hkey r k
    have hone := h.unique k
    rw [hrows, hinserted, List.countP_map]
    omega
  inserted := by
    rw [hinserted]
    intro x hx
    obtain ⟨hpc, hfresh⟩ := h.inserted x hx
    exact ⟨hcommit x.1 hpc, hfresh⟩
  fresh := by
    rw [hrows]
    intro r hr run' attempt hfresh
    obtain ⟨t, ht, rfl⟩ := List.mem_map.1 hr
    exact hdone run' (h.fresh t ht run' attempt ((hid t).symm.trans hfresh))
  position := hfits

/-- **The update**: nobody else holds the row. -/
theorem RaceInv.updated (h : RaceInv rs s) {attempt : Attempt} {existing : Option BlockRule}
    {id : Uuid} (hpc : s.pc run = .update attempt existing id) :
    RaceInv rs (s.afterUpdate cf rs run existing id) := by
  have hfits := h.position run
  rw [hpc] at hfits
  obtain ⟨r₀, ⟨-, -, hlock⟩, hid, -⟩ := hfits
  have hcommit : (s.afterUpdate cf rs run existing id).pc run = .commit := Function.update_self ..
  have hother : ∀ run', run' ≠ run → Leaves run' s (s.afterUpdate cf rs run existing id) := by
    intro run' hrun
    refine ⟨Function.update_of_ne hrun _ _, fun r hr hlock' ↦
      ⟨List.mem_map.2 ⟨r, hr, if_neg ?_⟩, hlock'⟩⟩
    intro hsame
    rw [hsame, ← hid, hlock] at hlock'
    exact hrun (Option.some.inj hlock').symm
  refine h.map_rows (fun r ↦ ?_) (fun r k hk ↦ ?_) rfl rfl (fun run' hpc' ↦ ?_)
    (fun run' hpc' ↦ ?_) fun run' ↦ ?_
  · split <;> rfl
  · split at hk <;> exact hk
  · by_cases hrun : run' = run
    · rw [hrun, hcommit]
    · exact (hother run' hrun).pc.trans hpc'
  · refine (hother run' fun hrun ↦ ?_).pc.trans hpc'
    rw [hrun, hpc] at hpc'
    cases hpc'
  · by_cases hrun : run' = run
    · rw [hrun, hcommit]
      exact trivial
    · exact (hother run' hrun).fits (h.position run')

omit [DecidableEq R] in
/-- **A review** waits for the row's lock. -/
theorem RaceInv.review (h : RaceInv rs s) {f : BlockRule → BlockRule} {id : Uuid}
    (hid : ∀ r, (f r).id = r.id) (hkey : ∀ r (k : AutoKey), k.holds (f r) = true → k.holds r = true)
    (hstep : s.review f id = some s') : RaceInv rs s' := by
  rw [RaceState.review] at hstep
  split at hstep
  · rename_i hfree
    obtain rfl := Option.some.inj hstep
    refine h.map_rows (fun r ↦ ?_) (fun r k hk ↦ ?_) rfl rfl (fun _ hpc ↦ hpc) (fun _ hpc ↦ hpc)
      fun run' ↦ ?_
    · split
      · exact hid r
      · rfl
    · split at hk
      · exact hkey r k hk
      · exact hk
    · refine Leaves.fits (s := s) ⟨rfl, fun r hr hlock ↦
        ⟨List.mem_map.2 ⟨r, hr, if_neg fun hsame ↦ ?_⟩, hlock⟩⟩ (h.position run')
      rw [hsame, hfree] at hlock
      cases hlock
  · cases hstep

/-- **The commit** puts what the run inserted into the table. -/
theorem RaceInv.committed (h : RaceInv rs s) (hpc : s.pc run = .commit) :
    RaceInv rs (s.afterCommit run) := by
  have hdone : (s.afterCommit run).pc run = .done := Function.update_self ..
  have hother : ∀ run', run' ≠ run → Leaves run' s (s.afterCommit run) := fun run' hrun ↦
    ⟨Function.update_of_ne hrun _ _, fun r hr hlock ↦
      ⟨List.mem_append_left _ hr, released_of_ne hrun hlock⟩⟩
  have hmem : ∀ r, r ∈ (s.afterCommit run).rows ↔ r ∈ s.rows ∨ (run, r) ∈ s.inserted := by
    intro r
    show r ∈ s.rows ++ (s.inserted.filter fun x ↦ x.1 = run).map Prod.snd ↔ _
    simp
  -- the keys of rows that are not yet committed are in no committed row
  have hnew : ∀ r ∈ s.rows, ∀ r', (run, r') ∈ s.inserted → r.id ≠ r'.id := by
    intro r hr r' hr' hid
    obtain ⟨-, -, attempt, hfresh⟩ := h.inserted (run, r') hr'
    have hpc' := h.fresh r hr run attempt (hid.trans hfresh)
    rw [hpc] at hpc'
    cases hpc'
  refine ⟨fun r₁ hr₁ r₂ hr₂ hid ↦ ?_, fun k ↦ ?_, fun x hx ↦ ?_, fun r hr run' attempt hid ↦ ?_,
    fun run' ↦ ?_⟩
  · rcases (hmem r₁).1 hr₁ with hr₁ | hr₁ <;> rcases (hmem r₂).1 hr₂ with hr₂ | hr₂
    · exact h.primary r₁ hr₁ r₂ hr₂ hid
    · exact absurd hid (hnew r₁ hr₁ r₂ hr₂)
    · exact absurd hid.symm (hnew r₂ hr₂ r₁ hr₁)
    · -- a run inserts one row
      obtain ⟨-, hfinds₁, -⟩ := h.inserted _ hr₁
      obtain ⟨-, hfinds₂, -⟩ := h.inserted _ hr₂
      have hle : (s.inserted.filter fun x ↦ (rs.write run).finds x.2).length ≤ 1 := by
        rw [← List.countP_eq_length_filter]
        exact (Nat.le_add_left _ _).trans (h.unique (rs.write run).key)
      exact congrArg Prod.snd (eq_of_length_filter_le_one hle hr₁ hr₂ hfinds₁ hfinds₂)
  · have hone := h.unique k
    have hsplit : (s.inserted.filter fun x ↦ x.1 = run).countP (fun x ↦ k.holds x.2) +
        (s.inserted.filter fun x ↦ x.1 ≠ run).countP (fun x ↦ k.holds x.2) =
        s.inserted.countP fun x ↦ k.holds x.2 := by
      rw [List.countP_eq_countP_filter_add s.inserted _ fun x ↦ decide (x.1 = run)]
      simp
    show (s.rows ++ (s.inserted.filter fun x ↦ x.1 = run).map Prod.snd).countP k.holds +
      (s.inserted.filter fun x ↦ x.1 ≠ run).countP (fun x ↦ k.holds x.2) ≤ 1
    rw [List.countP_append, List.countP_map]
    show s.rows.countP k.holds + (s.inserted.filter fun x ↦ x.1 = run).countP
      (fun x ↦ k.holds x.2) + _ ≤ 1
    omega
  · obtain ⟨hx, hne⟩ := List.mem_filter.1 hx
    obtain ⟨hpc', hrest⟩ := h.inserted x hx
    exact ⟨(hother x.1 (of_decide_eq_true hne)).pc.trans hpc', hrest⟩
  · by_cases hrun : run' = run
    · rw [hrun, hdone]
    · rcases (hmem r).1 hr with hr | hr
      · exact (hother run' hrun).pc.trans (h.fresh r hr run' attempt hid)
      · obtain ⟨-, -, attempt', hfresh⟩ := h.inserted _ hr
        exact absurd (rs.freshId_inj (hid.symm.trans hfresh)) hrun
  · by_cases hrun : run' = run
    · rw [hrun, hdone]
      exact trivial
    · exact (hother run' hrun).fits (h.position run')

/-- One statement of the system, as a step relation. -/
def RaceStep (rs : Races R) (s : RaceState R) (e : RaceEvent R) (s' : RaceState R) : Prop :=
  s.step cf rs e = some s'

variable {cf}

/-- **Every statement keeps the invariant.** -/
theorem raceInv_step (h : RaceInv rs s) {e : RaceEvent R} (hstep : RaceStep cf rs s e s') :
    RaceInv rs s' := by
  cases e with
  | statement run now =>
    cases statement_spec cf hstep with
    | found hr hfinds hlock hpc => exact h.found hr hfinds hlock hpc
    | absent hnone hpc => exact h.absent hnone hpc
    | refused hpc hr hfinds => exact h.refused hpc
    | accepted hpc hnone hrival => exact h.accepted hpc hnone hrival _
    | updated hpc => exact h.updated cf hpc
    | committed hpc => exact h.committed hpc
  | confirm id now =>
    refine h.review (f := BlockRule.confirmed now) (fun _ ↦ rfl) (fun r k hk ↦ ?_) hstep
    have hadmin : (r.confirmed now).source ≠ .auto := r.confirmed_source
    rw [AutoKey.holds_of_source hadmin] at hk
    cases hk
  | reject id now =>
    exact h.review (f := BlockRule.rejected now) (fun _ ↦ rfl) (fun _ _ hk ↦ hk) hstep

/-- A table of block rules that keeps its constraints, and in which no primary key is one that a run
has yet to insert. -/
structure Ready (rs : Races R) (rows : List BlockRule) : Prop where
  primary : ∀ r ∈ rows, ∀ r' ∈ rows, r.id = r'.id → r = r'
  unique : ∀ k : AutoKey, (rows.filter k.holds).length ≤ 1
  fresh : ∀ r ∈ rows, ∀ run attempt, r.id ≠ rs.freshId run attempt

omit [DecidableEq R] in
theorem Ready.raceInv {rows : List BlockRule} (h : Ready rs rows) : RaceInv rs (.start rows) where
  primary := h.primary
  unique k := by
    show rows.countP k.holds + 0 ≤ 1
    rw [List.countP_eq_length_filter]
    exact h.unique k
  inserted := fun _ hx ↦ (List.not_mem_nil hx).elim
  fresh := fun r hr run attempt hid ↦ (h.fresh r hr run attempt hid).elim
  position := fun _ ↦ trivial

/-- **In every interleaving** no run raises `IntegrityError`, and a key has at most one auto row. -/
theorem raceInv_run {rows : List BlockRule} (h : Ready rs rows) {es : List (RaceEvent R)}
    (hrun : Run (RaceStep cf rs) (.start rows) es s) :
    (∀ run, s.pc run ≠ .integrityError) ∧ ∀ k : AutoKey, (s.rows.filter k.holds).length ≤ 1 := by
  have hinv : RaceInv rs s :=
    Run.invariant (P := fun _ s ↦ RaceInv rs s) h.raceInv (fun _ hs hstep ↦ raceInv_step hs hstep)
      hrun
  exact ⟨hinv.ne_integrityError, hinv.length_filter_le_one⟩

/-! ### What is lost, and when nothing is -/

/-- **Nothing is lost by a statement.** No run has raised `IntegrityError`, a key has one auto row
at most, a row names exactly those that have written it, and a statement of a run leaves the
decision on a row that was decided. -/
structure NothingLost (s : RaceState R) (e : RaceEvent R) (s' : RaceState R) : Prop where
  integrity : ∀ run, s'.pc run ≠ .integrityError
  unique : ∀ k : AutoKey, (s'.rows.filter k.holds).length ≤ 1
  detectors : ∀ r ∈ s'.rows, ∀ n, n ≠ "" →
    (n ∈ detectorNames r.detectors ↔ n ∈ s'.writers r.id)
  decided : ∀ run now, e = .statement run now → ∀ r ∈ s.rows, r.reviewStatus.decided = true →
    ∃ r' ∈ s'.rows, r'.id = r.id ∧ r'.isActive = r.isActive ∧ r'.reviewStatus = r.reviewStatus

/-- The run is at a `get` of `update_or_create`, with defaults derived from no row. -/
def Pc.getsUnread : Pc → Bool
  | .get _ none | .getAgain _ none => true
  | .start | .get _ (some _) | .insert _ _ | .getAgain _ (some _) | .update _ _ _ | .reread
  | .commit | .done | .doesNotExist | .integrityError => false

/-- **A run that read no row gets none**: at the `get` of `update_or_create`, and at the one after
its insert was refused. -/
def ReadsItsRow (rs : Races R) (s : RaceState R) : RaceEvent R → Prop
  | .statement run _ => (s.pc run).getsUnread = true →
    ∀ r ∈ s.rows, (rs.write run).finds r = false
  | .confirm _ _ | .reject _ _ => True

instance (s : RaceState R) : DecidablePred (ReadsItsRow rs s)
  | .statement run _ => inferInstanceAs (Decidable ((s.pc run).getsUnread = true →
    ∀ r ∈ s.rows, (rs.write run).finds r = false))
  | .confirm _ _ | .reject _ _ => inferInstanceAs (Decidable True)

/-- The names of a row are its writers. -/
def RaceState.NamesWriters (s : RaceState R) (r : BlockRule) : Prop :=
  ∀ n, n ≠ "" → (n ∈ detectorNames r.detectors ↔ n ∈ s.writers r.id)

/-- No run is about to write defaults derived from nothing over a row, and every row names its
writers. -/
structure Ledger (s : RaceState R) : Prop where
  derived : ∀ run attempt id, s.pc run ≠ .update attempt none id
  rows : ∀ r ∈ s.rows, s.NamesWriters r
  inserted : ∀ x ∈ s.inserted, s.NamesWriters x.2

/-- A run that moves on to a statement that is no such update. -/
theorem Ledger.derived_update (h : Ledger s) {pc : Pc}
    (hpc : ∀ attempt id, pc ≠ .update attempt none id) (run' : R) (attempt : Attempt) (id : Uuid) :
    Function.update s.pc run pc run' ≠ .update attempt none id := by
  by_cases hrun : run' = run
  · rw [hrun, Function.update_self]
    exact hpc attempt id
  · rw [Function.update_of_ne hrun]
    exact h.derived run' attempt id

/-- **A read by a run that gets its row** derives nothing from nothing. -/
theorem Ledger.found (h : Ledger s) {r : BlockRule} {pc : Pc} (hr : r ∈ s.rows)
    (hfinds : (rs.write run).finds r = true) (hpc : (s.pc run).onRead (some r) = some pc)
    (hreads : ReadsItsRow rs s (.statement run now)) : Ledger (s.afterRead run (some r) pc) := by
  have hread : ¬(s.pc run).getsUnread = true := by
    intro hunread
    rw [hreads hunread r hr] at hfinds
    cases hfinds
  refine ⟨h.derived_update fun attempt id hupdate ↦ ?_, h.rows, h.inserted⟩
  subst hupdate
  cases hpc₀ : s.pc run with
  | get attempt₀ existing =>
    rw [hpc₀] at hpc
    obtain ⟨rfl, rfl, -⟩ := Pc.update.inj (Option.some.inj hpc)
    exact hread (by rw [hpc₀]; rfl)
  | getAgain attempt₀ existing =>
    rw [hpc₀] at hpc
    obtain ⟨rfl, rfl, -⟩ := Pc.update.inj (Option.some.inj hpc)
    exact hread (by rw [hpc₀]; rfl)
  | _ =>
    rw [hpc₀] at hpc
    cases hpc

/-- A read that finds nothing leads to no update. -/
theorem Ledger.absent (h : Ledger s) {pc : Pc} (hpc : (s.pc run).onRead none = some pc) :
    Ledger (s.afterRead run none pc) := by
  refine ⟨h.derived_update fun attempt id hupdate ↦ ?_, h.rows, h.inserted⟩
  subst hupdate
  generalize s.pc run = pc₀ at hpc
  cases pc₀ with
  | getAgain attempt₀ existing => cases attempt₀ <;> cases hpc
  | _ => cases hpc

/-- **A new row names the run that inserted it.** -/
theorem Ledger.accepted (h : Ledger s) (hinv : RaceInv rs s) {attempt : Attempt}
    {existing : Option BlockRule} (hpc : s.pc run = .insert attempt existing) :
    Ledger (s.afterInsert rs run ((rs.write run).insert ((rs.write run).defaults cf existing)
      (rs.freshId run attempt) now)) := by
  have hfits := hinv.position run
  rw [hpc] at hfits
  obtain ⟨-, rfl⟩ := hfits
  -- the writers of a row with another primary key are those it had
  have hkept : ∀ r : BlockRule, r.id ≠ rs.freshId run attempt → s.NamesWriters r →
      (s.afterInsert rs run ((rs.write run).insert ((rs.write run).defaults cf none)
        (rs.freshId run attempt) now)).NamesWriters r := by
    intro r hid hr n hn
    show _ ↔ n ∈ Function.update s.writers (rs.freshId run attempt) _ r.id
    rw [Function.update_of_ne hid]
    exact hr n hn
  refine ⟨h.derived_update fun _ _ ↦ nofun, fun r hr ↦ hkept r (fun hid ↦ ?_) (h.rows r hr),
    fun x hx ↦ ?_⟩
  · have hdone := hinv.fresh r hr run attempt hid
    rw [hpc] at hdone
    cases hdone
  · rcases List.mem_cons.1 hx with rfl | hx
    · intro n hn
      have hmerge : n ∈ detectorNames (mergeDetectorNames "" (rs.write run).detectorName) ↔
          n ∈ detectorNames "" ∨ n = (rs.write run).detectorName :=
        mem_detectorNames_merge hn (rs.comma_free run)
      have hempty : n ∉ detectorNames "" := fun hmem ↦ hn (List.mem_singleton.1 hmem)
      show n ∈ detectorNames (mergeDetectorNames "" (rs.write run).detectorName) ↔
        n ∈ Function.update s.writers (rs.freshId run attempt) [(rs.write run).detectorName]
          (rs.freshId run attempt)
      rw [hmerge, or_iff_right hempty, Function.update_self, List.mem_singleton]
    · obtain ⟨hcommit, -, attempt', hid⟩ := hinv.inserted x hx
      refine hkept x.2 (fun heq ↦ ?_) (h.inserted x hx)
      rw [rs.freshId_inj (hid.symm.trans heq), hpc] at hcommit
      cases hcommit

omit [DecidableEq R] in
/-- A run that updates a row derived its defaults from that row, and holds it. -/
theorem Ledger.existing (h : Ledger s) (hinv : RaceInv rs s) {attempt : Attempt}
    {existing : Option BlockRule} {id : Uuid} (hpc : s.pc run = .update attempt existing id) :
    ∃ r ∈ s.rows, r.id = id ∧ existing = some r := by
  have hfits := hinv.position run
  rw [hpc] at hfits
  obtain ⟨r, hr, hid, hexisting | rfl⟩ := hfits
  · exact ⟨r, hr.1, hid, hexisting⟩
  · exact absurd hpc (h.derived run attempt id)

/-- **The update adds the run's name to those of the row.** -/
theorem Ledger.updated (h : Ledger s) (hinv : RaceInv rs s) {attempt : Attempt}
    {existing : Option BlockRule} {id : Uuid} (hpc : s.pc run = .update attempt existing id) :
    Ledger (s.afterUpdate cf rs run existing id) := by
  obtain ⟨r₀, hr₀, hid₀, rfl⟩ := h.existing hinv hpc
  have hkept : ∀ r : BlockRule, r.id ≠ id → s.NamesWriters r →
      (s.afterUpdate cf rs run (some r₀) id).NamesWriters r := by
    intro r hid hr n hn
    show _ ↔ n ∈ Function.update s.writers id _ r.id
    rw [Function.update_of_ne hid]
    exact hr n hn
  refine ⟨h.derived_update fun _ _ ↦ nofun, fun r' hr' ↦ ?_, fun x hx ↦ ?_⟩
  · obtain ⟨r, hr, rfl⟩ := List.mem_map.1 hr'
    split
    · rename_i hid
      obtain rfl := hinv.primary r hr r₀ hr₀ (hid.trans hid₀.symm)
      intro n hn
      have hmerge : n ∈ detectorNames (mergeDetectorNames r.detectors (rs.write run).detectorName) ↔
          n ∈ detectorNames r.detectors ∨ n = (rs.write run).detectorName :=
        mem_detectorNames_merge hn (rs.comma_free run)
      have hnames := h.rows r hr n hn
      show n ∈ detectorNames (mergeDetectorNames r.detectors (rs.write run).detectorName) ↔
        n ∈ Function.update s.writers id ((rs.write run).detectorName :: s.writers id) r.id
      rw [hmerge, hnames, hid, Function.update_self, List.mem_cons, or_comm]
    · rename_i hid
      exact hkept r hid (h.rows r hr)
  · obtain ⟨hcommit, -, attempt', hfresh⟩ := hinv.inserted x hx
    refine hkept x.2 (fun hid ↦ ?_) (h.inserted x hx)
    have hdone := hinv.fresh r₀ hr₀ x.1 attempt' (hid₀.trans (hid.symm.trans hfresh))
    rw [hcommit] at hdone
    cases hdone

theorem Ledger.committed (h : Ledger s) : Ledger (s.afterCommit run) := by
  refine ⟨h.derived_update fun _ _ ↦ nofun, fun r hr ↦ ?_, fun x hx ↦
    h.inserted x (List.mem_of_mem_filter hx)⟩
  rcases List.mem_append.1 hr with hr | hr
  · exact h.rows r hr
  · obtain ⟨x, hx, rfl⟩ := List.mem_map.1 hr
    exact h.inserted x (List.mem_of_mem_filter hx)

omit [DecidableEq R] in
/-- A review leaves the names of a row alone. -/
theorem Ledger.review (h : Ledger s) {f : BlockRule → BlockRule} {id : Uuid}
    (hf : ∀ r, (f r).id = r.id ∧ (f r).detectors = r.detectors)
    (hstep : s.review f id = some s') : Ledger s' := by
  rw [RaceState.review] at hstep
  split at hstep
  · obtain rfl := Option.some.inj hstep
    refine ⟨h.derived, fun r' hr' ↦ ?_, h.inserted⟩
    obtain ⟨r, hr, rfl⟩ := List.mem_map.1 hr'
    split
    · intro n hn
      show n ∈ detectorNames (f r).detectors ↔ n ∈ s.writers (f r).id
      rw [(hf r).1, (hf r).2]
      exact h.rows r hr n hn
    · exact h.rows r hr
  · cases hstep

/-- **The ledger is kept** by every statement of a run that gets the row it read. -/
theorem ledger_step (hinv : RaceInv rs s) (h : Ledger s) {e : RaceEvent R}
    (hstep : RaceStep cf rs s e s') (hreads : ReadsItsRow rs s e) : Ledger s' := by
  cases e with
  | statement run now =>
    cases statement_spec cf hstep with
    | found hr hfinds hlock hpc => exact h.found hr hfinds hpc hreads
    | absent hnone hpc => exact h.absent hpc
    | refused hpc hr hfinds =>
      exact ⟨h.derived_update fun _ _ ↦ nofun, h.rows, h.inserted⟩
    | accepted hpc hnone hrival => exact h.accepted hinv hpc
    | updated hpc => exact h.updated hinv hpc
    | committed hpc => exact h.committed
  | confirm id now => exact h.review (f := BlockRule.confirmed now) (fun _ ↦ ⟨rfl, rfl⟩) hstep
  | reject id now => exact h.review (f := BlockRule.rejected now) (fun _ ↦ ⟨rfl, rfl⟩) hstep

/-- **A statement of a run leaves decisions alone**: the one that writes a row derived its defaults
from it. -/
theorem decided_statement (hinv : RaceInv rs s) (h : Ledger s)
    (hstep : s.statement cf rs now run = some s') {r : BlockRule} (hr : r ∈ s.rows)
    (hdecided : r.reviewStatus.decided = true) : ∃ r' ∈ s'.rows, r'.id = r.id ∧
      r'.isActive = r.isActive ∧ r'.reviewStatus = r.reviewStatus := by
  cases statement_spec cf hstep with
  | found hr' hfinds hlock hpc => exact ⟨r, hr, rfl, rfl, rfl⟩
  | absent hnone hpc => exact ⟨r, hr, rfl, rfl, rfl⟩
  | refused hpc hr' hfinds => exact ⟨r, hr, rfl, rfl, rfl⟩
  | accepted hpc hnone hrival => exact ⟨r, hr, rfl, rfl, rfl⟩
  | committed hpc => exact ⟨r, List.mem_append_left _ hr, rfl, rfl, rfl⟩
  | updated hpc =>
    obtain ⟨r₀, hr₀, hid₀, rfl⟩ := h.existing hinv hpc
    refine ⟨_, List.mem_map.2 ⟨r, hr, rfl⟩, ?_⟩
    split
    · rename_i hid
      obtain rfl := hinv.primary r hr r₀ hr₀ (hid.trans hid₀.symm)
      rw [update_defaults]
      obtain ⟨hstatus, hactive⟩ := refresh_of_decided cf (a := rs.write run) hdecided
      exact ⟨rfl, hactive, hstatus⟩
    · exact ⟨rfl, rfl, rfl⟩

omit [DecidableEq R] in
/-- At the start, the names of a row are those it starts with. -/
theorem Ready.ledger {rows : List BlockRule} (h : Ready rs rows) :
    Ledger (.start rows : RaceState R) := by
  refine ⟨fun _ _ _ ↦ nofun, fun r hr n _ ↦ ?_, fun _ hx ↦ (List.not_mem_nil hx).elim⟩
  have hsome : (rows.find? fun r' ↦ r'.id = r.id).isSome = true :=
    List.find?_isSome.2 ⟨r, hr, by simp⟩
  obtain ⟨r', hr'⟩ := Option.isSome_iff_exists.1 hsome
  have hid : r'.id = r.id := by simpa using List.find?_some hr'
  obtain rfl := h.primary r' (List.mem_of_find?_eq_some hr') r hr hid
  show _ ↔ n ∈ (rows.find? fun r ↦ r.id = r'.id).elim [] fun r ↦ detectorNames r.detectors
  rw [hr']
  rfl

/-- **When overlapping writes lose nothing.** From a table without duplicates, in every interleaving
of any number of runs and reviews in which no run that read no row gets one afterwards: no run
raises `IntegrityError`, a key has at most one auto row, every row names exactly the detectors it
started with and those of the runs that wrote it, and no run changes a decision. -/
theorem nothingLost_of_readsItsRow {rows : List BlockRule} (h : Ready rs rows)
    {es : List (RaceEvent R)}
    (hrun : Run (fun s e s' ↦ RaceStep cf rs s e s' ∧ ReadsItsRow rs s e) (.start rows) es s) :
    Run (fun s e s' ↦ RaceStep cf rs s e s' ∧ NothingLost s e s') (.start rows) es s := by
  refine (Run.and_imp (I := fun s ↦ RaceInv rs s ∧ Ledger s) ⟨h.raceInv, h.ledger⟩
    (fun hs hstep hreads ↦ ⟨raceInv_step hs.1 hstep, ledger_step hs.1 hs.2 hstep hreads⟩)
    (fun hs hstep hreads ↦ ?_) hrun).2
  obtain ⟨hinv, hledger⟩ := hs
  have hinv' := raceInv_step hinv hstep
  have hledger' := ledger_step hinv hledger hstep hreads
  refine ⟨hinv'.ne_integrityError, hinv'.length_filter_le_one, hledger'.rows,
    fun run now he r hr hdecided ↦ ?_⟩
  subst he
  exact decided_statement hinv hledger hstep hr hdecided

/-! ### A run alone -/

/-- A locking read that is not blocked. -/
theorem statement_read {found : Option BlockRule} {pc : Pc}
    (hget : s.lockingGet rs run = some found) (hpc : (s.pc run).onRead found = some pc) :
    s.statement cf rs now run = some (s.afterRead run found pc) := by
  rw [RaceState.statement]
  split
  · rename_i h
    rw [h] at hpc
    cases hpc
  · rename_i h
    rw [h] at hpc
    cases hpc
  · rename_i h
    rw [h] at hpc
    cases hpc
  · exact Option.bind_eq_some_iff.2 ⟨found, hget, Option.bind_eq_some_iff.2 ⟨pc, hpc, rfl⟩⟩

theorem statement_update {attempt : Attempt} {existing : Option BlockRule} {id : Uuid}
    (hpc : s.pc run = .update attempt existing id) :
    s.statement cf rs now run = some (s.afterUpdate cf rs run existing id) := by
  simp only [RaceState.statement, hpc]

theorem statement_commit (hpc : s.pc run = .commit) :
    s.statement cf rs now run = some (s.afterCommit run) := by
  simp only [RaceState.statement, hpc]

/-- Four statements in a row. -/
theorem run_four {e : RaceEvent R} {s₀ s₁ s₂ s₃ s₄ : RaceState R} (h₁ : RaceStep cf rs s₀ e s₁)
    (h₂ : RaceStep cf rs s₁ e s₂) (h₃ : RaceStep cf rs s₂ e s₃) (h₄ : RaceStep cf rs s₃ e s₄) :
    Run (RaceStep cf rs) s₀ (List.replicate 4 e) s₄ := by
  show Run (RaceStep cf rs) s₀ ([] ++ [e] ++ [e] ++ [e] ++ [e]) s₄
  exact .snoc (.snoc (.snoc (.snoc .nil h₁) h₂) h₃) h₄

/-- **A run that nobody interrupts is the write of one transaction**: it leaves the table
`updateOrCreate` leaves. -/
theorem alone_eq_updateOrCreate {rows : List BlockRule} (h : Ready rs rows) {env : Env}
    (hfresh : env.freshId = rs.freshId run .first) :
    ∃ s : RaceState R, Run (RaceStep cf rs) (.start rows)
        (List.replicate 4 (.statement run env.now)) s ∧ s.pc run = .done ∧
      s.rows = ((rs.write run).updateOrCreate cf env rows).2 := by
  rcases hfind : rows.find? (rs.write run).finds with - | r
  · -- it reads nothing, gets nothing, inserts and commits
    have hget : ∀ s : RaceState R, s.rows = rows → s.lockingGet rs run = some none := by
      intro s hs
      rw [RaceState.lockingGet, hs, hfind]
    have hnone : ∀ r ∈ rows, ¬(rs.write run).finds r = true := List.find?_eq_none.1 hfind
    set s₁ := (RaceState.start rows : RaceState R).afterRead run none (.get .first none)
    set s₂ := s₁.afterRead run none (.insert .first none) with hs₂
    set row := (rs.write run).create cf env.freshId env.now with hrow
    have hpc₁ : s₁.pc run = .get .first none := Function.update_self ..
    have hpc₂ : s₂.pc run = .insert .first none := Function.update_self ..
    have hinsert : s₂.statement cf rs env.now run = some (s₂.afterInsert rs run row) := by
      have hrival : ¬(s₂.inserted.any fun x ↦ (rs.write run).finds x.2) = true :=
        Bool.false_ne_true
      have hany : ¬s₂.rows.any (rs.write run).finds = true := by
        rw [List.any_eq_true]
        rintro ⟨r, hr, hfinds⟩
        exact hnone r hr hfinds
      simp only [RaceState.statement, hpc₂]
      rw [if_neg hrival, if_neg hany, insert_defaults, hrow, hfresh]
    have hread : (RaceState.start rows).statement cf rs env.now run = some s₁ :=
      statement_read (hget _ rfl) rfl
    have hreget : s₁.statement cf rs env.now run = some s₂ :=
      statement_read (hget s₁ rfl) (by rw [hpc₁]; rfl)
    refine ⟨(s₂.afterInsert rs run row).afterCommit run, run_four hread hreget hinsert
      (statement_commit (Function.update_self ..)), Function.update_self .., ?_⟩
    rw [AutoRuleWrite.updateOrCreate, hfind]
    show rows ++ (List.filter (fun x : R × BlockRule ↦ x.1 = run) [(run, row)]).map Prod.snd = _
    simp [hrow]
  · -- it reads the row, gets it again, updates it and commits
    have hr : r ∈ rows := List.mem_of_find?_eq_some hfind
    have hfinds : (rs.write run).finds r = true := List.find?_some hfind
    have hget : ∀ s : RaceState R, s.rows = rows →
        (s.lockedBy r.id = none ∨ s.lockedBy r.id = some run) →
          s.lockingGet rs run = some (some r) := by
      intro s hs hlock
      rw [RaceState.lockingGet, hs, hfind]
      exact if_pos hlock
    set s₁ := (RaceState.start rows : RaceState R).afterRead run (some r) (.get .first (some r))
    set s₂ := s₁.afterRead run (some r) (.update .first (some r) r.id)
    have hpc₁ : s₁.pc run = .get .first (some r) := Function.update_self ..
    have hlock₁ : s₁.lockedBy r.id = some run := by
      show Function.update (RaceState.start rows).lockedBy r.id (some run) r.id = some run
      rw [Function.update_self]
    have hread : (RaceState.start rows).statement cf rs env.now run = some s₁ :=
      statement_read (hget _ rfl (Or.inl rfl)) rfl
    have hreget : s₁.statement cf rs env.now run = some s₂ :=
      statement_read (hget s₁ rfl (Or.inr hlock₁)) (by rw [hpc₁]; rfl)
    have hupdate : s₂.statement cf rs env.now run =
        some (s₂.afterUpdate cf rs run (some r) r.id) := statement_update (Function.update_self ..)
    refine ⟨(s₂.afterUpdate cf rs run (some r) r.id).afterCommit run, run_four hread hreget hupdate
      (statement_commit (Function.update_self ..)), Function.update_self .., ?_⟩
    rw [AutoRuleWrite.updateOrCreate, hfind]
    show rows.map (fun r' ↦ if r'.id = r.id then (rs.write run).update
      ((rs.write run).defaults cf (some r)) r' else r') ++ [] = (rs.write run).refreshAll cf rows
    rw [List.append_nil, AutoRuleWrite.refreshAll]
    refine List.map_congr_left fun r' hr' ↦ ?_
    by_cases hfinds' : (rs.write run).finds r' = true
    · obtain rfl : r' = r := h.raceInv.eq_of_finds hr' hr hfinds' hfinds
      rw [if_pos rfl, if_pos hfinds', update_defaults]
    · rw [if_neg hfinds', if_neg]
      intro hid
      rw [h.primary r' hr' r hr hid] at hfinds'
      exact hfinds' hfinds

/-! #### Two runs on one subnet -/

/-- `detect_subnet_burst` and `detect_cloud_spray` reach the same subnet. -/
inductive Rival
  | burst
  | spray
  deriving DecidableEq

/-- What the two write. -/
def subnetRivals : Races Rival where
  write
    | .burst => subnetBurstWrite "192.0.2.0/24" 86400
    | .spray => cloudSprayWrite "192.0.2.0/24" "curl/8.5" 3 86400
  freshId
    | .burst, .first => 1
    | .burst, .retry => 2
    | .spray, .first => 3
    | .spray, .retry => 4
  freshId_inj {run run' attempt attempt'} h := by
    revert h
    cases run <;> cases run' <;> cases attempt <;> cases attempt' <;> decide
  comma_free run := by cases run <;> decide

theorem ready_nil : Ready subnetRivals [] :=
  ⟨fun _ h ↦ (List.not_mem_nil h).elim, fun _ ↦ Nat.zero_le 1, fun _ h ↦ (List.not_mem_nil h).elim⟩

/-- One run after the other. -/
def inTurn : List (RaceEvent Rival) :=
  List.replicate 4 (.statement .burst 0) ++ List.replicate 4 (.statement .spray 10)

/-- One run after the other: the row names both. -/
theorem nothingLost_in_turn : ∃ s,
    Run (fun s e s' ↦ RaceStep plainConf subnetRivals s e s' ∧ NothingLost s e s') (.start [])
      inTurn s ∧
    (s.rows.map BlockRule.detectors) = ["detect_cloud_spray,detect_subnet_burst"] := by
  have hrows : (inTurn.foldlM (fun s e ↦ if ReadsItsRow subnetRivals s e then
      s.step plainConf subnetRivals e else none) (.start [])).map (fun s ↦ s.rows.map
        BlockRule.detectors) = some ["detect_cloud_spray,detect_subnet_burst"] := by
    decide +kernel
  obtain ⟨s, hs, hdetectors⟩ := Option.map_eq_some_iff.1 hrows
  refine ⟨s, nothingLost_of_readsItsRow ready_nil ((Run.of_foldlM hs).imp fun hstep ↦ ?_),
    hdetectors⟩
  split at hstep
  · rename_i hreads
    exact ⟨hstep, hreads⟩
  · cases hstep

/-- `detect_subnet_burst` reads no row; then `detect_cloud_spray` inserts and commits one, and an
operator rejects it; then `detect_subnet_burst` gets it. -/
def lostRace : List (RaceEvent Rival) :=
  .statement .burst 0 :: List.replicate 4 (.statement .spray 10) ++
    [.reject 3 20, .statement .burst 30]

/-- The state a race leads to, when no statement of it has to wait. -/
def raceAfter (es : List (RaceEvent Rival)) : Option (RaceState Rival) :=
  es.foldlM (RaceState.step plainConf subnetRivals) (.start [])

/-- What a race leaves of each row: its primary key, its detectors, whether it is enforced, and its
review status. -/
def raceRows (s : RaceState Rival) : List (Uuid × String × Bool × ReviewStatus) :=
  s.rows.map fun r ↦ (r.id, r.detectors, r.isActive, r.reviewStatus)

/-- **A run that read nothing writes over a rival's row.** The last statement of the race is the
update: it takes the other detector's name off the row, and makes the rejected rule active again.
No error was raised, so the recovery from a lost race never ran. -/
theorem lost_race_overwrites : ∃ s s' : RaceState Rival,
    Run (RaceStep plainConf subnetRivals) (.start []) lostRace s ∧
    RaceStep plainConf subnetRivals s (.statement .burst 40) s' ∧
    raceRows s = [(3, "detect_cloud_spray", false, .rejected)] ∧
    raceRows s' = [(3, "detect_subnet_burst", true, .notApplicable)] ∧
    ¬NothingLost s (.statement .burst 40) s' := by
  have hbefore : (raceAfter lostRace).map raceRows =
      some [(3, "detect_cloud_spray", false, .rejected)] := by decide +kernel
  have hafter : ((raceAfter lostRace).bind fun s ↦ (s.step plainConf subnetRivals
      (.statement .burst 40)).map fun s' ↦ (raceRows s', s'.writers 3)) =
        some ([(3, "detect_subnet_burst", true, .notApplicable)],
          ["detect_subnet_burst", "detect_cloud_spray"]) := by decide +kernel
  obtain ⟨s, hs, hrows⟩ := Option.map_eq_some_iff.1 hbefore
  rw [hs, Option.bind_some] at hafter
  obtain ⟨s', hs', hout⟩ := Option.map_eq_some_iff.1 hafter
  obtain ⟨hrows', hwriters⟩ := Prod.mk.inj hout
  refine ⟨s, s', Run.of_foldlM hs, hs', hrows, hrows', fun hlost ↦ ?_⟩
  -- the row no longer names the run that inserted it
  have hmem : (3, "detect_subnet_burst", true, ReviewStatus.notApplicable) ∈ raceRows s' := by
    rw [hrows']
    exact List.mem_cons_self
  obtain ⟨r, hr, hfields⟩ := List.mem_map.1 hmem
  simp only [Prod.mk.injEq] at hfields
  obtain ⟨hid, hdetectors, -⟩ := hfields
  have hnames := hlost.detectors r hr "detect_cloud_spray" (by decide)
  rw [hid, hwriters, hdetectors] at hnames
  exact absurd (hnames.2 (by decide)) (by decide)

end DjangoWaf
