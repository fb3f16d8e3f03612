import DjangoWaf.Lib.Json
import DjangoWaf.Services.PatternValidation
import DjangoWaf.Services.RuleWrites
import Mathlib.Algebra.Order.BigOperators.Group.List
import Mathlib.Algebra.Order.Ring.Nat

/-!
# The threat feed, from the document on

`sync_feed` of `services/threat_feed.py`, on the document the endpoint returned. A document that the
JSON parser refuses ends the sync at once, whatever else is in it. Each entry of one that is read
goes through the checks in the order of the loop and is skipped, accepted, or the reason the loop
ends with an exception; an accepted entry is written in a transaction of its own, so that an
exception leaves the entries before it written and the sweep at the end undone.

**The interpreter and the framework.** The limits of the JSON parser, conversions of numbers,
`re.compile`, `parse_datetime` and what a column holds are the fields of `FeedRuntime`. A text has
no lone surrogates: the database stores no text with one.

**Ties.** The tables may hold several feed rows of a key, and `.first()` may answer any of those
that the order of the model leaves tied. Each look-up of a sync has a rank of its own (`Sync.tie`).

**The feed statistics.** `confidence`, `feed_reporters` and `feed_first_seen` are columns of both
tables that only the feed writes. `FeedTables` has them beside the rows, by primary key. The rows
themselves are written by `syncEntry`, and a sync that has read the feed and returns leaves in the
tables what `DjangoWaf.syncFeed` leaves there for the entries it accepted (`db_syncFeed`).
-/

namespace DjangoWaf

/-! ### What a feed can spell -/

/-- `_KNOWN_RULE_TYPES`. -/
def RuleType.known? (value : String) : Option RuleType :=
  if value = "ip" then some .ip
  else if value = "cidr" then some .cidr
  else if value = "ua" then some .ua
  else if value = "composite" then some .composite
  else none

/-- `_KNOWN_MATCH_TYPES`. -/
def MatchType.known? (value : String) : Option MatchType :=
  if value = "exact" then some .exact
  else if value = "regex" then some .regex
  else if value = "contains" then some .contains
  else if value = "cidr" then some .cidr
  else none

/-- `_KNOWN_ACTIONS`. -/
def RuleAction.known? (value : String) : Option RuleAction :=
  if value = "block" then some .block
  else if value = "challenge" then some .challenge
  else if value = "throttle" then some .throttle
  else if value = "log_only" then some .logOnly
  else none

/-- `value in known`, and what it is then; a value that cannot be hashed cannot be looked for. -/
def lookUp {α : Type*} (known? : String → Option α) : Json → Except Raised (Option α)
  | .str s => .ok (known? s)
  | .arr _ | .obj _ => .error .typeError
  | _ => .ok none

/-! ### The runtime -/

/-- What the interpreter, the framework and the database make of a value. -/
structure FeedRuntime where
  /-- `sys.get_int_max_str_digits()`; no limit where it is zero. -/
  maxStrDigits : ℕ
  /-- The nesting at which the parser meets the recursion limit. -/
  maxNesting : ℕ
  /-- `float` of an integer, which overflows. -/
  floatOfInt : ℤ → Option PyFloat
  /-- `float` of a text. -/
  floatOfText : String → Option PyFloat
  /-- `int` of a text. -/
  intOfText : String → Option ℤ
  /-- `str` of a value. -/
  pyStr : Json → String
  reCompile : String → Compiled
  /-- `parse_datetime`: a text that is spelled like an instant and is none raises. -/
  parseDatetime : String → Except Raised (Option ℚ)
  /-- What a `DecimalField(max_digits=3, decimal_places=2)` holds for a float. -/
  decimalColumn : PyFloat → Option ℚ
  /-- A text the database can store. -/
  textColumn : String → Bool
  /-- An instant the database can store. -/
  instantColumn : ℚ → Bool

/-- `response.json()` returns. -/
def FeedRuntime.reads (rt : FeedRuntime) (document : Json) : Bool :=
  document.loads rt.maxStrDigits rt.maxNesting

/-- A runtime that reads no number and no instant in a text, compiles every expression and stores
every text without a null character. -/
def FeedRuntime.plain : FeedRuntime where
  maxStrDigits := 4300
  maxNesting := 900
  floatOfInt n := if n.natAbs < 2 ^ 1024 - 2 ^ 970 then some (.finite n) else none
  floatOfText _ := none
  intOfText _ := none
  pyStr _ := ""
  reCompile _ := .ok
  parseDatetime _ := .ok none
  decimalColumn
    | .finite q => if -10 < q ∧ q < 10 then some ((q * 100 + 1 / 2).floor / 100) else none
    | _ => none
  textColumn s := s.toList.all fun c ↦ c.toNat ≠ 0
  instantColumn _ := true

/-- The feed statistics of a row. -/
structure FeedStats where
  confidence : ℚ
  feedReporters : ℕ
  feedFirstSeen : Option ℤ
  deriving DecidableEq

/-- The two rule tables with the statistics of their rows, by primary key. -/
structure FeedTables where
  db : Db
  blockStats : Uuid → FeedStats
  allowStats : Uuid → FeedStats

/-- The statistics of an entry's kind. -/
def FeedTables.statsOf (t : FeedTables) : FeedKind → Uuid → FeedStats
  | .allow => t.allowStats
  | .block => t.blockStats

/-- The statistics of a row of an entry's kind, replaced. -/
def FeedTables.setStats (t : FeedTables) (kind : FeedKind) (id : Uuid) (stats : FeedStats) :
    FeedTables :=
  match kind with
  | .allow => { t with allowStats := Function.update t.allowStats id stats }
  | .block => { t with blockStats := Function.update t.blockStats id stats }

namespace ThreatFeed

variable (rt : FeedRuntime)

/-! ### The checks of an entry -/

/-- `_validate_confidence`: nothing where `float` raised what the function catches. -/
def validateConfidence (fields : List (String × Json)) : Except Raised (Option PyFloat) :=
  match Json.field fields "confidence" (.float (.finite 0)) with
  | .null | .arr _ | .obj _ => .ok none
  | .bool b => .ok (some (.finite (if b then 1 else 0)))
  | .float x => .ok (some x)
  | .str s => .ok (rt.floatOfText s)
  | .int n =>
    match rt.floatOfInt n with
    | some x => .ok (some x)
    | none => .error .overflowError

/-- `_validate_pattern`. -/
def validatePattern (pattern : Json) (matchType : MatchType) : Except Raised Bool :=
  if !pattern.truthy then .ok false
  else
    match pattern with
    | .str s =>
      if maxPatternLength < s.length then .ok false
      else if matchType ≠ .regex then .ok true
      else (validateUaRegexPattern rt.reCompile s).map Option.isNone
    | .arr items =>
      if maxPatternLength < items.length then .ok false
      else if matchType ≠ .regex then .ok true
      else .error .typeError
    | .obj fields =>
      if maxPatternLength < (fields.map Prod.fst).dedup.length then .ok false
      else if matchType ≠ .regex then .ok true
      else .error .typeError
    | _ => .error .typeError

/-- `pattern[:80]` of a warning, which a dictionary does not have; a number never comes here. -/
def slice : Json → Except Raised Unit
  | .str _ | .arr _ => .ok ()
  | _ => .error .typeError

/-- The pattern as a part of a key of `seen_block_keys`, which has to be hashable; nothing but a
text, a list or a dictionary comes here. -/
def hashed : Json → Except Raised String
  | .str s => .ok s
  | _ => .error .typeError

/-- The expiry of an entry, from the feed or thirty days from now. -/
def expiresAt (now : ℚ) (fields : List (String × Json)) : Except Raised ℚ :=
  let feedExpires := Json.field fields "expires" .null
  if !feedExpires.truthy then .ok (now + 30 * 86400)
  else
    match feedExpires with
    | .str s => (rt.parseDatetime s).map fun instant? ↦ instant?.getD (now + 30 * 86400)
    | _ => .error .typeError

/-- An entry that passed every check, with what is left to store. -/
structure Accepted extends Criterion where
  kind : FeedKind
  action : RuleAction
  rdnsPattern : String
  expiresAt : ℚ
  confidence : PyFloat
  reporters : Option Json

/-- The checks of an allow entry. -/
def checkAllow (fields : List (String × Json)) (confidence : PyFloat) (ruleType : RuleType)
    (matchType : MatchType) (pattern : Json) (expiresAt : ℚ) :
    Except Raised (Option Accepted) := do
  let rdnsPattern := Json.field fields "rdns_pattern" (.str "")
  if !(Json.field fields "verify_rdns" (.bool false)).truthy || !rdnsPattern.truthy then
    slice pattern
    return none
  let pattern ← hashed pattern
  -- the column turns what is no text into one
  let rdnsPattern := match rdnsPattern with
    | .str s => s
    | value => rt.pyStr value
  return some { ruleType, matchType, pattern, kind := .allow, action := .block, rdnsPattern,
                expiresAt, confidence, reporters := Json.field? fields "reporters" }

/-- The checks of a block entry. -/
def checkBlock (fields : List (String × Json)) (confidence : PyFloat) (ruleType : RuleType)
    (matchType : MatchType) (pattern : Json) (expiresAt : ℚ) :
    Except Raised (Option Accepted) := do
  let some action ← lookUp RuleAction.known? (Json.field fields "action" (.str "block"))
    | return none
  let pattern ← hashed pattern
  return some { ruleType, matchType, pattern, kind := .block, action, rdnsPattern := "",
                expiresAt, confidence, reporters := Json.field? fields "reporters" }

/-- The checks from the rule type on, of an entry whose confidence passed. -/
def checkRule (now : ℚ) (fields : List (String × Json)) (confidence : PyFloat) :
    Except Raised (Option Accepted) := do
  let pattern := Json.field fields "pattern" (.str "")
  if !(Json.field fields "rule_type" (.str "")).truthy || !pattern.truthy then
    return none
  let some ruleType ← lookUp RuleType.known? (Json.field fields "rule_type" (.str ""))
    | return none
  let some matchType ← lookUp MatchType.known? (Json.field fields "match_type" (.str "exact"))
    | return none
  if !(← validatePattern rt pattern matchType) then
    slice pattern
    return none
  let expiresAt ← expiresAt rt now fields
  if (Json.field fields "kind" (.str "block")).eqText "allow" then
    checkAllow rt fields confidence ruleType matchType pattern expiresAt
  else
    checkBlock fields confidence ruleType matchType pattern expiresAt

/-- The checks of an entry, in the order of the loop: skipped, or accepted. -/
def checkEntry (threshold : PyFloat) (now : ℚ) : Json → Except Raised (Option Accepted)
  | .obj fields => do
    let some confidence ← validateConfidence rt fields
      | return none
    if confidence.lt threshold || (PyFloat.finite 1).lt confidence then
      return none
    checkRule rt now fields confidence
  | _ => .error .attributeError

/-! ### The write of an entry -/

/-- The range of a `PositiveIntegerField`. -/
def countFits (n : ℤ) : Option ℕ := if 0 ≤ n ∧ n ≤ 2147483647 then some n.toNat else none

/-- What a `PositiveIntegerField` holds for a value: `int` of it, in range. -/
def countColumn : Json → Option ℕ
  | .bool b => some b.toNat
  | .int n => countFits n
  | .float (.finite q) => countFits (if 0 ≤ q then q.floor else q.ceil)
  | .str s => (rt.intOfText s).bind countFits
  | _ => none

/-- The entry as `syncEntry` takes it. -/
def Accepted.toFeedEntry (a : Accepted) (freshId : Uuid) (tie : Uuid → ℕ) : FeedEntry :=
  { toCriterion := a.toCriterion, kind := a.kind, action := a.action, rdnsPattern := a.rdnsPattern,
    expiresAt := a.expiresAt, freshId, tie }

/-- The statistics an entry leaves on a row that has some. -/
def Accepted.stats (a : Accepted) (before : FeedStats) : Option FeedStats :=
  match rt.decimalColumn a.confidence, a.reporters with
  | some confidence, none => some { before with confidence }
  | some confidence, some value =>
    (countColumn rt value).map fun feedReporters ↦ { before with confidence, feedReporters }
  | none, _ => none

/-- The texts and the instant of an entry fit their columns. -/
def Accepted.fitsRow (a : Accepted) : Bool :=
  rt.textColumn a.pattern && rt.instantColumn a.expiresAt &&
    (a.kind = .block || (rt.textColumn a.rdnsPattern && a.rdnsPattern.length ≤ 255))

/-- The statistics of a row that is about to be created. -/
def newStats (now : ℚ) : FeedStats where
  confidence := 1
  feedReporters := 0
  feedFirstSeen := some (now / 86400).floor

/-- The primary key of the row an entry is written to, if there is one already. -/
def existing? (e : FeedEntry) (db : Db) : Option Uuid :=
  match e.kind with
  | .allow => (firstAllowRule e.tie (fun r ↦ e.hasKey r.source r.toCriterion) db).map AllowRule.id
  | .block => (firstBlockRule e.tie (fun r ↦ e.hasKey r.source r.toCriterion) db).map BlockRule.id

/-- The statistics an entry finds on its row. -/
def statsBefore (now : ℚ) (e : FeedEntry) (t : FeedTables) : FeedStats :=
  match existing? e t.db with
  | some id => t.statsOf e.kind id
  | none => newStats now

/-- The transaction of an accepted entry. -/
def writeEntry (quarantineAllowRules : Bool) (now : ℚ) (e : FeedEntry) (stats : FeedStats)
    (t : FeedTables) : FeedTables :=
  { t with db := (syncEntry quarantineAllowRules now e t.db).db }.setStats e.kind
    ((existing? e t.db).getD e.freshId) stats

/-! ### The loop and the sweep -/

/-- The variables of the loop; the two sets of seen keys are the keys of the entries accepted so
far, of either kind. -/
structure SyncState where
  tables : FeedTables
  seen : List FeedEntry
  created : ℕ
  updated : ℕ
  skipped : ℕ

/-- A supply of primary keys for the next row of a table, which are new there. -/
structure IdSupply (ρ : Type*) (id : ρ → Uuid) where
  next : List ρ → Uuid
  next_not_mem : ∀ rows, next rows ∉ rows.map id

/-- One more than all of them together. -/
def IdSupply.counting (ρ : Type*) (id : ρ → Uuid) : IdSupply ρ id where
  next rows := (rows.map id).sum + 1
  next_not_mem _ h := absurd (List.single_le_sum (fun _ _ ↦ Nat.zero_le _) _ h)
    (Nat.not_succ_le_self _)

/-- The settings and the instant of a sync, the supplies of primary keys, and how the database
breaks ties: by a rank of its own for each look-up of a table. -/
structure Sync where
  threshold : PyFloat
  quarantineAllowRules : Bool
  now : ℚ
  blockIds : IdSupply BlockRule BlockRule.id
  allowIds : IdSupply AllowRule AllowRule.id
  tie : FeedKind → ℕ → Uuid → ℕ

/-- The same sync, with other ties. -/
def Sync.withTie (sync : Sync) (tie : FeedKind → ℕ → Uuid → ℕ) : Sync := { sync with tie }

/-- The primary key of a row created next. -/
def Sync.freshId (sync : Sync) (db : Db) : FeedKind → Uuid
  | .allow => sync.allowIds.next db.allowRules
  | .block => sync.blockIds.next db.blockRules

/-- The look-ups of a table so far. -/
def SyncState.lookUps (s : SyncState) (kind : FeedKind) : ℕ := s.seen.countP fun e ↦ e.kind = kind

variable (sync : Sync)

/-- The accepted entry of the next turn. -/
def Accepted.entry (a : Accepted) (s : SyncState) : FeedEntry :=
  a.toFeedEntry (sync.freshId s.tables.db a.kind) (sync.tie a.kind (s.lookUps a.kind))

/-- The variables of the loop after a write. -/
def SyncState.write (s : SyncState) (e : FeedEntry) (stats : FeedStats) : SyncState where
  tables := writeEntry sync.quarantineAllowRules sync.now e stats s.tables
  seen := s.seen ++ [e]
  created := if (existing? e s.tables.db).isSome then s.created else s.created + 1
  updated := if (existing? e s.tables.db).isSome then s.updated + 1 else s.updated
  skipped := s.skipped

/-- One turn of the loop on an accepted entry. -/
def acceptEntry (a : Accepted) (s : SyncState) : Except Raised SyncState :=
  let e := a.entry sync s
  match a.fitsRow rt, a.stats rt (statsBefore sync.now e s.tables) with
  | true, some stats => .ok (s.write sync e stats)
  | _, _ => .error .fieldError

/-- One turn of the loop. -/
def syncStep (entry : Json) (s : SyncState) : Except Raised SyncState := do
  match ← checkEntry rt sync.threshold sync.now entry with
  | none => return { s with skipped := s.skipped + 1 }
  | some a => acceptEntry rt sync a s

/-- The loop: where it ended, and the exception it ended with. -/
def syncEntries : List Json → SyncState → SyncState × Option Raised
  | [], s => (s, none)
  | entry :: entries, s =>
    match syncStep rt sync entry s with
    | .error error => (s, some error)
    | .ok s' => syncEntries entries s'

/-- `feed_entries`, and what iterating over it yields. -/
def feedEntries : Json → Except Raised (List Json)
  | .arr items => .ok items
  | .obj fields =>
    match Json.field fields "rules" (.arr []) with
    | .arr items => .ok items
    | .str s => .ok (s.toList.map fun c ↦ .str (String.singleton c))
    | .obj rules => .ok ((rules.map Prod.fst).dedup.map Json.str)
    | _ => .error .typeError
  | _ => .error .attributeError

/-- The result of `sync_feed`. -/
structure SyncResult where
  created : ℕ
  updated : ℕ
  expired : ℕ
  skipped : ℕ
  deriving DecidableEq

/-- The loop starts with nothing counted. -/
def SyncState.start (tables : FeedTables) : SyncState := ⟨tables, [], 0, 0, 0⟩

/-- The two sweeps, and the rows they deactivated. -/
def sweep (seen : List FeedEntry) (db : Db) : Written :=
  (deactivateUnseenBlockRules seen db).andThen (deactivateUnseenAllowRules seen)

/-- `sync_feed` past the request, on what the parser has read: the tables it leaves, and what it
ends in. -/
def syncRead (document : Json) (tables : FeedTables) : FeedTables × Except Raised SyncResult :=
  match feedEntries document with
  | .error error => (tables, .error error)
  | .ok entries =>
    match syncEntries rt sync entries (SyncState.start tables) with
    | (s, some error) => (s.tables, .error error)
    | (s, none) =>
      ({ s.tables with db := (sweep s.seen s.tables.db).db },
        .ok ⟨s.created, s.updated, (sweep s.seen s.tables.db).signals, s.skipped⟩)

/-- `sync_feed`, on the document of the feed. An exception of the parser is logged, and the counters
are zero. -/
def syncFeed (document : Json) (tables : FeedTables) : FeedTables × Except Raised SyncResult :=
  if rt.reads document then syncRead rt sync document tables else (tables, .ok ⟨0, 0, 0, 0⟩)

/-! ### The rows of a sync -/

theorem writeEach_append (ws ws' : List (Db → Written)) (db : Db) :
    (writeEach (ws ++ ws') db).db = (writeEach ws' (writeEach ws db).db).db := by
  have hdb : ∀ (ws : List (Db → Written)) (x y : Written), x.db = y.db →
      (ws.foldl Written.andThen x).db = (ws.foldl Written.andThen y).db := by
    intro ws
    induction ws with
    | nil => exact fun x y h ↦ h
    | cons w ws ih => exact fun x y h ↦ ih _ _ (congrArg (fun db ↦ (w db).db) h)
  rw [writeEach, List.foldl_append]
  exact hdb ws' _ _ rfl

variable {rt} {sync}

/-- A turn of the loop writes the rows of the entries it has seen. -/
theorem db_syncStep {entry : Json} {s s' : SyncState} (h : syncStep rt sync entry s = .ok s') :
    ∃ es, s'.seen = s.seen ++ es ∧
      s'.tables.db =
        (writeEach (es.map (syncEntry sync.quarantineAllowRules sync.now)) s.tables.db).db := by
  rw [syncStep] at h
  rcases hcheck : checkEntry rt sync.threshold sync.now entry with error | a?
  · simp [hcheck, bind, Except.bind] at h
  rcases a? with - | a
  · simp only [hcheck, bind, Except.bind, pure, Except.pure, Except.ok.injEq] at h
    exact ⟨[], by rw [← h, List.append_nil], by rw [← h]; rfl⟩
  · rw [hcheck] at h
    change acceptEntry rt sync a s = .ok s' at h
    rw [acceptEntry] at h
    split at h
    · rw [Except.ok.injEq] at h
      rw [← h]
      refine ⟨[_], rfl, ?_⟩
      simp only [SyncState.write, writeEntry, FeedTables.setStats]
      split <;> rfl
    · cases h

theorem db_syncEntries (entries : List Json) (s : SyncState) :
    ∃ es, (syncEntries rt sync entries s).1.seen = s.seen ++ es ∧
      (syncEntries rt sync entries s).1.tables.db =
        (writeEach (es.map (syncEntry sync.quarantineAllowRules sync.now)) s.tables.db).db := by
  induction entries generalizing s with
  | nil => exact ⟨[], (List.append_nil _).symm, rfl⟩
  | cons entry entries ih =>
    rw [syncEntries]
    rcases hstep : syncStep rt sync entry s with error | s'
    · exact ⟨[], (List.append_nil _).symm, rfl⟩
    · obtain ⟨es, hseen, hdb⟩ := db_syncStep hstep
      obtain ⟨es', hseen', hdb'⟩ := ih s'
      refine ⟨es ++ es', ?_, ?_⟩
      · rw [← List.append_assoc, ← hseen]
        exact hseen'
      · rw [List.map_append, writeEach_append, ← hdb]
        exact hdb'

/-- **The rows of a sync that has read the feed and returns** are those `DjangoWaf.syncFeed` leaves,
for some accepted entries. -/
theorem db_syncFeed {document : Json} {tables : FeedTables} {result : SyncResult}
    (hread : rt.reads document = true)
    (h : (syncFeed rt sync document tables).2 = .ok result) :
    ∃ es, (syncFeed rt sync document tables).1.db =
      (DjangoWaf.syncFeed sync.quarantineAllowRules sync.now es tables.db).db := by
  rw [syncFeed, if_pos hread] at h ⊢
  rw [syncRead] at h ⊢
  rcases hentries : feedEntries document with error | entries
  · simp [hentries] at h
  have hrows : ∃ es, (syncEntries rt sync entries (SyncState.start tables)).1.seen = [] ++ es ∧
      (syncEntries rt sync entries (SyncState.start tables)).1.tables.db = (writeEach
        (es.map (syncEntry sync.quarantineAllowRules sync.now)) tables.db).db :=
    db_syncEntries entries _
  obtain ⟨es, hseen, hdb⟩ := hrows
  rcases hloop : syncEntries rt sync entries (SyncState.start tables) with ⟨s, - | error⟩
  · rw [hloop] at hseen hdb
    refine ⟨es, ?_⟩
    have hes : s.seen = es := hseen
    simp only [hloop]
    rw [hdb, hes]
    rfl
  · simp [hentries, hloop] at h

end ThreatFeed

end DjangoWaf
