import DjangoWaf.Lib.IpAddress
import DjangoWaf.Lib.Run
import DjangoWaf.Lib.Sha256
import DjangoWaf.Services.LogIngestion

/-!
# Ingesting a log as it grows

The task is run again and again over a log that is only appended to, and between two runs the cache
may lose the offset. Each run goes to the end of the file, **also when the last line there is only
partly written**: the part is parsed as a line, the offset moves past it, and the next run parses
the rest as a line of its own.

`incremental_eq_batch` says when that comes to the same as one run over the complete file. A run is
harmless (`Harmless`) when the line that the run before it saw cut makes no other rows in its two
parts than it makes whole, no line of the file raises, and every line that makes a row has a
timestamp that can be read (the row of one that has none carries the time of its run). Cutting
between two lines is always harmless, and so is cutting in front of the newline.

The rows agree as lists, so as sets.
-/

namespace DjangoWaf

open TextLines

/-- The log and what ingestion has made of it. -/
structure LogWorld where
  file : List UInt8
  state : AccessLogState

/-- One run of the task: what was appended to the log since the last one, whether the offset was
lost, and the time. -/
structure Visit where
  appended : List UInt8
  lost : Bool
  now : ℚ

/-- An empty log, an empty table and an empty cache. -/
def LogWorld.start : LogWorld := ⟨[], ⟨[], none⟩⟩

variable (rt : LogRuntime)

/-- The log grows, the cache may lose the offset, and the task runs. -/
def LogWorld.visit (w : LogWorld) (v : Visit) : LogWorld :=
  let file := w.file ++ v.appended
  let offset := if v.lost then none else w.state.offset
  ⟨file, (parseAccessLog rt v.now (some file) ⟨w.state.rows, offset⟩).2⟩

/-- The rows that one run over the complete file makes. -/
def LogWorld.batch (w : LogWorld) (now : ℚ) : List NginxLog :=
  (parseAccessLog rt now (some w.file) ⟨[], none⟩).2.rows

/-- The two parts of a line that a run saw cut make the rows that the line makes. After a lost
offset the line is read again as a whole, so its front must have made no row but the line's own. -/
def CleanCut (lost : Bool) (front back : List UInt8) : Prop :=
  if lost then pieceLines rt front <+: pieceLines rt (front ++ back)
  else pieceLines rt front ++ pieceLines rt back = pieceLines rt (front ++ back) ∧
    pieceOutcome rt back ≠ .raises

instance (lost : Bool) (front back : List UInt8) : Decidable (CleanCut rt lost front back) :=
  inferInstanceAs (Decidable (if lost then _ else _))

/-- What a run needs in order to catch up with its file. -/
structure Harmless (w : LogWorld) (v : Visit) : Prop where
  quiet : ¬ReadRaises rt (w.file ++ v.appended)
  dated : ∀ l ∈ validLines rt (w.file ++ v.appended), (rt.strptime l.timestampStr).isSome
  cut : CleanCut rt v.lost (lastPiece isNewlineByte w.file) (headPiece isNewlineByte v.appended)

/-- The table holds what one run over the file would make, whenever it ran, and the offset stands at
the end of the file. -/
structure CaughtUp (w : LogWorld) : Prop where
  quiet : ¬ReadRaises rt w.file
  rows : ∀ now, w.state.rows = bulkCreate [] ((validLines rt w.file).map (LogLine.row rt now))
  offset : w.state.offset.getD 0 = w.file.length

/-! ### One run -/

/-- A row with a timestamp of its own does not depend on the time of the run. -/
theorem row_eq_of_dated {l : LogLine} (h : (rt.strptime l.timestampStr).isSome) (now now' : ℚ) :
    l.row rt now = l.row rt now' := by
  obtain ⟨t, ht⟩ := Option.isSome_iff_exists.1 h
  have htime : ∀ now, parseNginxTimestamp rt now l.timestampStr = t := fun now ↦ by
    rw [parseNginxTimestamp, ht]
    rfl
  rw [LogLine.row, LogLine.row, htime, htime]

theorem map_row_eq_of_dated {ls : List LogLine}
    (h : ∀ l ∈ ls, (rt.strptime l.timestampStr).isSome) (now now' : ℚ) :
    ls.map (LogLine.row rt now) = ls.map (LogLine.row rt now') :=
  List.map_congr_left fun l hl ↦ row_eq_of_dated rt (h l hl) now now'

/-- **The lines of a file that grew**: those of the old file and those of what was appended, with
the line that was cut in the middle. -/
theorem validLines_append (file appended : List UInt8) : ∃ before later,
    validLines rt file = before ++ pieceLines rt (lastPiece isNewlineByte file) ∧
      validLines rt appended = pieceLines rt (headPiece isNewlineByte appended) ++ later ∧
      validLines rt (file ++ appended) = before ++
        pieceLines rt (lastPiece isNewlineByte file ++ headPiece isNewlineByte appended) ++
          later := by
  obtain ⟨before, later, hfile, happended, hboth⟩ := splitOnP_append isNewlineByte file appended
  refine ⟨before.flatMap (pieceLines rt), later.flatMap (pieceLines rt), ?_, ?_, ?_⟩
  · rw [validLines_eq, hfile, List.flatMap_append, List.flatMap_singleton]
  · rw [validLines_eq, happended, List.flatMap_cons]
  · rw [validLines_eq, hboth, List.flatMap_append, List.flatMap_cons, List.append_assoc]

/-- What was appended raises only where the whole file does, or in the rest of the line that was
cut. -/
theorem not_readRaises_appended {file appended : List UInt8}
    (hquiet : ¬ReadRaises rt (file ++ appended))
    (hcut : CleanCut rt false (lastPiece isNewlineByte file) (headPiece isNewlineByte appended)) :
    ¬ReadRaises rt appended := by
  obtain ⟨hlines, hback⟩ := hcut
  rintro (hraises | ⟨l, hl, htakes⟩)
  · obtain ⟨before, later, -, happended, hboth⟩ := splitOnP_append isNewlineByte file appended
    obtain ⟨piece, hpiece, hout⟩ := (raises_mem_lineOutcomes_iff rt).1 hraises
    rw [happended] at hpiece
    rcases List.mem_cons.1 hpiece with rfl | hpiece
    · exact hback hout
    · refine hquiet (Or.inl ((raises_mem_lineOutcomes_iff rt).2 ⟨piece, ?_, hout⟩))
      rw [hboth]
      exact List.mem_append_right _ (List.mem_cons_of_mem _ hpiece)
  · obtain ⟨before, later, -, happended, hboth⟩ := validLines_append rt file appended
    refine hquiet (Or.inr ⟨l, ?_, htakes⟩)
    rw [hboth, ← hlines, List.mem_append, List.mem_append, List.mem_append]
    rw [happended] at hl
    rcases List.mem_append.1 hl with hl | hl
    · exact Or.inl (Or.inr (Or.inr hl))
    · exact Or.inr hl

/-- What a run does when nothing raises. -/
theorem parseAccessLog_of_not_raises (now : ℚ) {bytes : List UInt8} (rows : List NginxLog)
    (offset : Option ℕ) (hle : offset.getD 0 ≤ bytes.length)
    (h : ¬ReadRaises rt (bytes.drop (offset.getD 0))) :
    (parseAccessLog rt now (some bytes) ⟨rows, offset⟩).2 =
      ⟨bulkCreate rows ((validLines rt (bytes.drop (offset.getD 0))).map (LogLine.row rt now)),
        some bytes.length⟩ := by
  have hstart : (if bytes.length < offset.getD 0 then 0 else offset.getD 0) = offset.getD 0 :=
    if_neg (by omega)
  simp only [parseAccessLog, hstart, if_neg h]

/-- **A harmless run catches up.** -/
theorem CaughtUp.visit {w : LogWorld} {v : Visit} (h : CaughtUp rt w) (hv : Harmless rt w v) :
    CaughtUp rt (w.visit rt v) := by
  obtain ⟨before, later, hfile, happended, hboth⟩ := validLines_append rt w.file v.appended
  have hcut := hv.cut
  -- the rows after the run, for its own time
  have hrows : (w.visit rt v).state = ⟨bulkCreate []
      ((validLines rt (w.file ++ v.appended)).map (LogLine.row rt v.now)),
      some (w.file ++ v.appended).length⟩ := by
    rcases hlost : v.lost with - | -
    · -- the run goes on where the last one stopped
      rw [hlost] at hcut
      have hdrop : (w.file ++ v.appended).drop (w.state.offset.getD 0) = v.appended := by
        rw [h.offset, List.drop_left]
      have hquiet : ¬ReadRaises rt ((w.file ++ v.appended).drop (w.state.offset.getD 0)) := by
        rw [hdrop]
        exact not_readRaises_appended rt hv.quiet hcut
      have hle : w.state.offset.getD 0 ≤ (w.file ++ v.appended).length := by
        rw [h.offset, List.length_append]
        omega
      have hstate := parseAccessLog_of_not_raises rt v.now w.state.rows w.state.offset hle hquiet
      rw [LogWorld.visit, hlost]
      refine hstate.trans ?_
      have hlines : validLines rt w.file ++ validLines rt v.appended =
          validLines rt (w.file ++ v.appended) := by
        rw [hfile, happended, hboth, ← hcut.1]
        simp only [List.append_assoc]
      rw [hdrop, h.rows v.now, ← hlines, List.map_append, bulkCreate, bulkCreate, bulkCreate,
        FirstWins.insertAll_append]
    · -- the run starts over
      rw [hlost] at hcut
      have hstate :=
        parseAccessLog_of_not_raises rt v.now w.state.rows none (Nat.zero_le _) hv.quiet
      rw [LogWorld.visit, hlost]
      refine hstate.trans ?_
      have hfront : validLines rt w.file <+: validLines rt (w.file ++ v.appended) := by
        rw [hfile, hboth, List.append_assoc, List.prefix_append_right_inj]
        exact List.IsPrefix.trans hcut (List.prefix_append _ later)
      rw [Option.getD_none, List.drop_zero, h.rows v.now, bulkCreate, bulkCreate,
        FirstWins.insertAll_of_prefix _ (hfront.map (LogLine.row rt v.now))]
      rfl
  refine ⟨hv.quiet, fun now ↦ ?_, ?_⟩
  · rw [hrows]
    show bulkCreate [] ((validLines rt (w.file ++ v.appended)).map (LogLine.row rt v.now)) =
      bulkCreate [] ((validLines rt (w.file ++ v.appended)).map (LogLine.row rt now))
    rw [map_row_eq_of_dated rt hv.dated v.now now]
  · rw [hrows]
    rfl

theorem caughtUp_start : CaughtUp rt LogWorld.start := by
  have hlines : lineOutcomes rt [] = [] := rfl
  refine ⟨?_, fun now ↦ rfl, rfl⟩
  rintro (h | ⟨l, hl, -⟩)
  · rw [LogWorld.start, hlines] at h
    exact absurd h List.not_mem_nil
  · exact absurd hl List.not_mem_nil

/-! ### Every run -/

/-- **Incremental ingestion is batch ingestion.** After every harmless run over a log that grows,
the rows are those that one run over the complete file makes, whenever that runs. -/
theorem incremental_eq_batch {w : LogWorld} {vs : List Visit}
    (hrun : Run (fun w v w' ↦ Harmless rt w v ∧ w' = w.visit rt v) LogWorld.start vs w) (now : ℚ) :
    w.state.rows = w.batch rt now := by
  have hcaught : CaughtUp rt w := by
    refine hrun.invariant (P := fun _ w ↦ CaughtUp rt w) (caughtUp_start rt) ?_
    rintro vs u u' v - hu ⟨hv, rfl⟩
    exact hu.visit rt hv
  rw [LogWorld.batch, parseAccessLog_batch rt now hcaught.quiet]
  exact hcaught.rows now

/-! ### Concrete logs -/

/-- The functions ingestion calls, with a format of timestamps that has one text. -/
def plainLogRuntime : LogRuntime where
  sha256 := Sha256.sha256
  validateIpv46Address s := (IpAddress.ipAddress s).isSome
  strptime s := if s = "07/Apr/2026:10:00:00 +0000" then some 1775556000 else none
  storedIp s := s
  takes _ := true

/-- A line of the log, up to the size of the response. -/
def lineFront : List UInt8 :=
  PyBytes.utf8Encode "192.0.2.1 - - [07/Apr/2026:10:00:00 +0000] \"GET / HTTP/1.1\" 200 5"

/-- The rest of it. -/
def lineBack : List UInt8 := PyBytes.utf8Encode " \"-\" \"curl/8\"\n"

/-- A line, a run, another line, and a run that has lost the offset. -/
theorem incremental_eq_batch_offset_lost :
    ((LogWorld.start.visit plainLogRuntime ⟨lineFront ++ lineBack, false, 0⟩).visit
        plainLogRuntime ⟨lineFront ++ lineBack, true, 600⟩).state.rows =
      ((LogWorld.start.visit plainLogRuntime ⟨lineFront ++ lineBack, false, 0⟩).visit
        plainLogRuntime ⟨lineFront ++ lineBack, true, 600⟩).batch plainLogRuntime 600 :=
  incremental_eq_batch plainLogRuntime
    (.snoc (.snoc .nil ⟨⟨by decide, by decide, by decide⟩, rfl⟩)
      ⟨⟨by decide, by decide, by decide⟩, rfl⟩) 600

/-- **A line that is seen half written loses its user agent**: the first run makes the row without
one, and the rest of the line makes none. -/
theorem incremental_ne_batch :
    (((LogWorld.start.visit plainLogRuntime ⟨lineFront, false, 0⟩).visit plainLogRuntime
        ⟨lineBack, false, 600⟩).state.rows.map fun r ↦ r.userAgent) = [""] ∧
      (((LogWorld.start.visit plainLogRuntime ⟨lineFront, false, 0⟩).visit plainLogRuntime
        ⟨lineBack, false, 600⟩).batch plainLogRuntime 600).map (fun r ↦ r.userAgent) =
        ["curl/8"] := by
  decide

end DjangoWaf
