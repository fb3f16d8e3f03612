import DjangoWaf.Forms.Replay
import DjangoWaf.Lib.FirstWins
import DjangoWaf.Lib.TextLines
import DjangoWaf.Services.Detectors

/-!
# Access-log ingestion

`parse_access_log` of `tasks.py`: the nginx access log is read from a cached offset to its end, each
line that the pattern matches becomes a `RequestLog` row with an event id, and rows whose id is in
the table already are dropped.

* **The pattern is deterministic.** A run of non-blanks is followed by a blank in it, or by the end
  of what is captured, so no part of it can stop earlier and the matcher never goes back
  (`logRe`). The referer and the user agent are optional together.
* **The offset is the size of the file** when its end was reached, wherever that is. A file that
  got shorter is read from its start, and so is one whose offset the cache has lost.
* `int` raises beyond 4300 digits and the database raises for a text it does not take; neither is an
  `OSError`, so the call ends there, with no row and no offset written. A file that cannot be opened
  is one that is not there.
-/

namespace DjangoWaf

open PyBytes

/-! ### The pattern of a line -/

namespace LogPattern

/-- `s.strip()`. -/
def strip (s : List Char) : List Char :=
  (s.dropWhile PyStr.isSpaceChar).rdropWhile PyStr.isSpaceChar

/-- `\S+`: the run, and what follows it. -/
def word (s : List Char) : Option (List Char × List Char) :=
  let w := s.takeWhile fun c ↦ !PyStr.isSpaceChar c
  if w.isEmpty then none else some (w, s.drop w.length)

/-- `\s+`. -/
def blanks (s : List Char) : Option (List Char) :=
  (PyStr.oneOf PyStr.isSpaceChar s).map (List.dropWhile PyStr.isSpaceChar)

/-- One character. -/
def char (c : Char) (s : List Char) : Option (List Char) := PyStr.oneOf (· == c) s

/-- Anything but the character, and then the character. -/
def upTo (c : Char) (s : List Char) : Option (List Char × List Char) := PyStr.splitOnce [c] s

end LogPattern

open LogPattern

/-- The groups of `_LOG_RE`. -/
structure LogMatch where
  ipAddress : List Char
  timestamp : List Char
  method : List Char
  path : List Char
  status : List Char
  userAgent : Option (List Char)

/-- The optional part: `\s+"[^"]*"\s+"([^"]*)"`. -/
def refererAndAgent (s : List Char) : Option (List Char) := do
  let s ← blanks s
  let s ← char '"' s
  let (_, s) ← upTo '"' s
  let s ← blanks s
  let s ← char '"' s
  let (userAgent, _) ← upTo '"' s
  return userAgent

/-- `_LOG_RE.match(s)`. -/
def logRe (s : List Char) : Option LogMatch := do
  let (ipAddress, s) ← word s
  let s ← blanks s
  let s ← char '-' s
  let s ← blanks s
  let s ← char '-' s
  let s ← blanks s
  let s ← char '[' s
  let (timestamp, s) ← upTo ']' s
  if timestamp.isEmpty then none
  let s ← blanks s
  let s ← char '"' s
  let (method, s) ← word s
  let s ← blanks s
  let (path, s) ← word s
  let s ← blanks s
  -- `\S+"` and a blank: the quote is the last of its run
  let (protocol, s) ← word s
  if protocol.length < 2 || protocol.getLast? != some '"' then none
  let s ← blanks s
  let (status, s) ← word s
  if !status.all fun c ↦ (decimalValue c).isSome then none
  let s ← blanks s
  let (_, s) ← word s
  return { ipAddress, timestamp, method, path, status, userAgent := refererAndAgent s }

/-! ### Lines and rows -/

/-- What a line that becomes a row says. -/
structure LogLine where
  ipAddress : String
  timestampStr : String
  method : String
  path : String
  statusCode : ℤ
  userAgent : String
  deriving DecidableEq

/-- What becomes of a line. -/
inductive LineOutcome
  /-- It is counted and left out. -/
  | skipped
  | line (l : LogLine)
  /-- `ValueError` from `int`, which nothing catches. -/
  | raises
  deriving DecidableEq

/-- The line of an outcome. -/
def LineOutcome.line? : LineOutcome → Option LogLine
  | .line l => some l
  | _ => none

/-- An outcome that has an effect. -/
def LineOutcome.counts : LineOutcome → Bool
  | .skipped => false
  | _ => true

/-- The functions ingestion calls, and the `RequestLog` table. -/
structure LogRuntime where
  /-- `hashlib.sha256`. -/
  sha256 : List UInt8 → Digest
  /-- `validate_ipv46_address` accepts the text. -/
  validateIpv46Address : String → Bool
  /-- `datetime.strptime` with nginx's format; `none` for `ValueError`. -/
  strptime : String → Option ℚ
  /-- What `ip_address` holds after an address was written to it. -/
  storedIp : String → String
  /-- The database takes the row of the line: PostgreSQL, for one, refuses a NUL character. -/
  takes : LogLine → Bool

/-- `s[:n]`. -/
def clip (n : ℕ) (s : String) : String := String.ofList (s.toList.take n)

/-- `_MAX_SMALLINT`. -/
def maxSmallint : ℤ := 32767

variable (rt : LogRuntime)

/-- The body of the loop over the lines. -/
def readLogLine (line : List Char) : LineOutcome :=
  match logRe (strip line) with
  | none => .skipped
  | some m =>
    match pyIntOfText m.status with
    | none => .raises
    | some statusCode =>
      if !rt.validateIpv46Address (String.ofList m.ipAddress) then .skipped
      else if maxSmallint < statusCode then .skipped
      else
        .line {
          ipAddress := String.ofList m.ipAddress
          timestampStr := String.ofList m.timestamp
          method := String.ofList m.method
          path := String.ofList m.path
          statusCode
          userAgent := String.ofList (m.userAgent.getD []) }

/-- `_infer_verdict_from_status`. -/
def inferVerdictFromStatus (statusCode : ℤ) (path : String) : Verdict :=
  if statusCode = 403 then .blocked
  else if statusCode = 429 then .throttled
  else if statusCode = 302 && PyStr.contains path "/waf/challenge" then .challenged
  else .allowed

/-- `_parse_nginx_timestamp`. -/
def parseNginxTimestamp (now : ℚ) (timestampStr : String) : ℚ :=
  (rt.strptime timestampStr).getD now

/-- The text `_build_source_event_id` hashes. -/
def sourceEventText (ipAddress timestampStr method path : String) (statusCode : ℤ) : String :=
  ipAddress ++ "|" ++ timestampStr ++ "|" ++ method ++ "|" ++ path ++ "|" ++
    String.ofList (intText statusCode)

/-- `_build_source_event_id`. -/
def buildSourceEventId (ipAddress timestampStr method path : String) (statusCode : ℤ) : String :=
  String.ofList ((rt.sha256
    (utf8Encode (sourceEventText ipAddress timestampStr method path statusCode))).hexdigest.take 64)

/-- `RequestLog`, with the columns the detectors do not read. -/
structure NginxLog extends RequestLog where
  method : String
  sourceEventId : String

/-- The row of a line. -/
def LogLine.row (now : ℚ) (l : LogLine) : NginxLog where
  timestamp := parseNginxTimestamp rt now l.timestampStr
  ipAddress := rt.storedIp l.ipAddress
  userAgent := clip 1024 l.userAgent
  path := clip 2048 l.path
  verdict := inferVerdictFromStatus l.statusCode (clip 2048 l.path)
  responseCode := some l.statusCode.toNat
  referer := ""
  source := .nginxLog
  method := clip 16 l.method
  sourceEventId := buildSourceEventId rt l.ipAddress l.timestampStr (clip 16 l.method)
    (clip 2048 l.path) l.statusCode

/-! ### The task -/

/-- The `nginx_log` rows, and the cached offset. -/
structure AccessLogState where
  rows : List NginxLog
  offset : Option ℕ

/-- What the task returns. -/
structure ParseResult where
  parsedLines : ℕ
  createdRecords : ℕ
  skippedLines : ℕ
  deriving DecidableEq, Repr

/-- `bulk_create(…, ignore_conflicts=True)` under the unique constraint on the event id. -/
def bulkCreate (rows batch : List NginxLog) : List NginxLog :=
  FirstWins.insertAll NginxLog.sourceEventId rows batch

/-- What becomes of the lines of some bytes. -/
def lineOutcomes (bytes : List UInt8) : List LineOutcome :=
  (TextLines.fileLines bytes).map (readLogLine rt)

/-- The lines that become rows. -/
def validLines (bytes : List UInt8) : List LogLine :=
  (lineOutcomes rt bytes).filterMap LineOutcome.line?

/-- Reading the bytes, or writing their rows, raises. -/
def ReadRaises (bytes : List UInt8) : Prop :=
  LineOutcome.raises ∈ lineOutcomes rt bytes ∨ ∃ l ∈ validLines rt bytes, rt.takes l = false

instance : DecidablePred (ReadRaises rt) := fun _ ↦ inferInstanceAs (Decidable (_ ∨ _))

/-- `parse_access_log` at an instant, for a log that has these bytes, or that is not there. The
result is `none` when the task raises. -/
def parseAccessLog (now : ℚ) (log : Option (List UInt8)) (s : AccessLogState) :
    Option ParseResult × AccessLogState :=
  match log with
  | none => (some ⟨0, 0, 0⟩, s)
  | some bytes =>
    let storedOffset := s.offset.getD 0
    let start := if bytes.length < storedOffset then 0 else storedOffset
    let tail := bytes.drop start
    if ReadRaises rt tail then (none, s)
    else
      let records := (validLines rt tail).map (LogLine.row rt now)
      (some ⟨(lineOutcomes rt tail).length, records.length,
          (lineOutcomes rt tail).count .skipped⟩,
        ⟨bulkCreate s.rows records, some bytes.length⟩)

/-! ### What a run reads -/

theorem readLogLine_nil : readLogLine rt [] = .skipped := rfl

/-- What becomes of a piece of the file between two newline bytes. -/
def pieceOutcome (piece : List UInt8) : LineOutcome :=
  readLogLine rt (Utf8.decodeReplace piece)

/-- The row that a piece makes, if it makes one. -/
def pieceLines (piece : List UInt8) : List LogLine := (pieceOutcome rt piece).line?.toList

/-- **The outcomes of a file are those of its pieces**, but for lines that are skipped. -/
theorem filter_lineOutcomes (bytes : List UInt8) :
    (lineOutcomes rt bytes).filter LineOutcome.counts =
      ((bytes.splitOnP TextLines.isNewlineByte).map (pieceOutcome rt)).filter
        LineOutcome.counts := by
  have hblank : (LineOutcome.counts ∘ readLogLine rt) [] = false := by
    rw [Function.comp_apply, readLogLine_nil]
    rfl
  have hpieces : pieceOutcome rt = readLogLine rt ∘ Utf8.decodeReplace := by
    funext piece
    rw [pieceOutcome, Function.comp_apply]
  rw [lineOutcomes, List.filter_map, TextLines.filter_fileLines hblank, hpieces, ← List.map_map,
    ← List.filter_map]

/-- Skipped lines have no part in the rows. -/
theorem filterMap_line?_filter (outcomes : List LineOutcome) :
    (outcomes.filter LineOutcome.counts).filterMap LineOutcome.line? =
      outcomes.filterMap LineOutcome.line? := by
  rw [List.filterMap_filter]
  refine List.filterMap_congr fun o _ ↦ ?_
  rcases o with - | l | -
  · rfl
  · rfl
  · rfl

theorem validLines_eq (bytes : List UInt8) :
    validLines rt bytes =
      (bytes.splitOnP TextLines.isNewlineByte).flatMap (pieceLines rt) := by
  rw [validLines, ← filterMap_line?_filter, filter_lineOutcomes, filterMap_line?_filter,
    List.filterMap_map, List.filterMap_eq_flatMap_toList]
  rfl

theorem raises_mem_lineOutcomes_iff {bytes : List UInt8} :
    .raises ∈ lineOutcomes rt bytes ↔
      ∃ piece ∈ bytes.splitOnP TextLines.isNewlineByte, pieceOutcome rt piece = .raises := by
  have hfilter : ∀ outcomes : List LineOutcome,
      .raises ∈ outcomes.filter LineOutcome.counts ↔ .raises ∈ outcomes := fun outcomes ↦ by
    rw [List.mem_filter]
    exact and_iff_left rfl
  rw [← hfilter, filter_lineOutcomes, hfilter, List.mem_map]

/-- A run that reads the whole file into an empty table. -/
theorem parseAccessLog_batch (now : ℚ) {bytes : List UInt8} (h : ¬ReadRaises rt bytes) :
    (parseAccessLog rt now (some bytes) ⟨[], none⟩).2.rows =
      bulkCreate [] ((validLines rt bytes).map (LogLine.row rt now)) := by
  have hstart : (if bytes.length < 0 then 0 else 0) = 0 := ite_self 0
  simp only [parseAccessLog, Option.getD_none, hstart, List.drop_zero, if_neg h]

end DjangoWaf
