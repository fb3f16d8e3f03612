import DjangoWaf.LogBatches

/-!
# What deduplication drops

The event id of a line is a hash of `ip|timestamp|method|path|status`, with the method and the path
cut to the sizes of their columns. **The user agent is not part of it**, nothing keeps a bar in a
field from reading as one between two fields, and what is cut off is not hashed. Two lines with one
text are one row, whatever else they say.

`drops_only_duplicates_iff`: for every log, however often it is read again, two valid lines that
differ are two rows exactly when no two such lines have one text, and nothing of the log raises.
Reading again never adds a row; that half needs no condition (`reingest_eq`).

That SHA-256 has no collisions is used for the texts of the log alone.
-/

namespace DjangoWaf

open PyBytes

variable (rt : LogRuntime)

/-- The text that names a line. -/
def LogLine.eventText (l : LogLine) : String :=
  sourceEventText l.ipAddress l.timestampStr (clip 16 l.method) (clip 2048 l.path) l.statusCode

/-- No two texts of the log have one hash. -/
def NoCollision (log : List UInt8) : Prop :=
  ∀ l ∈ validLines rt log, ∀ l' ∈ validLines rt log,
    rt.sha256 (utf8Encode l.eventText) = rt.sha256 (utf8Encode l'.eventText) →
      utf8Encode l.eventText = utf8Encode l'.eventText

/-- A run over a log whose offset the cache has lost. -/
def ingestFromStart (log : List UInt8) (s : AccessLogState) (now : ℚ) : AccessLogState :=
  (parseAccessLog rt now (some log) ⟨s.rows, none⟩).2

/-- The rows of a log that is read once, and then again and again. -/
def ingestedRows (log : List UInt8) (now : ℚ) (again : List ℚ) : List NginxLog :=
  (again.foldl (ingestFromStart rt log) (ingestFromStart rt log ⟨[], none⟩ now)).rows

/-- Two valid lines that differ in what they say are two rows, and reading again adds none. -/
structure DropsOnlyDuplicates (log : List UInt8) (now : ℚ) (again : List ℚ) : Prop where
  two_rows : ∀ l ∈ validLines rt log, ∀ l' ∈ validLines rt log, l ≠ l' →
    ∃ r ∈ ingestedRows rt log now again, ∃ r' ∈ ingestedRows rt log now again,
      r ≠ r' ∧ r = l.row rt now ∧ r' = l'.row rt now
  adds_none : ingestedRows rt log now again = ingestedRows rt log now []

/-! ### Event ids -/

theorem sourceEventId_row (now : ℚ) (l : LogLine) :
    (l.row rt now).sourceEventId =
      String.ofList (rt.sha256 (utf8Encode l.eventText)).hexdigest := by
  have htake : (rt.sha256 (utf8Encode l.eventText)).hexdigest.take 64 =
      (rt.sha256 (utf8Encode l.eventText)).hexdigest :=
    List.take_of_length_le (Digest.length_hexdigest _).le
  rw [← htake]
  rfl

/-- Lines with one id have one text. -/
theorem eventText_eq_of_sourceEventId {log : List UInt8} (h : NoCollision rt log) {l l' : LogLine}
    (hl : l ∈ validLines rt log) (hl' : l' ∈ validLines rt log) {now now' : ℚ}
    (hid : (l.row rt now).sourceEventId = (l'.row rt now').sourceEventId) :
    l.eventText = l'.eventText := by
  rw [sourceEventId_row, sourceEventId_row] at hid
  have hdigits := congrArg String.toList hid
  rw [String.toList_ofList, String.toList_ofList] at hdigits
  exact utf8Encode_injective (h l hl l' hl' (Digest.hexdigest_injective hdigits))

theorem sourceEventId_eq_of_eventText {l l' : LogLine} (h : l.eventText = l'.eventText)
    (now now' : ℚ) : (l.row rt now).sourceEventId = (l'.row rt now').sourceEventId := by
  rw [sourceEventId_row, sourceEventId_row, h]

/-! ### Reading again -/

/-- A run over the whole log, for any table. -/
theorem ingestFromStart_rows (log : List UInt8) (s : AccessLogState) (now : ℚ) :
    (ingestFromStart rt log s now).rows =
      if ReadRaises rt log then s.rows
      else bulkCreate s.rows ((validLines rt log).map (LogLine.row rt now)) := by
  rw [ingestFromStart]
  split
  · rename_i hraises
    have hstart : (if log.length < 0 then 0 else 0) = 0 := ite_self 0
    simp only [parseAccessLog, Option.getD_none, hstart, List.drop_zero, if_pos hraises]
  · rename_i hquiet
    rw [parseAccessLog_of_not_raises rt now s.rows none (Nat.zero_le _) hquiet]
    rfl

/-- **Reading a log again adds no row.** -/
theorem reingest_eq (log : List UInt8) (now : ℚ) (again : List ℚ) :
    ingestedRows rt log now again = ingestedRows rt log now [] := by
  have hstep : ∀ (s : AccessLogState) (t : ℚ),
      s.rows = (ingestFromStart rt log ⟨[], none⟩ now).rows →
        (ingestFromStart rt log s t).rows = s.rows := by
    intro s t hs
    rw [ingestFromStart_rows] at hs ⊢
    split
    · rfl
    · rename_i hquiet
      rw [if_neg hquiet] at hs
      -- the ids do not depend on the time of the run
      refine FirstWins.insertAll_of_forall_mem _ fun r hr ↦ ?_
      obtain ⟨l, hl, rfl⟩ := List.mem_map.1 hr
      rw [hs, bulkCreate, FirstWins.mem_map_insertAll]
      refine Or.inr (List.mem_map.2 ⟨l.row rt now, List.mem_map_of_mem hl, ?_⟩)
      exact sourceEventId_eq_of_eventText rt rfl now t
  have hrun : ∀ s : AccessLogState, s.rows = (ingestFromStart rt log ⟨[], none⟩ now).rows →
      (again.foldl (ingestFromStart rt log) s).rows = s.rows := by
    induction again with
    | nil => exact fun s _ ↦ rfl
    | cons t again ih =>
      intro s hs
      have hkept := hstep s t hs
      exact (ih (ingestFromStart rt log s t) (hkept.trans hs)).trans hkept
  exact hrun (ingestFromStart rt log ⟨[], none⟩ now) rfl

theorem ingestedRows_eq (log : List UInt8) (now : ℚ) (again : List ℚ) :
    ingestedRows rt log now again =
      if ReadRaises rt log then []
      else bulkCreate [] ((validLines rt log).map (LogLine.row rt now)) := by
  rw [reingest_eq]
  exact ingestFromStart_rows rt log ⟨[], none⟩ now

/-! ### Two rows for two lines -/

/-- **Deduplication drops only duplicates** exactly when the lines of the log that differ have
different texts, and nothing of the log raises. -/
theorem drops_only_duplicates_iff (log : List UInt8) (hcollision : NoCollision rt log) (now : ℚ)
    (again : List ℚ) :
    DropsOnlyDuplicates rt log now again ↔
      ∀ l ∈ validLines rt log, ∀ l' ∈ validLines rt log, l ≠ l' →
        ¬ReadRaises rt log ∧ l.eventText ≠ l'.eventText := by
  constructor
  · intro h l hl l' hl' hne
    obtain ⟨r, hr, r', hr', hrows, rfl, rfl⟩ := h.two_rows l hl l' hl' hne
    rw [ingestedRows_eq] at hr hr'
    by_cases hraises : ReadRaises rt log
    · rw [if_pos hraises] at hr
      exact absurd hr List.not_mem_nil
    · rw [if_neg hraises] at hr hr'
      refine ⟨hraises, fun htext ↦ hrows ?_⟩
      -- the table has each id once
      have hempty : ([].map NginxLog.sourceEventId).Nodup := List.nodup_nil
      have hnodup := FirstWins.map_insertAll_nodup NginxLog.sourceEventId hempty
        ((validLines rt log).map (LogLine.row rt now))
      exact List.inj_on_of_nodup_map hnodup hr hr' (sourceEventId_eq_of_eventText rt htext now now)
  · intro h
    refine ⟨fun l hl l' hl' hne ↦ ?_, reingest_eq rt log now again⟩
    obtain ⟨hquiet, htext⟩ := h l hl l' hl' hne
    have hmem : ∀ m ∈ validLines rt log, m.row rt now ∈ ingestedRows rt log now again := by
      intro m hm
      rw [ingestedRows_eq, if_neg hquiet]
      refine FirstWins.mem_insertAll_of_unique _ (List.mem_map_of_mem hm) List.not_mem_nil ?_
      intro s hs hid
      obtain ⟨m', hm', rfl⟩ := List.mem_map.1 hs
      by_cases hsame : m' = m
      · rw [hsame]
      · exact absurd (eventText_eq_of_sourceEventId rt hcollision hm' hm hid)
          (h m' hm' m hm hsame).2
    refine ⟨_, hmem l hl, _, hmem l' hl', fun hrows ↦ htext ?_, rfl, rfl⟩
    exact eventText_eq_of_sourceEventId rt hcollision hl hl' (congrArg NginxLog.sourceEventId hrows)

/-! ### Concrete logs -/

/-- Two requests in one second that differ in their paths. -/
def twoPaths : List UInt8 :=
  utf8Encode ("::1 - - [07/Apr/2026:10:00:00 +0000] \"GET /a HTTP/1.1\" 200 5\n" ++
    "::1 - - [07/Apr/2026:10:00:00 +0000] \"GET /b HTTP/1.1\" 200 5\n")

/-- Two requests in one second that differ in their user agents. -/
def twoAgents : List UInt8 :=
  utf8Encode ("::1 - - [07/Apr/2026:10:00:00 +0000] \"GET / HTTP/1.1\" 200 5 \"-\" \"a\"\n" ++
    "::1 - - [07/Apr/2026:10:00:00 +0000] \"GET / HTTP/1.1\" 200 5 \"-\" \"b\"\n")

theorem noCollision_twoPaths : NoCollision plainLogRuntime twoPaths := by
  unfold NoCollision
  decide +kernel

theorem drops_only_duplicates_two_paths :
    DropsOnlyDuplicates plainLogRuntime twoPaths 0 [600, 1200] :=
  (drops_only_duplicates_iff plainLogRuntime twoPaths noCollision_twoPaths 0 [600, 1200]).2
    (by decide +kernel)

/-- **A bot that changes its user agent in one second is one row.** -/
theorem drops_second_agent :
    (validLines plainLogRuntime twoAgents).map (fun l ↦ l.userAgent) = ["a", "b"] ∧
      (ingestedRows plainLogRuntime twoAgents 0 []).map (fun r ↦ r.userAgent) = ["a"] ∧
      ¬DropsOnlyDuplicates plainLogRuntime twoAgents 0 [] := by
  have hrows : (ingestedRows plainLogRuntime twoAgents 0 []).map (fun r ↦ r.userAgent) = ["a"] := by
    decide +kernel
  have hlines : (validLines plainLogRuntime twoAgents).map (fun l ↦ l.userAgent) = ["a", "b"] := by
    decide +kernel
  refine ⟨hlines, hrows, fun h ↦ ?_⟩
  obtain ⟨l, l', hvalid⟩ : ∃ l l', validLines plainLogRuntime twoAgents = [l, l'] := by
    have hlength := congrArg List.length hlines
    rw [List.length_map] at hlength
    exact List.length_eq_two.1 hlength
  rw [hvalid] at hlines
  have hl : l.userAgent = "a" := (List.cons.inj hlines).1
  have hl' : l'.userAgent = "b" := (List.cons.inj (List.cons.inj hlines).2).1
  have hne : l ≠ l' := by
    rintro rfl
    rw [hl] at hl'
    exact absurd hl' (by decide)
  obtain ⟨r, hr, r', hr', hdiffer, -⟩ := h.two_rows l (by simp [hvalid]) l' (by simp [hvalid]) hne
  -- the table has one row
  obtain ⟨r₀, hone⟩ : ∃ r₀, ingestedRows plainLogRuntime twoAgents 0 [] = [r₀] := by
    have hlength := congrArg List.length hrows
    rw [List.length_map] at hlength
    exact List.length_eq_one_iff.1 hlength
  rw [hone, List.mem_singleton] at hr hr'
  exact hdiffer (hr.trans hr'.symm)

end DjangoWaf
