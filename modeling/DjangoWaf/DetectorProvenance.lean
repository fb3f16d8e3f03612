import DjangoWaf.Services.AutoRules

/-!
# Who found a rule

The `detectors` column of an auto rule names every detector that has written it. It is a text, split
and joined again by `_merge_detector_names` on every write, and two readers split it: the promotion
of an unsolved challenge keeps every piece, the outcome report drops the empty ones.

* The column **keeps a set**: after any run of merges it is the names of the run, each once and in
  order, with a comma between them (`merged_names_list_the_sequence`). Order, repetition and empty
  names leave no trace.
* No names at all are written as the empty text, which splits into **one empty piece**. Only the
  reader that drops it sees the empty set.
-/

namespace DjangoWaf

/-- `_split_detector_names`. -/
def splitDetectorNames (detectorsField : String) : List String :=
  (detectorNames detectorsField).filter fun name ↦ name ≠ ""

/-- The column after a run of merges, from a row that has none. -/
def mergedNames (names : List String) : String := names.foldl mergeDetectorNames ""

/-- The names of a sequence, each once and in order. -/
structure ListsNames (l names : List String) : Prop where
  nodup : l.Nodup
  sorted : l.Pairwise fun a b ↦ a.toList ≤ b.toList
  mem_iff : ∀ n, n ∈ l ↔ n ∈ names

/-! ### The set behind the column -/

/-- The set a sequence of names leaves. -/
def nameSet (names : List String) : Finset (List Char) :=
  (names.map String.toList).toFinset.erase []

theorem mem_nameSet_iff {names : List String} {n : String} :
    n.toList ∈ nameSet names ↔ n ∈ names ∧ n ≠ "" := by
  rw [nameSet, Finset.mem_erase, List.mem_toFinset, ne_eq, String.toList_eq_nil_iff, and_comm,
    List.mem_map_of_injective fun _ _ ↦ String.toList_inj.1]

theorem nameSet_congr {names names' : List String} (h : ∀ n, n ≠ "" → (n ∈ names ↔ n ∈ names')) :
    nameSet names = nameSet names' := by
  ext p
  obtain ⟨n, rfl⟩ : ∃ n : String, n.toList = p := ⟨String.ofList p, String.toList_ofList⟩
  rw [mem_nameSet_iff, mem_nameSet_iff]
  exact and_congr_left fun hn ↦ h n hn

theorem toList_foldl_mergeDetectorNames (v : String) (names : List String) :
    (names.foldl mergeDetectorNames v).toList =
      (names.map String.toList).foldl (JoinedSet.add ',') v.toList := by
  induction names generalizing v with
  | nil => rfl
  | cons n names ih =>
    rw [List.foldl_cons, ih, toList_mergeDetectorNames, List.map_cons, List.foldl_cons]

/-- **A run of merges keeps its set.** -/
theorem keeps_mergedNames {names : List String} (h : ∀ n ∈ names, ',' ∉ n.toList) :
    JoinedSet.Keeps ',' (mergedNames names).toList (nameSet names) := by
  have hwords : ∀ d ∈ names.map String.toList, ',' ∉ d := by
    intro d hd
    obtain ⟨n, hn, rfl⟩ := List.mem_map.1 hd
    exact h n hn
  have hrun := (JoinedSet.Keeps.empty ',').foldl hwords
  rw [Finset.empty_union] at hrun
  rw [mergedNames, toList_foldl_mergeDetectorNames]
  exact hrun

/-- The words of a set, as names. -/
theorem ListsNames.of_sort {names : List String} (h : ∀ n ∈ names, n ≠ "") :
    ListsNames (((nameSet names).sort (· ≤ ·)).map String.ofList) names where
  nodup := (Finset.sort_nodup _ _).map fun _ _ ↦ String.ofList_inj.1
  sorted := by
    rw [List.pairwise_map]
    simp only [String.toList_ofList]
    exact Finset.pairwise_sort _ _
  mem_iff n := by
    have hn : n = String.ofList n.toList := String.ofList_toList.symm
    rw [hn, List.mem_map_of_injective fun _ _ ↦ String.ofList_inj.1, Finset.mem_sort, ← hn,
      mem_nameSet_iff]
    exact and_iff_left_of_imp (h n)

/-! ### The two readers -/

theorem splitDetectorNames_eq (v : String) :
    splitDetectorNames v = (JoinedSet.pieces ',' v.toList).map String.ofList := by
  rw [splitDetectorNames, detectorNames, PyStr.splitOn_eq, List.filter_map, JoinedSet.pieces]
  refine congrArg _ (List.filter_congr fun p _ ↦ decide_eq_decide.2 (not_congr ?_))
  rw [← String.toList_eq_nil_iff, String.toList_ofList]

/-- The report reads the names of the run. -/
theorem splitDetectorNames_mergedNames {names : List String} (hne : ∀ n ∈ names, n ≠ "")
    (hcomma : ∀ n ∈ names, ',' ∉ n.toList) :
    ListsNames (splitDetectorNames (mergedNames names)) names := by
  rw [splitDetectorNames_eq, (keeps_mergedNames hcomma).pieces_eq]
  exact ListsNames.of_sort hne

/-- The promotion does too, when there are any. -/
theorem detectorNames_mergedNames {names : List String} (hnames : names ≠ [])
    (hne : ∀ n ∈ names, n ≠ "") (hcomma : ∀ n ∈ names, ',' ∉ n.toList) :
    ListsNames (detectorNames (mergedNames names)) names := by
  have hset : (nameSet names).Nonempty := by
    obtain ⟨n, hn⟩ := List.exists_mem_of_ne_nil names hnames
    exact ⟨n.toList, mem_nameSet_iff.2 ⟨hn, hne n hn⟩⟩
  rw [detectorNames, PyStr.splitOn_eq, (keeps_mergedNames hcomma).splitOn_eq hset]
  exact ListsNames.of_sort hne

/-- **Order, repetition and empty names leave no trace.** -/
theorem mergedNames_congr {names names' : List String} (hcomma : ∀ n ∈ names, ',' ∉ n.toList)
    (h : ∀ n, n ≠ "" → (n ∈ names ↔ n ∈ names')) : mergedNames names = mergedNames names' := by
  have hcomma' : ∀ n ∈ names', ',' ∉ n.toList := by
    intro n hn
    rcases eq_or_ne n "" with rfl | hne
    · exact List.not_mem_nil
    · exact hcomma n ((h n hne).2 hn)
  have hkeeps := keeps_mergedNames hcomma
  rw [nameSet_congr h] at hkeeps
  exact String.toList_inj.1 (hkeeps.unique (keeps_mergedNames hcomma'))

theorem mergeDetectorNames_empty {names : List String} (hcomma : ∀ n ∈ names, ',' ∉ n.toList) :
    mergeDetectorNames (mergedNames names) "" = mergedNames names := by
  rw [← String.toList_inj, toList_mergeDetectorNames]
  exact (keeps_mergedNames hcomma).add_nil

/-- **The column is a faithful set.** Both readers find the names of a run, each once and in order,
unless there are none: then the column is empty, and only the report finds no name in it. -/
theorem merged_names_list_the_sequence {names : List String}
    (h : ∀ n ∈ names, n ≠ "" ∧ ',' ∉ n.toList) :
    (names ≠ [] → ListsNames (detectorNames (mergedNames names)) names) ∧
    (names = [] → mergedNames names = "" ∧ detectorNames (mergedNames names) = [""]) ∧
    ListsNames (splitDetectorNames (mergedNames names)) names ∧
    (∀ names', (∀ n, n ∈ names ↔ n ∈ names' ∧ n ≠ "") → mergedNames names' = mergedNames names) ∧
    mergeDetectorNames (mergedNames names) "" = mergedNames names := by
  have hne : ∀ n ∈ names, n ≠ "" := fun n hn ↦ (h n hn).1
  have hcomma : ∀ n ∈ names, ',' ∉ n.toList := fun n hn ↦ (h n hn).2
  refine ⟨fun hnames ↦ detectorNames_mergedNames hnames hne hcomma, ?_,
    splitDetectorNames_mergedNames hne hcomma, ?_, mergeDetectorNames_empty hcomma⟩
  · rintro rfl
    exact ⟨rfl, by decide⟩
  · intro names' hsame
    exact (mergedNames_congr hcomma fun n hn ↦ (hsame n).trans (and_iff_left hn)).symm

/-- Two detectors, one of them twice, in either order. -/
theorem merged_names_list_the_sequence_two :
    mergedNames ["detect_ua_rotation", "detect_cloud_spray", "", "detect_ua_rotation"] =
      mergedNames ["detect_cloud_spray", "detect_ua_rotation"] ∧
    ListsNames (detectorNames (mergedNames ["detect_cloud_spray", "detect_ua_rotation"]))
      ["detect_cloud_spray", "detect_ua_rotation"] := by
  obtain ⟨hpieces, -, -, hsame, -⟩ :=
    merged_names_list_the_sequence
      (show ∀ n ∈ ["detect_cloud_spray", "detect_ua_rotation"], n ≠ "" ∧ ',' ∉ n.toList by decide)
  refine ⟨hsame _ fun n ↦ ?_, hpieces (by decide)⟩
  simp only [List.mem_cons, List.not_mem_nil, or_false]
  constructor
  · rintro (rfl | rfl)
    · exact ⟨.inr (.inl rfl), by decide⟩
    · exact ⟨.inl rfl, by decide⟩
  · rintro ⟨rfl | rfl | rfl | rfl, hn⟩
    · exact .inr rfl
    · exact .inl rfl
    · exact absurd rfl hn
    · exact .inr rfl

/-- No names at all: the text of the empty set splits into one piece. -/
theorem empty_merge_lists_a_piece : ¬ListsNames (detectorNames (mergedNames [])) [] :=
  fun h ↦ List.not_mem_nil ((h.mem_iff "").1 (by decide))

/-! ### The column of a row -/

variable (cf : Conf)

/-- A row that a run of writes refreshes has their names merged into its column. -/
theorem detectors_foldl_refresh (writes : List AutoRuleWrite) (r : BlockRule) :
    (writes.foldl (fun r a ↦ a.refresh cf r) r).detectors =
      (writes.map AutoRuleWrite.detectorName).foldl mergeDetectorNames r.detectors := by
  induction writes generalizing r with
  | nil => rfl
  | cons a writes ih => exact ih (a.refresh cf r)

/-- **The promotion finds a detector in the column of a row exactly when it has written it**, be it
at the creation or at a refresh. -/
theorem mem_detectors_of_writes {a : AutoRuleWrite} {writes : List AutoRuleWrite} {id : Uuid}
    {now : ℚ} (h : ∀ w ∈ a :: writes, w.detectorName ≠ "" ∧ ',' ∉ w.detectorName.toList)
    (n : String) :
    n ∈ detectorNames (writes.foldl (fun r w ↦ w.refresh cf r) (a.create cf id now)).detectors ↔
      ∃ w ∈ a :: writes, w.detectorName = n := by
  have hnames : ∀ m ∈ (a :: writes).map AutoRuleWrite.detectorName, m ≠ "" ∧ ',' ∉ m.toList := by
    intro m hm
    obtain ⟨w, hw, rfl⟩ := List.mem_map.1 hm
    exact h w hw
  have hlist := detectorNames_mergedNames (List.cons_ne_nil _ _) (fun m hm ↦ (hnames m hm).1)
    fun m hm ↦ (hnames m hm).2
  have hwriters : n ∈ (a :: writes).map AutoRuleWrite.detectorName ↔
      ∃ w ∈ a :: writes, w.detectorName = n := List.mem_map
  rw [detectors_foldl_refresh]
  exact (hlist.mem_iff n).trans hwriters

end DjangoWaf
