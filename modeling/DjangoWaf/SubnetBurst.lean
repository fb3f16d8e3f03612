import DjangoWaf.Lib.OrderStatistics
import DjangoWaf.SubnetCounts
import Mathlib.Tactic.Linarith
import Mathlib.Tactic.Ring

/-!
# Spreading out does not hide a burst

`detect_subnet_burst` flags a subnet whose count reaches a fixed floor, or exceeds three times the
**median** count of the subnets in the window. The detector once took the mean, and a cohort spread
over many prefixes raised the bar it was judged by.

* **Counting** (`mem_burstSubnets_iff`): whether a subnet is flagged is a matter of its count and of
  the median, and both are functions of the multiset of rows.
* **The median does not rise** when counts are added that are at most the median, for a list of odd
  or even length and any number of counts (`median_append_le`): the middle of the longer list is at
  most as far up as there are old and new elements below the old median.
* **The floor cannot be moved** at all: adding rows lowers no count.

Rows before the window and rows whose address does not parse count for nothing, so the rows that are
added may hold any of them.
-/

namespace DjangoWaf

open OrderStatistics

/-! ### The median -/

/-- The median lies between the two middle elements, which are one when the length is odd. -/
theorem median_spec {l : List ℕ} (h : l ≠ []) :
    ∃ lo hi, kthSmallest l ((l.length - 1) / 2) = some lo ∧ kthSmallest l (l.length / 2) = some hi ∧
      median l = ((lo : ℚ) + hi) / 2 := by
  have hpos : 0 < l.length := List.length_pos_of_ne_nil h
  obtain ⟨lo, -, hlo⟩ := exists_kthSmallest (l := l) (k := (l.length - 1) / 2) (by omega)
  obtain ⟨hi, -, hhi⟩ := exists_kthSmallest (l := l) (k := l.length / 2) (by omega)
  refine ⟨lo, hi, hlo, hhi, ?_⟩
  rw [median, List.length_insertionSort]
  split_ifs with hodd
  · have hmiddle : (l.length - 1) / 2 = l.length / 2 := by omega
    rw [hmiddle, hhi] at hlo
    obtain rfl := Option.some.inj hlo
    rw [show (l.insertionSort (· ≤ ·))[l.length / 2]? = some hi from hhi, Option.getD_some]
    ring
  · have hmiddle : l.length / 2 - 1 = (l.length - 1) / 2 := by omega
    rw [hmiddle, show (l.insertionSort (· ≤ ·))[(l.length - 1) / 2]? = some lo from hlo,
      show (l.insertionSort (· ≤ ·))[l.length / 2]? = some hi from hhi, Option.getD_some,
      Option.getD_some]

theorem median_perm {l l' : List ℕ} (h : l.Perm l') : median l = median l' := by
  have hsorted : l.insertionSort (· ≤ ·) = l'.insertionSort (· ≤ ·) :=
    List.ext_getElem? fun k ↦ kthSmallest_perm h k
  rw [median, median, hsorted]

/-- **Counts that are at most the median do not raise it.** -/
theorem median_append_le {l l' : List ℕ} (hl : l ≠ []) (h : ∀ x ∈ l', (x : ℚ) ≤ median l) :
    median (l ++ l') ≤ median l := by
  rcases eq_or_ne l' [] with rfl | hl'
  · rw [List.append_nil]
  obtain ⟨lo, hi, hlo, hhi, hmedian⟩ := median_spec hl
  obtain ⟨lo', hi', hlo', hhi', hmedian'⟩ := median_spec (List.append_ne_nil_of_left_ne_nil hl l')
  have hmiddle : (lo : ℚ) ≤ hi := by
    exact_mod_cast kthSmallest_mono (show (l.length - 1) / 2 ≤ l.length / 2 by omega) hlo hhi
  have hmiddle' : (lo' : ℚ) ≤ hi' := by
    exact_mod_cast kthSmallest_mono
      (show ((l ++ l').length - 1) / 2 ≤ (l ++ l').length / 2 by omega) hlo' hhi'
  -- at most the median: the lower half of the old counts, and every new one
  let below : ℕ → Bool := fun x ↦ (x : ℚ) ≤ median l
  have hdown : ∀ a b, a ≤ b → below b = true → below a = true := by
    intro a b hab hb
    have hcast : (a : ℚ) ≤ b := by exact_mod_cast hab
    exact decide_eq_true (hcast.trans (of_decide_eq_true hb))
  have hold : (l.length - 1) / 2 < l.countP below :=
    (kthSmallest_iff hdown hlo).1 (decide_eq_true (by rw [hmedian]; linarith))
  have hnew : l'.countP below = l'.length :=
    List.countP_eq_length.2 fun x hx ↦ decide_eq_true (h x hx)
  have hcount : (l ++ l').length / 2 < (l ++ l').countP below := by
    have hpos : 0 < l'.length := List.length_pos_of_ne_nil hl'
    rw [List.countP_append, hnew, List.length_append]
    omega
  have hbelow : (hi' : ℚ) ≤ median l := of_decide_eq_true ((kthSmallest_iff hdown hhi').2 hcount)
  rw [hmedian']
  linarith

/-! ### The counts of a window -/

variable (t : Traffic) (cutoff : ℚ)

/-- The addresses the detector goes through. -/
def windowIps : List String := (t.logsSince cutoff).map RequestLog.ipAddress

/-- The requests of a subnet in the window. -/
def requestCount (subnet : String) : ℕ :=
  (t.logsSince cutoff).countP fun l ↦ getSubnetPrefix l.ipAddress = some subnet

/-- `subnet_counts.values()`. -/
def subnetTotals : List ℕ := (subnetCounts (windowIps t cutoff)).map SubnetAggregate.total

/-- The keys of `subnet_counts`. -/
def seenSubnets : List String := (subnetCounts (windowIps t cutoff)).map SubnetAggregate.subnet

theorem nodup_seenSubnets : (seenSubnets t cutoff).Nodup := nodup_aggregateSubnets _

/-- The rows of a subnet among those the detector aggregates. -/
theorem rowsIn_ones (ips : List String) (subnet : String) :
    rowsIn (ips.map fun ip ↦ ⟨ip, 1⟩) subnet =
      (ips.filter fun ip ↦ getSubnetPrefix ip = some subnet).map fun ip ↦ ⟨ip, 1⟩ := List.filter_map

theorem requestCount_eq (subnet : String) : requestCount t cutoff subnet =
    ((windowIps t cutoff).filter fun ip ↦ getSubnetPrefix ip = some subnet).length := by
  rw [← List.countP_eq_length_filter, windowIps, List.countP_map]
  rfl

/-- The rows of a subnet, counted by one each. -/
theorem sum_rowsIn (subnet : String) :
    ((rowsIn ((windowIps t cutoff).map fun ip ↦ ⟨ip, 1⟩) subnet).map
      ChallengedRow.challengedCount).sum = requestCount t cutoff subnet := by
  rw [rowsIn_ones, requestCount_eq, List.map_map]
  show (List.map (fun _ ↦ 1) _).sum = _
  rw [List.map_const', List.sum_replicate_nat, Nat.mul_one]

theorem mem_seenSubnets_iff {subnet : String} :
    subnet ∈ seenSubnets t cutoff ↔ 0 < requestCount t cutoff subnet := by
  rw [seenSubnets, subnetCounts, (aggregatesOf_aggregateSubnets _).mem, rowsIn_ones,
    requestCount_eq, List.length_pos_iff, Ne, List.map_eq_nil_iff]

theorem total_eq_requestCount {s : SubnetAggregate}
    (hs : s ∈ subnetCounts (windowIps t cutoff)) : s.total = requestCount t cutoff s.subnet := by
  rw [← sum_rowsIn]
  exact (aggregatesOf_aggregateSubnets _).total s hs

theorem subnetTotals_eq :
    subnetTotals t cutoff = (seenSubnets t cutoff).map (requestCount t cutoff) := by
  rw [subnetTotals, seenSubnets, List.map_map]
  exact List.map_congr_left fun s hs ↦ total_eq_requestCount t cutoff hs

/-- `median_count`. -/
def medianCount : ℚ := median (subnetTotals t cutoff)

/-- **Which subnets are flagged**, by counting. -/
theorem mem_burstSubnets_iff (dc : DetectorConf) {subnet : String} :
    subnet ∈ burstSubnets dc t cutoff ↔ 0 < requestCount t cutoff subnet ∧
      (dc.subnetBurstMinCount ≤ requestCount t cutoff subnet ∨
        medianCount t cutoff * 3 < requestCount t cutoff subnet) := by
  rw [← mem_seenSubnets_iff]
  show subnet ∈ ((subnetCounts (windowIps t cutoff)).filter fun s ↦
    !((s.total : ℤ) < dc.subnetBurstMinCount && s.total ≤ medianCount t cutoff * 3)).map
    SubnetAggregate.subnet ↔ _
  constructor
  · intro h
    obtain ⟨s, hs, rfl⟩ := List.mem_map.1 h
    obtain ⟨hs, hburst⟩ := List.mem_filter.1 hs
    rw [total_eq_requestCount t cutoff hs, Bool.not_eq_true', Bool.and_eq_false_iff,
      decide_eq_false_iff_not, decide_eq_false_iff_not, not_lt, not_le] at hburst
    exact ⟨List.mem_map_of_mem hs, hburst⟩
  · rintro ⟨h, hburst⟩
    obtain ⟨s, hs, rfl⟩ := List.mem_map.1 h
    refine List.mem_map_of_mem (List.mem_filter.2 ⟨hs, ?_⟩)
    rw [total_eq_requestCount t cutoff hs, Bool.not_eq_true', Bool.and_eq_false_iff,
      decide_eq_false_iff_not, decide_eq_false_iff_not, not_lt, not_le]
    exact hburst

theorem nodup_burstSubnets (dc : DetectorConf) : (burstSubnets dc t cutoff).Nodup :=
  (List.filter_sublist.map SubnetAggregate.subnet).nodup (nodup_aggregateSubnets _)

/-! ### Adding rows -/

variable {t cutoff} {t' : Traffic} {extra : List RequestLog}

/-- The requests of a subnet among some rows of the window. -/
def addedCount (extra : List RequestLog) (cutoff : ℚ) (subnet : String) : ℕ :=
  (extra.filter fun l ↦ cutoff ≤ l.timestamp).countP fun l ↦
    getSubnetPrefix l.ipAddress = some subnet

/-- Counts add up. -/
theorem requestCount_add (cutoff : ℚ) (h : t'.requestLogs.Perm (t.requestLogs ++ extra))
    (subnet : String) : requestCount t' cutoff subnet =
      requestCount t cutoff subnet + addedCount extra cutoff subnet := by
  rw [requestCount, Traffic.logsSince, (h.filter _).countP_eq, List.filter_append,
    List.countP_append]
  rfl

/-- **The order of the rows does not matter** to the counts, the median and the subnets flagged. -/
theorem burstSubnets_perm (h : t'.requestLogs.Perm t.requestLogs) (dc : DetectorConf) :
    (∀ subnet, requestCount t' cutoff subnet = requestCount t cutoff subnet) ∧
      medianCount t' cutoff = medianCount t cutoff ∧
      (burstSubnets dc t' cutoff).Perm (burstSubnets dc t cutoff) := by
  have hcount : ∀ subnet, requestCount t' cutoff subnet = requestCount t cutoff subnet :=
    fun subnet ↦ (h.filter _).countP_eq _
  have hseen : (seenSubnets t' cutoff).Perm (seenSubnets t cutoff) := by
    rw [List.perm_ext_iff_of_nodup (nodup_seenSubnets t' cutoff) (nodup_seenSubnets t cutoff)]
    intro subnet
    rw [mem_seenSubnets_iff, mem_seenSubnets_iff, hcount]
  have hmedian : medianCount t' cutoff = medianCount t cutoff := by
    rw [medianCount, medianCount, subnetTotals_eq, subnetTotals_eq, funext hcount]
    exact median_perm (hseen.map _)
  refine ⟨hcount, hmedian, ?_⟩
  rw [List.perm_ext_iff_of_nodup (nodup_burstSubnets t' cutoff dc) (nodup_burstSubnets t cutoff dc)]
  intro subnet
  rw [mem_burstSubnets_iff, mem_burstSubnets_iff, hcount, hmedian]

/-- **Added rows are spread thin**: the subnets of those in the window were not seen in it, and
none of them counts more than the median. -/
def SpreadThin (t : Traffic) (cutoff : ℚ) (extra : List RequestLog) : Prop :=
  ∀ subnet, 0 < addedCount extra cutoff subnet →
    requestCount t cutoff subnet = 0 ∧ (addedCount extra cutoff subnet : ℚ) ≤ medianCount t cutoff

/-- The counts behind rows that are spread thin: the old ones, and new ones up to the median. -/
theorem subnetTotals_spreadThin (h : t'.requestLogs.Perm (t.requestLogs ++ extra))
    (hthin : SpreadThin t cutoff extra) :
    ∃ added : List ℕ, (subnetTotals t' cutoff).Perm (subnetTotals t cutoff ++ added) ∧
      ∀ n ∈ added, (n : ℚ) ≤ medianCount t cutoff := by
  -- the subnets of which there are new rows
  let fresh := (seenSubnets t' cutoff).filter fun subnet ↦ 0 < addedCount extra cutoff subnet
  have hfresh : ∀ subnet, subnet ∈ fresh ↔ 0 < addedCount extra cutoff subnet := by
    intro subnet
    rw [List.mem_filter, mem_seenSubnets_iff, requestCount_add _ h, decide_eq_true_eq]
    omega
  have hseen : (seenSubnets t' cutoff).Perm (seenSubnets t cutoff ++ fresh) := by
    have hdisjoint : (seenSubnets t cutoff ++ fresh).Nodup := by
      refine List.nodup_append.2 ⟨nodup_seenSubnets t cutoff,
        (nodup_seenSubnets t' cutoff).filter _, fun a ha b hb hab ↦ ?_⟩
      rw [mem_seenSubnets_iff, hab, (hthin b ((hfresh b).1 hb)).1] at ha
      exact absurd ha (lt_irrefl 0)
    rw [List.perm_ext_iff_of_nodup (nodup_seenSubnets t' cutoff) hdisjoint]
    intro subnet
    rw [List.mem_append, hfresh, mem_seenSubnets_iff, mem_seenSubnets_iff, requestCount_add _ h]
    omega
  refine ⟨fresh.map (requestCount t' cutoff), ?_, ?_⟩
  · rw [subnetTotals_eq, subnetTotals_eq]
    refine (hseen.map _).trans (List.Perm.of_eq ?_)
    rw [List.map_append]
    congr 1
    refine List.map_congr_left fun subnet hsubnet ↦ ?_
    -- a subnet that was seen gets no rows
    have hnone : addedCount extra cutoff subnet = 0 := by
      by_contra hne
      rw [mem_seenSubnets_iff, (hthin subnet (Nat.pos_of_ne_zero hne)).1] at hsubnet
      exact absurd hsubnet (lt_irrefl 0)
    rw [requestCount_add _ h, hnone, Nat.add_zero]
  · intro n hn
    obtain ⟨subnet, hsubnet, rfl⟩ := List.mem_map.1 hn
    obtain ⟨hunseen, hle⟩ := hthin subnet ((hfresh subnet).1 hsubnet)
    rw [requestCount_add _ h, hunseen, Nat.zero_add]
    exact hle

/-- Rows that are spread thin do not raise the median. -/
theorem medianCount_spreadThin_le (h : t'.requestLogs.Perm (t.requestLogs ++ extra))
    (hthin : SpreadThin t cutoff extra) (hne : subnetTotals t cutoff ≠ []) :
    medianCount t' cutoff ≤ medianCount t cutoff := by
  obtain ⟨added, hperm, hle⟩ := subnetTotals_spreadThin h hthin
  rw [medianCount, median_perm hperm]
  exact median_append_le hne hle

/-! ### The theorem -/

/-- **Spreading out does not hide a burst.** A subnet that is flagged stays flagged when rows are
added whose subnets were not seen and count at most the median each; when its own count reaches the
floor it stays flagged whatever is added; and the order of the rows does not matter. -/
theorem burst_survives_spreading (dc : DetectorConf) (t t' : Traffic) (cutoff : ℚ)
    (extra : List RequestLog) (h : t'.requestLogs.Perm (t.requestLogs ++ extra)) :
    (SpreadThin t cutoff extra →
      ∀ subnet ∈ burstSubnets dc t cutoff, subnet ∈ burstSubnets dc t' cutoff) ∧
    (∀ subnet ∈ burstSubnets dc t cutoff,
      dc.subnetBurstMinCount ≤ requestCount t cutoff subnet → subnet ∈ burstSubnets dc t' cutoff) ∧
    (extra = [] → (∀ subnet, requestCount t' cutoff subnet = requestCount t cutoff subnet) ∧
      medianCount t' cutoff = medianCount t cutoff ∧
      (burstSubnets dc t' cutoff).Perm (burstSubnets dc t cutoff)) := by
  refine ⟨fun hthin subnet hburst ↦ ?_, fun subnet hburst hfloor ↦ ?_, fun hnone ↦ ?_⟩
  · rw [mem_burstSubnets_iff] at hburst ⊢
    obtain ⟨hpos, hburst⟩ := hburst
    have hne : subnetTotals t cutoff ≠ [] := by
      rw [subnetTotals_eq]
      exact List.ne_nil_of_mem (List.mem_map_of_mem ((mem_seenSubnets_iff t cutoff).2 hpos))
    have hmedian := medianCount_spreadThin_le h hthin hne
    have hgrow : requestCount t cutoff subnet ≤ requestCount t' cutoff subnet := by
      rw [requestCount_add _ h]
      exact Nat.le_add_right _ _
    have hgrow' : (requestCount t cutoff subnet : ℚ) ≤ requestCount t' cutoff subnet := by
      exact_mod_cast hgrow
    refine ⟨by omega, hburst.imp (fun hfloor ↦ by omega) fun hratio ↦ by linarith⟩
  · rw [mem_burstSubnets_iff] at hburst ⊢
    have hgrow := requestCount_add cutoff h subnet
    exact ⟨by omega, Or.inl (by omega)⟩
  · rw [hnone, List.append_nil] at h
    exact burstSubnets_perm h dc

/-- Requests of some addresses, all at once. -/
def requestsOf (ips : List String) : Traffic where
  requestLogs := ips.map fun ip ↦
    { timestamp := 990, ipAddress := ip, userAgent := "curl/8.5", path := "/", verdict := .allowed,
      responseCode := some 200, referer := "", source := .middleware }
  ipReputations := []
  challengeTokens := []
  ipReputations_nodup := List.nodup_nil

/-- Four requests from one subnet beside two quiet ones are more than three times the median, and
stay so when the cohort adds two prefixes with a request each. -/
theorem burst_survives_spreading_two :
    let quiet := ["198.51.100.1", "203.0.113.1"]
    let burst := ["192.0.2.1", "192.0.2.2", "192.0.2.3", "192.0.2.4"]
    let spread := ["2001:db8:1::1", "2001:db8:2::1"]
    burstSubnets DetectorConf.defaults (requestsOf (burst ++ quiet)) 100 = ["192.0.2.0/24"] ∧
      "192.0.2.0/24" ∈
        burstSubnets DetectorConf.defaults (requestsOf (spread ++ burst ++ quiet)) 100 := by
  intro quiet burst spread
  have hbefore : burstSubnets DetectorConf.defaults (requestsOf (burst ++ quiet)) 100 =
      ["192.0.2.0/24"] := by decide +kernel
  have hperm : (requestsOf (spread ++ burst ++ quiet)).requestLogs.Perm
      ((requestsOf (burst ++ quiet)).requestLogs ++ (requestsOf spread).requestLogs) := by
    show (List.map _ _).Perm (List.map _ _ ++ List.map _ _)
    rw [← List.map_append, List.append_assoc]
    exact List.perm_append_comm.map _
  have hthin : SpreadThin (requestsOf (burst ++ quiet)) 100 (requestsOf spread).requestLogs := by
    have hall : ∀ l ∈ (requestsOf spread).requestLogs, ∀ subnet ∈ getSubnetPrefix l.ipAddress,
        requestCount (requestsOf (burst ++ quiet)) 100 subnet = 0 ∧
          (addedCount (requestsOf spread).requestLogs 100 subnet : ℚ) ≤
            medianCount (requestsOf (burst ++ quiet)) 100 := by decide +kernel
    intro subnet hpos
    obtain ⟨l, hl, hsubnet⟩ := List.countP_pos_iff.1 hpos
    exact hall l (List.mem_filter.1 hl).1 subnet (of_decide_eq_true hsubnet)
  refine ⟨hbefore, (burst_survives_spreading DetectorConf.defaults _ _ 100 _ hperm).1 hthin _ ?_⟩
  rw [hbefore]
  exact List.mem_singleton_self _

end DjangoWaf
