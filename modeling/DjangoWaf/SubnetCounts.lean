import DjangoWaf.Lib.IpAddressText
import DjangoWaf.Services.Detectors

/-!
# Subnets and what is counted under them

`_get_subnet_prefix` truncates an address to its network and prints it. For an address without a
scope the text stands for the network: two addresses have one text exactly when they are of one
family and agree in the prefix (`getSubnetPrefix_eq_iff`).

The aggregation of the detectors goes through rows one by one. What it holds behind any rows is
`AggregatesOf`: one aggregate for each subnet of a row, with the sum over its rows and with their
addresses. `aggregateRow` keeps that (`aggregatesOf_aggregateRow`), so it is what a whole pass
leaves (`aggregatesOf_aggregateSubnets`), and of the rows nothing but their multiset matters.
-/

namespace DjangoWaf

open IpAddress

/-! ### The subnet of an address -/

/-- The text is an IPv4 address, or an IPv6 address without a scope. -/
def IsPlainAddress (s : String) : Prop := ∃ a, ipAddress s = some a ∧ a.scope = none

/-- The text is no address, or one without a scope. -/
def ScopeFree (s : String) : Prop := ∀ a, ipAddress s = some a → a.scope = none

theorem isPlainAddress_iff {s : String} :
    IsPlainAddress s ↔ ((ipAddress s).any fun a ↦ a.scope = none) = true := by
  rw [IsPlainAddress, Option.any_eq_true]
  simp only [decide_eq_true_eq]

theorem scopeFree_iff {s : String} :
    ScopeFree s ↔ ((ipAddress s).all fun a ↦ a.scope = none) = true := by
  rw [ScopeFree, Option.all_eq_true]
  simp only [decide_eq_true_eq]

instance (s : String) : Decidable (IsPlainAddress s) := decidable_of_iff' _ isPlainAddress_iff

instance (s : String) : Decidable (ScopeFree s) := decidable_of_iff' _ scopeFree_iff

/-- The length of the prefix under which an address is counted. -/
def subnetLength : Version → ℕ
  | .v4 => 24
  | .v6 => 48

theorem subnetLength_le (v : Version) : subnetLength v ≤ v.bits := by cases v <;> decide

/-- The network under which an address is counted. -/
def subnetOf (a : Address) : Network :=
  ⟨a.version, maskBits a.version (subnetLength a.version) a.value, subnetLength a.version,
    subnetLength_le a.version⟩

theorem masked_subnetOf (a : Address) : (subnetOf a).Masked :=
  masked_maskBits a (subnetLength_le a.version)

/-- The subnet of any address that parses. -/
theorem getSubnetPrefix_of_ipAddress {s : String} {a : Address} (h : ipAddress s = some a) :
    getSubnetPrefix s = some
      ((subnetOf a).text (if (subnetOf a).network = a.value then a.scope else none)) := by
  have hslash := ipNetwork_slash h (subnetLength_le a.version)
  obtain ⟨v, n, hn, scope⟩ := a
  rcases v with _ | _
  · have hlength : "24" = String.ofList (Nat.toDigits 10 (subnetLength .v4)) := by decide
    simp only [getSubnetPrefix, h, Option.bind_eq_bind, Option.bind_some, hlength, hslash]
    rfl
  · have hlength : "48" = String.ofList (Nat.toDigits 10 (subnetLength .v6)) := by decide
    simp only [getSubnetPrefix, h, Option.bind_eq_bind, Option.bind_some, hlength, hslash]
    rfl

/-- **The subnet of an address without a scope** is the text of its network. -/
theorem getSubnetPrefix_of_plain {s : String} {a : Address} (h : ipAddress s = some a)
    (hscope : a.scope = none) : getSubnetPrefix s = some ((subnetOf a).text none) := by
  rw [getSubnetPrefix_of_ipAddress h, hscope, ite_self]

theorem getSubnetPrefix_eq_none_iff {s : String} :
    getSubnetPrefix s = none ↔ ipAddress s = none := by
  rcases h : ipAddress s with _ | a
  · rw [getSubnetPrefix, h]
    exact ⟨fun _ ↦ rfl, fun _ ↦ rfl⟩
  · rw [getSubnetPrefix_of_ipAddress h]
    exact ⟨nofun, nofun⟩

theorem subnetOf_eq_iff {a b : Address} :
    subnetOf a = subnetOf b ↔ a.version = b.version ∧
      maskBits a.version (subnetLength a.version) a.value =
        maskBits b.version (subnetLength b.version) b.value := by
  rw [subnetOf, subnetOf, Network.mk.injEq]
  refine ⟨fun h ↦ ⟨h.1, h.2.1⟩, fun h ↦ ⟨h.1, h.2, ?_⟩⟩
  rw [h.1]

/-- **One text is one network**: the family and the prefix. -/
theorem getSubnetPrefix_eq_iff {s t : String} {a b : Address} (ha : ipAddress s = some a)
    (hb : ipAddress t = some b) (hascope : a.scope = none) (hbscope : b.scope = none) :
    getSubnetPrefix s = getSubnetPrefix t ↔ subnetOf a = subnetOf b := by
  rw [getSubnetPrefix_of_plain ha hascope, getSubnetPrefix_of_plain hb hbscope, Option.some.injEq,
    text_inj (masked_subnetOf a) (masked_subnetOf b)]

/-! ### What an aggregation holds -/

/-- The rows whose address lies in a subnet. -/
def rowsIn (rows : List ChallengedRow) (subnet : String) : List ChallengedRow :=
  rows.filter fun row ↦ getSubnetPrefix row.ipAddress = some subnet

/-- **The aggregates of some rows**: one for each subnet of a row, with the sum over its rows and
with their addresses. -/
structure AggregatesOf (rows : List ChallengedRow) (subnets : List SubnetAggregate) : Prop where
  nodup : (subnets.map SubnetAggregate.subnet).Nodup
  mem : ∀ subnet, subnet ∈ subnets.map SubnetAggregate.subnet ↔ rowsIn rows subnet ≠ []
  total : ∀ s ∈ subnets, s.total = ((rowsIn rows s.subnet).map ChallengedRow.challengedCount).sum
  ips : ∀ s ∈ subnets, ∀ ip, ip ∈ s.ips ↔ ∃ row ∈ rowsIn rows s.subnet, row.ipAddress = ip

theorem rowsIn_concat (rows : List ChallengedRow) (row : ChallengedRow) (subnet : String) :
    rowsIn (rows ++ [row]) subnet = rowsIn rows subnet ++
      if getSubnetPrefix row.ipAddress = some subnet then [row] else [] := by
  rw [rowsIn, List.filter_append, List.filter_singleton, rowsIn]
  congr 1
  split_ifs with h <;> simp [h]

/-- A row of no subnet is passed over. -/
theorem rowsIn_concat_of_ne {rows : List ChallengedRow} {row : ChallengedRow} {subnet : String}
    (h : getSubnetPrefix row.ipAddress ≠ some subnet) :
    rowsIn (rows ++ [row]) subnet = rowsIn rows subnet := by
  rw [rowsIn_concat, if_neg h, List.append_nil]

theorem rowsIn_concat_of_eq {rows : List ChallengedRow} {row : ChallengedRow} {subnet : String}
    (h : getSubnetPrefix row.ipAddress = some subnet) :
    rowsIn (rows ++ [row]) subnet = rowsIn rows subnet ++ [row] := by
  rw [rowsIn_concat, if_pos h]

section OneRow

variable {rows : List ChallengedRow} {subnets : List SubnetAggregate} {row : ChallengedRow}
  {subnet : String}

theorem rowsIn_concat_of_subnet_ne (hsubnet : getSubnetPrefix row.ipAddress = some subnet)
    {s : String} (hs : s ≠ subnet) : rowsIn (rows ++ [row]) s = rowsIn rows s := by
  refine rowsIn_concat_of_ne fun heq ↦ hs ?_
  rw [hsubnet] at heq
  exact (Option.some.inj heq).symm

/-- A row without a subnet. -/
theorem AggregatesOf.skip (h : AggregatesOf rows subnets)
    (hsubnet : getSubnetPrefix row.ipAddress = none) :
    AggregatesOf (rows ++ [row]) subnets := by
  have hsame : ∀ subnet, rowsIn (rows ++ [row]) subnet = rowsIn rows subnet := by
    intro subnet
    refine rowsIn_concat_of_ne ?_
    rw [hsubnet]
    nofun
  refine ⟨h.nodup, fun subnet ↦ ?_, fun s hs ↦ ?_, fun s hs ip ↦ ?_⟩
  · rw [hsame]
    exact h.mem subnet
  · rw [hsame]
    exact h.total s hs
  · rw [hsame]
    exact h.ips s hs ip

/-- A row of a subnet that has an aggregate, which takes it in. -/
theorem AggregatesOf.merge (h : AggregatesOf rows subnets)
    (hsubnet : getSubnetPrefix row.ipAddress = some subnet)
    (hold : subnet ∈ subnets.map SubnetAggregate.subnet) :
    AggregatesOf (rows ++ [row]) (subnets.map fun s ↦ if s.subnet = subnet then
      { s with total := s.total + row.challengedCount, ips := s.ips.insert row.ipAddress }
      else s) := by
  have hthis : rowsIn (rows ++ [row]) subnet = rowsIn rows subnet ++ [row] :=
    rowsIn_concat_of_eq hsubnet
  have hsubnets : (subnets.map fun s ↦ if s.subnet = subnet then
      { s with total := s.total + row.challengedCount, ips := s.ips.insert row.ipAddress }
      else s).map SubnetAggregate.subnet = subnets.map SubnetAggregate.subnet := by
    rw [List.map_map]
    refine List.map_congr_left fun s _ ↦ ?_
    rw [Function.comp_apply]
    split_ifs <;> rfl
  refine ⟨?_, fun s ↦ ?_, fun s hs ↦ ?_, fun s hs ip ↦ ?_⟩
  · rw [hsubnets]
    exact h.nodup
  · rw [hsubnets]
    rcases eq_or_ne s subnet with rfl | hs
    · rw [hthis]
      exact ⟨fun _ ↦ List.append_ne_nil_of_right_ne_nil _ (List.cons_ne_nil row []), fun _ ↦ hold⟩
    · rw [rowsIn_concat_of_subnet_ne hsubnet hs]
      exact h.mem s
  · obtain ⟨s', hs', rfl⟩ := List.mem_map.1 hs
    split_ifs with hsub
    · show s'.total + row.challengedCount = _
      rw [h.total s' hs', hsub, hthis, List.map_append, List.sum_append, List.map_singleton,
        List.sum_singleton]
    · rw [h.total s' hs', rowsIn_concat_of_subnet_ne hsubnet hsub]
  · obtain ⟨s', hs', rfl⟩ := List.mem_map.1 hs
    split_ifs with hsub
    · show ip ∈ s'.ips.insert row.ipAddress ↔ _
      rw [List.mem_insert_iff, h.ips s' hs', hsub, hthis, or_comm]
      simp only [List.mem_append, List.mem_singleton, or_and_right, exists_or, exists_eq_left,
        eq_comm (a := ip)]
    · rw [h.ips s' hs', rowsIn_concat_of_subnet_ne hsubnet hsub]

/-- The first row of a subnet, which opens an aggregate. -/
theorem AggregatesOf.concat (h : AggregatesOf rows subnets)
    (hsubnet : getSubnetPrefix row.ipAddress = some subnet)
    (hnew : subnet ∉ subnets.map SubnetAggregate.subnet) :
    AggregatesOf (rows ++ [row]) (subnets ++ [⟨subnet, row.challengedCount, [row.ipAddress]⟩]) := by
  have hnone : rowsIn rows subnet = [] := by
    by_contra hne
    exact hnew ((h.mem subnet).2 hne)
  have hthis : rowsIn (rows ++ [row]) subnet = [row] := by
    rw [rowsIn_concat_of_eq hsubnet, hnone, List.nil_append]
  have hold : ∀ s ∈ subnets, rowsIn (rows ++ [row]) s.subnet = rowsIn rows s.subnet :=
    fun s hs ↦ rowsIn_concat_of_subnet_ne hsubnet fun heq ↦
      hnew (heq ▸ List.mem_map_of_mem hs)
  refine ⟨?_, fun s ↦ ?_, fun s hs ↦ ?_, fun s hs ip ↦ ?_⟩
  · rw [List.map_append, List.map_singleton, ← List.concat_eq_append]
    exact h.nodup.concat hnew
  · rw [List.map_append, List.mem_append, List.map_singleton, List.mem_singleton]
    rcases eq_or_ne s subnet with rfl | hs
    · rw [hthis]
      exact ⟨fun _ ↦ List.cons_ne_nil row [], fun _ ↦ Or.inr rfl⟩
    · rw [rowsIn_concat_of_subnet_ne hsubnet hs, h.mem s]
      exact ⟨fun hs' ↦ hs'.resolve_right hs, Or.inl⟩
  · rcases List.mem_append.1 hs with hs | hs
    · rw [h.total s hs, hold s hs]
    · rw [List.mem_singleton.1 hs, hthis, List.map_singleton, List.sum_singleton]
  · rcases List.mem_append.1 hs with hs | hs
    · rw [h.ips s hs, hold s hs]
    · rw [List.mem_singleton.1 hs, hthis]
      simp only [List.mem_singleton, exists_eq_left, eq_comm (a := ip)]

end OneRow

/-- One row. -/
theorem aggregatesOf_aggregateRow {rows : List ChallengedRow} {subnets : List SubnetAggregate}
    (h : AggregatesOf rows subnets) (row : ChallengedRow) :
    AggregatesOf (rows ++ [row]) (aggregateRow subnets row) := by
  rw [aggregateRow]
  rcases hsubnet : getSubnetPrefix row.ipAddress with _ | subnet
  · exact h.skip hsubnet
  · have hany : (subnets.any fun s ↦ s.subnet = subnet) = true ↔
        subnet ∈ subnets.map SubnetAggregate.subnet := by
      rw [List.any_eq_true, List.mem_map]
      simp only [decide_eq_true_eq]
    dsimp only
    split_ifs with hfound
    · exact h.merge hsubnet (hany.1 hfound)
    · exact h.concat hsubnet (mt hany.2 hfound)

/-- **What a pass over the rows leaves.** -/
theorem aggregatesOf_aggregateSubnets (rows : List ChallengedRow) :
    AggregatesOf rows (aggregateSubnets rows) := by
  induction rows using List.reverseRecOn with
  | nil => exact ⟨List.nodup_nil, fun _ ↦ ⟨nofun, fun h ↦ absurd rfl h⟩, nofun, nofun⟩
  | append_singleton rows row ih =>
    rw [aggregateSubnets, List.foldl_append]
    exact aggregatesOf_aggregateRow ih row

end DjangoWaf
