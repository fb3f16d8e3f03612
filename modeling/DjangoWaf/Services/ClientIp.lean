import DjangoWaf.Lib.IpAddress

/-!
# The address of a client

`services/client_ip.py`: which address a request is attributed to, given the peer of the connection,
the `X-Forwarded-For` header and three settings.

* Behind a **trusted peer** the header is walked from the right, over malformed hops and over the
  trusted proxies, to the first hop that is neither. What a client puts in front of such a hop is
  never reached (`walkHops_append`).
* Otherwise the **legacy flag** may hand the choice to the leftmost entry, which the client writes.
* Otherwise the peer itself is the client.

A missing key of `request.META` reads as the empty text; an entry of the trusted proxies that is no
network trusts nobody.
-/

namespace DjangoWaf

/-- The settings `resolve_client_ip` reads. -/
structure ProxyConf where
  /-- `DJANGO_WAF_TRUSTED_PROXIES`. -/
  trustedProxies : List String
  /-- `DJANGO_WAF_TRUSTED_UNIX_SOCKET`. -/
  trustedUnixSocket : Bool
  /-- `DJANGO_WAF_TRUST_X_FORWARDED_FOR`. -/
  trustXForwardedFor : Bool

/-- The two keys of `request.META` that `resolve_client_ip` reads. -/
structure PeerMeta where
  /-- `REMOTE_ADDR`. -/
  remoteAddr : Option String
  /-- `HTTP_X_FORWARDED_FOR`. -/
  forwardedFor : Option String

/-- `_is_valid_ip`. -/
def isValidIp (ip : String) : Bool := (IpAddress.ipAddress ip).isSome

/-- `_is_trusted_proxy`. -/
def isTrustedProxy (ip : String) (trustedProxies : List String) : Bool :=
  if ip = "" then false
  else
    match IpAddress.ipAddress ip with
    | none => false
    | some address => trustedProxies.any fun cidr ↦
      match IpAddress.ipNetwork cidr with
      | none => false
      | some network => network.contains address

/-- The loop of `_resolve_from_forwarded_chain`, over the hops from the right. -/
def walkHops (trustedProxies : List String) : List String → String
  | [] => ""
  | hop :: rest =>
    if hop = "" ∨ isValidIp hop = false then walkHops trustedProxies rest
    else if isTrustedProxy hop trustedProxies then walkHops trustedProxies rest
    else hop

/-- The entries of a header, stripped. -/
def forwardedHops (forwardedFor : String) : List String :=
  (PyStr.splitOn ',' forwardedFor.toList).map fun hop ↦ PyStr.stripText (String.ofList hop)

/-- `_resolve_from_forwarded_chain`. -/
def resolveFromForwardedChain (forwardedFor : String) (trustedProxies : List String) : String :=
  if forwardedFor = "" then ""
  else walkHops trustedProxies (forwardedHops forwardedFor).reverse

/-- The entry the legacy flag goes by: the leftmost one. -/
def leftmostHop (forwardedFor : String) : String := (forwardedHops forwardedFor).headD ""

/-- `resolve_client_ip`. -/
def resolveClientIp (pf : ProxyConf) (m : PeerMeta) : String :=
  let remoteAddr := m.remoteAddr.getD ""
  let forwardedFor := m.forwardedFor.getD ""
  if isTrustedProxy remoteAddr pf.trustedProxies = true ∨
      (pf.trustedUnixSocket = true ∧ remoteAddr = "") then
    let resolved := resolveFromForwardedChain forwardedFor pf.trustedProxies
    if resolved ≠ "" then resolved else remoteAddr
  else if pf.trustXForwardedFor = true ∧ forwardedFor ≠ "" ∧
      isValidIp (leftmostHop forwardedFor) = true then
    leftmostHop forwardedFor
  else remoteAddr

/-! ### Trusted networks -/

/-- An address of one of the configured networks; malformed entries configure none. -/
def InTrustedNetwork (trustedProxies : List String) (a : IpAddress.Address) : Prop :=
  ∃ cidr ∈ trustedProxies, ∃ network, IpAddress.ipNetwork cidr = some network ∧
    network.contains a = true

/-- A trusted proxy is an address of a trusted network. -/
theorem isTrustedProxy_iff {ip : String} {trustedProxies : List String} :
    isTrustedProxy ip trustedProxies = true ↔
      ∃ a, IpAddress.ipAddress ip = some a ∧ InTrustedNetwork trustedProxies a := by
  have hempty : IpAddress.ipAddress "" = none := by decide
  rw [isTrustedProxy]
  rcases ha : IpAddress.ipAddress ip with - | a
  · simp
  · have hne : ip ≠ "" := by
      rintro rfl
      rw [hempty] at ha
      cases ha
    rw [if_neg hne]
    simp only [List.any_eq_true, Option.some.injEq, exists_eq_left', InTrustedNetwork]
    refine exists_congr fun cidr ↦ and_congr_right fun _ ↦ ?_
    rcases IpAddress.ipNetwork cidr with - | network
    · simp
    · simp

/-! ### The walk -/

/-- **The walk stops at the first hop it accepts**: what stands behind such a hop is not looked at.
-/
theorem walkHops_append (trustedProxies : List String) (hops rest : List String)
    (h : walkHops trustedProxies hops ≠ "") :
    walkHops trustedProxies (hops ++ rest) = walkHops trustedProxies hops := by
  induction hops with
  | nil => exact absurd rfl h
  | cons hop hops ih =>
    rw [List.cons_append, walkHops, walkHops]
    rw [walkHops] at h
    split
    · rename_i hskip
      rw [if_pos hskip] at h
      exact ih h
    · rename_i hskip
      rw [if_neg hskip] at h
      split
      · rename_i htrusted
        rw [if_pos htrusted] at h
        exact ih h
      · rfl

/-- What the walk returns is an address of no trusted network. -/
theorem walkHops_spec (trustedProxies : List String) (hops : List String)
    (h : walkHops trustedProxies hops ≠ "") :
    ∃ a, IpAddress.ipAddress (walkHops trustedProxies hops) = some a ∧
      ¬InTrustedNetwork trustedProxies a := by
  induction hops with
  | nil => exact absurd rfl h
  | cons hop hops ih =>
    rw [walkHops] at h ⊢
    split
    · rename_i hskip
      rw [if_pos hskip] at h
      exact ih h
    · rename_i hskip
      rw [if_neg hskip] at h
      split
      · rename_i htrusted
        rw [if_pos htrusted] at h
        exact ih h
      · rename_i htrusted
        rw [not_or, Bool.not_eq_false, isValidIp] at hskip
        obtain ⟨a, ha⟩ := Option.isSome_iff_exists.1 hskip.2
        exact ⟨a, ha, fun hin ↦ htrusted (isTrustedProxy_iff.2 ⟨a, ha, hin⟩)⟩

/-- The hops of a header with something put in front of it. -/
theorem forwardedHops_append (p s : String) :
    forwardedHops (p ++ "," ++ s) = forwardedHops p ++ forwardedHops s := by
  have hlist : (p ++ "," ++ s).toList = p.toList ++ ',' :: s.toList := by
    rw [String.toList_append, String.toList_append, List.append_assoc]
    rfl
  rw [forwardedHops, hlist, PyStr.splitOn_append_sep, List.map_append]
  rfl

/-- **What is put in front of a header that resolves is not read.** -/
theorem resolveFromForwardedChain_append (trustedProxies : List String) (p s : String)
    (h : resolveFromForwardedChain s trustedProxies ≠ "") :
    resolveFromForwardedChain (p ++ "," ++ s) trustedProxies =
      resolveFromForwardedChain s trustedProxies := by
  have hs : s ≠ "" := by
    rintro rfl
    exact h rfl
  have hps : p ++ "," ++ s ≠ "" := by
    intro hnil
    have hlen := congrArg String.length hnil
    simp at hlen
  rw [resolveFromForwardedChain, if_neg hs] at h
  rw [resolveFromForwardedChain, if_neg hps, resolveFromForwardedChain, if_neg hs,
    forwardedHops_append, List.reverse_append]
  exact walkHops_append trustedProxies _ _ h

/-! ### Behind a trusted peer -/

/-- The connection comes from a trusted proxy, or through a trusted socket that names no peer. -/
def TrustedPeer (pf : ProxyConf) (remoteAddr : Option String) : Prop :=
  (∃ a, IpAddress.ipAddress (remoteAddr.getD "") = some a ∧
      InTrustedNetwork pf.trustedProxies a) ∨
    pf.trustedUnixSocket = true ∧ remoteAddr.getD "" = ""

/-- Behind a trusted peer a header that resolves decides. -/
theorem resolveClientIp_of_trustedPeer {pf : ProxyConf} {remoteAddr : Option String} {s : String}
    (hpeer : TrustedPeer pf remoteAddr) (hs : resolveFromForwardedChain s pf.trustedProxies ≠ "") :
    resolveClientIp pf ⟨remoteAddr, some s⟩ = resolveFromForwardedChain s pf.trustedProxies := by
  rw [TrustedPeer, ← isTrustedProxy_iff] at hpeer
  simp only [resolveClientIp, Option.getD_some]
  rw [if_pos hpeer, if_pos hs]

/-- **A forged prefix is powerless behind a trusted peer.** Whatever a client puts in front of a
header that resolves, the request is attributed to the same address, one of no trusted network. -/
theorem resolveClientIp_forged_front (pf : ProxyConf) (remoteAddr : Option String) (p s : String)
    (hpeer : TrustedPeer pf remoteAddr) (hs : resolveFromForwardedChain s pf.trustedProxies ≠ "") :
    resolveClientIp pf ⟨remoteAddr, some (p ++ "," ++ s)⟩ =
        resolveClientIp pf ⟨remoteAddr, some s⟩ ∧
      ∃ a, IpAddress.ipAddress (resolveClientIp pf ⟨remoteAddr, some s⟩) = some a ∧
        ∀ cidr ∈ pf.trustedProxies, ∀ network, IpAddress.ipNetwork cidr = some network →
          network.contains a = false := by
  have hps := resolveFromForwardedChain_append pf.trustedProxies p s hs
  have hforged : resolveClientIp pf ⟨remoteAddr, some (p ++ "," ++ s)⟩ =
      resolveFromForwardedChain (p ++ "," ++ s) pf.trustedProxies :=
    resolveClientIp_of_trustedPeer hpeer (by rw [hps]; exact hs)
  rw [hforged, hps, resolveClientIp_of_trustedPeer hpeer hs]
  refine ⟨rfl, ?_⟩
  rw [resolveFromForwardedChain] at hs ⊢
  split
  · rename_i hempty
    rw [if_pos hempty] at hs
    exact absurd rfl hs
  · rename_i hempty
    rw [if_neg hempty] at hs
    obtain ⟨a, ha, hout⟩ := walkHops_spec pf.trustedProxies _ hs
    refine ⟨a, ha, fun cidr hcidr network hnetwork ↦ ?_⟩
    rw [← Bool.not_eq_true]
    exact fun hin ↦ hout ⟨cidr, hcidr, network, hnetwork, hin⟩

/-- Two proxies in front of the site, and an entry of the setting that is no network. -/
def twoProxies : ProxyConf := ⟨["10.0.0.0/8", "internal"], false, true⟩

/-- A client that sends a whole chain of its own, trusted hops and blanks included. -/
theorem resolveClientIp_forged_front_twoProxies :
    resolveClientIp twoProxies
        ⟨some "10.0.0.1", some ("1.1.1.1, ,10.9.9.9" ++ "," ++ "203.0.113.9, 10.0.0.2")⟩ =
      resolveClientIp twoProxies ⟨some "10.0.0.1", some "203.0.113.9, 10.0.0.2"⟩ :=
  (resolveClientIp_forged_front twoProxies (some "10.0.0.1") "1.1.1.1, ,10.9.9.9"
    "203.0.113.9, 10.0.0.2"
    (Or.inl (isTrustedProxy_iff.1 (by decide)))
    (by decide)).1

/-! ### In front of it -/

/-- The header names an address of its own at the leftmost place, the one the legacy flag takes. -/
def NamesOther (remoteAddr : String) (forwardedFor : Option String) : Prop :=
  isValidIp (leftmostHop (forwardedFor.getD "")) = true ∧
    leftmostHop (forwardedFor.getD "") ≠ remoteAddr

/-- An empty header has no leftmost address. -/
theorem isValidIp_leftmostHop_empty : isValidIp (leftmostHop "") = false := by decide

/-- A peer of no trusted network is resolved as itself, unless the legacy flag is on and its header
names another address. -/
theorem resolveClientIp_eq_remoteAddr_iff (pf : ProxyConf) (remoteAddr : String)
    (hne : remoteAddr ≠ "")
    (hout : ∀ a, IpAddress.ipAddress remoteAddr = some a → ¬InTrustedNetwork pf.trustedProxies a)
    (forwardedFor : Option String) :
    resolveClientIp pf ⟨some remoteAddr, forwardedFor⟩ = remoteAddr ↔
      ¬(pf.trustXForwardedFor = true ∧ NamesOther remoteAddr forwardedFor) := by
  have hpeer : ¬(isTrustedProxy remoteAddr pf.trustedProxies = true ∨
      (pf.trustedUnixSocket = true ∧ remoteAddr = "")) := by
    rintro (htrusted | ⟨-, hempty⟩)
    · obtain ⟨a, ha, hin⟩ := isTrustedProxy_iff.1 htrusted
      exact hout a ha hin
    · exact hne hempty
  simp only [resolveClientIp, Option.getD_some]
  rw [if_neg hpeer, NamesOther]
  by_cases hlegacy : pf.trustXForwardedFor = true ∧ forwardedFor.getD "" ≠ "" ∧
      isValidIp (leftmostHop (forwardedFor.getD "")) = true
  · rw [if_pos hlegacy]
    exact ⟨fun heq hother ↦ hother.2.2 heq,
      fun hno ↦ by_contra fun hother ↦ hno ⟨hlegacy.1, hlegacy.2.2, hother⟩⟩
  · rw [if_neg hlegacy]
    refine ⟨fun _ hother ↦ hlegacy ⟨hother.1, ?_, hother.2.1⟩, fun _ ↦ rfl⟩
    intro hempty
    have hvalid := hother.2.1
    rw [hempty, isValidIp_leftmostHop_empty] at hvalid
    cases hvalid

/-- There is a header that names another address than a given one. -/
theorem exists_namesOther (remoteAddr : String) : ∃ h : String, NamesOther remoteAddr (some h) := by
  by_cases hsame : "192.0.2.1" = remoteAddr
  · exact ⟨"192.0.2.2", by decide, by rw [← hsame]; decide⟩
  · exact ⟨"192.0.2.1", by decide, hsame⟩

/-- **When a direct peer cannot choose its address.** For a peer outside the trusted networks,
however many are configured, two headers give the peer's own address exactly when the legacy flag is
off or neither of them names another address; so all of them do exactly when the flag is off. -/
theorem direct_peer_iff (pf : ProxyConf) (remoteAddr : String) (hne : remoteAddr ≠ "")
    (hout : ∀ a, IpAddress.ipAddress remoteAddr = some a → ¬InTrustedNetwork pf.trustedProxies a) :
    (∀ h h' : Option String,
        (resolveClientIp pf ⟨some remoteAddr, h⟩ = resolveClientIp pf ⟨some remoteAddr, h'⟩ ∧
            resolveClientIp pf ⟨some remoteAddr, h⟩ = remoteAddr) ↔
          pf.trustXForwardedFor = false ∨
            ¬NamesOther remoteAddr h ∧ ¬NamesOther remoteAddr h') ∧
      ((∀ h h' : Option String,
          resolveClientIp pf ⟨some remoteAddr, h⟩ = resolveClientIp pf ⟨some remoteAddr, h'⟩ ∧
            resolveClientIp pf ⟨some remoteAddr, h⟩ = remoteAddr) ↔
        pf.trustXForwardedFor = false) := by
  have hself := resolveClientIp_eq_remoteAddr_iff pf remoteAddr hne hout
  have hpair : ∀ h h' : Option String,
      (resolveClientIp pf ⟨some remoteAddr, h⟩ = resolveClientIp pf ⟨some remoteAddr, h'⟩ ∧
          resolveClientIp pf ⟨some remoteAddr, h⟩ = remoteAddr) ↔
        pf.trustXForwardedFor = false ∨ ¬NamesOther remoteAddr h ∧ ¬NamesOther remoteAddr h' := by
    intro h h'
    have hboth : (resolveClientIp pf ⟨some remoteAddr, h⟩ =
          resolveClientIp pf ⟨some remoteAddr, h'⟩ ∧
        resolveClientIp pf ⟨some remoteAddr, h⟩ = remoteAddr) ↔
        resolveClientIp pf ⟨some remoteAddr, h⟩ = remoteAddr ∧
          resolveClientIp pf ⟨some remoteAddr, h'⟩ = remoteAddr :=
      ⟨fun ⟨heq, hra⟩ ↦ ⟨hra, heq ▸ hra⟩, fun ⟨hra, hra'⟩ ↦ ⟨hra.trans hra'.symm, hra⟩⟩
    rw [hboth, hself h, hself h']
    rcases hflag : pf.trustXForwardedFor with - | -
    · simp
    · simp
  refine ⟨hpair, fun hall ↦ ?_, fun hoff h h' ↦ (hpair h h').2 (Or.inl hoff)⟩
  -- with the flag on, some header does name another address
  obtain ⟨header, hother⟩ := exists_namesOther remoteAddr
  exact ((hpair (some header) none).1 (hall (some header) none)).resolve_right
    fun hno ↦ hno.1 hother

/-- A peer that is no trusted proxy, with the legacy flag off. -/
theorem direct_peer_flag_off :
    resolveClientIp ⟨["10.0.0.0/8"], false, false⟩ ⟨some "203.0.113.9", some "198.51.100.1"⟩ =
      "203.0.113.9" :=
  (((direct_peer_iff ⟨["10.0.0.0/8"], false, false⟩ "203.0.113.9" (by decide)
    (fun a ha hin ↦ absurd (isTrustedProxy_iff.2 ⟨a, ha, hin⟩) (by decide))).2.2 rfl)
    (some "198.51.100.1") none).2

/-- **The legacy flag overrides the trusted proxies**: a peer outside them is attributed to the
address it wrote. -/
theorem direct_peer_chooses :
    ¬∀ (pf : ProxyConf) (remoteAddr : String), pf.trustedProxies ≠ [] → remoteAddr ≠ "" →
      (∀ a, IpAddress.ipAddress remoteAddr = some a → ¬InTrustedNetwork pf.trustedProxies a) →
      ∀ h h' : Option String,
        resolveClientIp pf ⟨some remoteAddr, h⟩ = resolveClientIp pf ⟨some remoteAddr, h'⟩ ∧
          resolveClientIp pf ⟨some remoteAddr, h⟩ = remoteAddr := by
  intro hall
  have hself := (hall twoProxies "203.0.113.9" (by decide) (by decide)
    (fun a ha hin ↦ absurd (isTrustedProxy_iff.2 ⟨a, ha, hin⟩) (by decide))
    (some "198.51.100.1") none).2
  exact absurd hself (by decide)

end DjangoWaf
