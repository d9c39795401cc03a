import ModelDock.Outbound.Address
import ModelDock.Text.Runtime

/-!
# The addresses that outbound clients dial

Supplier endpoints, webhooks and price fetches check the URL and the addresses of hosts that others name. The
first two leave out the blocks that are reserved without being private; the third refuses them.
-/

namespace ModelDock.Outbound

open Text Address List Option Bool

variable {ips : List Address}

/-- Refused by the verification of suppliers. -/
def isPrivateOrSpecial (ip : Address) : Bool :=
  !ip.isGlobalUnicast || ip.isPrivate || ip.isLoopback || ip.isLinkLocalUnicast || ip.isLinkLocalMulticast ||
    ip.isUnspecified || ip.isMulticast

/-- Refused by the delivery of webhooks. -/
def unsafeWebhookIP (ip : Address) : Bool :=
  ip.isPrivate || ip.isLoopback || ip.isLinkLocalUnicast || ip.isLinkLocalMulticast || ip.isUnspecified ||
    ip.isMulticast

/-- A block of IPv6 addresses, by its first bytes. -/
def Block.v6 (first : List UInt8) (ones : ℕ) : Block :=
  Block.leading (first ++ List.replicate (16 - first.length) 0) ones

/-- The block of the IPv6 address of the host itself. -/
def Block.loopback6 : Block := Block.leading (List.replicate 15 0 ++ [1]) 128

/-- The blocks that the fetch of prices refuses besides. -/
def blocked : List Block :=
  [.leading [0, 0, 0, 0] 8, .leading [100, 64, 0, 0] 10, .leading [192, 0, 0, 0] 24, .leading [192, 0, 2, 0] 24,
    .leading [198, 18, 0, 0] 15, .leading [198, 51, 100, 0] 24, .leading [203, 0, 113, 0] 24,
    .leading [240, 0, 0, 0] 4, .v6 [] 128, .loopback6, .v6 [0x01, 0x00] 64,
    .v6 [0x20, 0x01, 0x0d, 0xb8] 32, .v6 [0xfc] 7, .v6 [0xfe, 0x80] 10, .v6 [0xff] 8]

/-- Accepted by the fetch of prices. -/
def isPublicIP (ip : Address) : Bool :=
  !(ip.isPrivate || ip.isLoopback || ip.isLinkLocalUnicast || ip.isLinkLocalMulticast || ip.isUnspecified ||
    ip.isMulticast) && blocked.all fun block => !block.contains ip

/-- A URL as it is parsed. -/
structure Url where
  (scheme host hostname port : String)
  hasUser : Bool
  (fragment rawQuery : String)

/-- What the name service answers at some time: the addresses of each host, or none on an error. -/
abbrev Resolver := String → Option (List Address)

variable {resolver : Resolver}

/-- A connection that a client opens: the host it asks for, what the name service answers then, and which
addresses let it connect. -/
structure Connection where
  host : String
  resolver : Resolver
  accepts : Address → Bool

/-- The addresses that are tried one after the other until one of them lets the client connect. -/
def tried (accepts : Address → Bool) : List Address → List Address
  | [] => []
  | ip :: rest => ip :: if accepts ip then [] else tried accepts rest

section Clients

variable (go : Runtime)

/-- A name without one trailing dot. -/
def trimDot (name : String) : String := if name.toList.getLast? = some '.' then
  String.ofList name.toList.dropLast else name

/-- The checked addresses of a supplier's endpoint. -/
def validateEndpointURL (url : Option Url) (resolver : Resolver) : Option (List Address) := do
  let u ← url
  guard (u.scheme = "https" ∧ u.host ≠ "" ∧ u.hasUser = false ∧ u.fragment = "" ∧ u.rawQuery = "")
  guard (u.port = "" ∨ u.port = "443")
  let host := trimDot (go.toLower u.hostname)
  guard (host ≠ "" ∧ '[' ∉ host.toList)
  let addresses ← resolver host
  guard (addresses ≠ [] ∧ ∀ ip ∈ addresses, isPrivateOrSpecial ip.normalize = false)
  return addresses.map Address.normalize

/-- The configuration of the delivery of webhooks. -/
structure Dispatcher where
  (allowHTTP allowPrivateNetwork : Bool)

/-- The target of a webhook may be connected to. -/
def Dispatcher.validateTarget (d : Dispatcher) (url : Option Url) (resolver : Resolver) : Bool :=
  match url with
  | none => false
  | some u => u.hostname ≠ "" && !u.hasUser && (u.scheme = "https" || d.allowHTTP && u.scheme = "http") &&
      (d.allowPrivateNetwork ||
        (resolver u.hostname).any fun ips => ips ≠ [] && ips.all fun ip => !unsafeWebhookIP ip)

/-- The addresses that a connection of a webhook dials. -/
def Dispatcher.dialContext (d : Dispatcher) (c : Connection) : List Address :=
  match c.resolver c.host with
  | none => []
  | some ips => tried c.accepts (ips.filter fun ip => d.allowPrivateNetwork || !unsafeWebhookIP ip)

/-- The host of a source of prices with its checked addresses. -/
def validateSource (allowedHosts : List String) (url : Option Url) (resolver : Resolver) :
    Option (String × List Address) := do
  let u ← url
  guard (u.scheme = "https" ∧ u.hasUser = false ∧ u.hostname ≠ "" ∧ u.fragment = "")
  let host := go.toLower u.hostname
  guard (allowedHosts.any fun candidate => go.equalFold (trimSpace candidate) host)
  let addresses ← resolver host
  guard (addresses ≠ [] ∧ ∀ ip ∈ addresses, isPublicIP ip)
  return (host, addresses)

/-- A client with its configuration. -/
inductive Client
  | supplierVerification
  | webhookDelivery (d : Dispatcher)
  | priceFetch (allowedHosts : List String)

/-- The addresses that a client dials for one connection of a call, whose URL it checked before. The
connection after a redirect is one more; only prices are fetched through redirects, and only from the
host that was checked. -/
def Client.dialled (client : Client) (url : Option Url) (checked : Resolver) (c : Connection) : List Address :=
  match client with
  | .supplierVerification =>
    match validateEndpointURL go url checked, validateEndpointURL go url c.resolver with
    | some _, some ips => if ips.any isPrivateOrSpecial then [] else ips.head?.toList
    | _, _ => []
  | .webhookDelivery d => if d.validateTarget url checked then d.dialContext c else []
  | .priceFetch allowedHosts =>
    match validateSource go allowedHosts url checked with
    | some (host, addresses) => if go.equalFold c.host host then tried c.accepts addresses else []
    | none => []

/-- The client may connect to private networks. -/
def Client.allowsPrivate : Client → Bool
  | .webhookDelivery d => d.allowPrivateNetwork
  | _ => false

end Clients

/-- The blocks that are reserved without being private, local or for groups. -/
def reservedBlocks : List Block :=
  [.leading [0, 0, 0, 0] 8, .leading [100, 64, 0, 0] 10, .leading [192, 0, 0, 0] 24, .leading [192, 0, 2, 0] 24,
    .leading [198, 18, 0, 0] 15, .leading [198, 51, 100, 0] 24, .leading [203, 0, 113, 0] 24,
    .leading [240, 0, 0, 0] 4, .v6 [0x01, 0x00] 64, .v6 [0x20, 0x01, 0x0d, 0xb8] 32]

/-- The address is in a reserved block. -/
def isReserved (ip : Address) : Bool := reservedBlocks.any fun block => block.contains ip

variable {ip : Address}

theorem byte_of_contains_v6 {block : Block} {i : ℕ} {x m : UInt8} (h : block.contains ip)
    (hln : block.network.length = 16) (hnet : block.network[i]? = some x)
    (hmask : block.mask[i]? = some m) : x &&& m = Address.byte ip.bytes i &&& m :=
  bytes_normalize_of_none (Block.to4_of_contains h hln) ▸ Block.byte_of_contains h hnet hmask

theorem isUnspecified_of_contains (h : (Block.v6 [] 128).contains ip) : ip.isUnspecified := by
  have hto4 := Block.to4_of_contains h rfl
  have hby := Block.bytes_of_contains_full (replicate 16 0) h
  rw [bytes_normalize_of_none hto4] at hby
  exact (test_of_none hto4).trans (decide_eq_true hby)

theorem isLoopback_of_contains (h : Block.loopback6.contains ip) : ip.isLoopback := by
  have hto4 := Block.to4_of_contains h rfl
  have hby := Block.bytes_of_contains_full (replicate 15 0 ++ [1]) h
  rw [bytes_normalize_of_none hto4] at hby
  exact (test_of_none hto4).trans (decide_eq_true hby)

theorem isPrivate_of_contains (h : (Block.v6 [0xfc] 7).contains ip) : ip.isPrivate := by
  have hbyte : 0xfc &&& 0xfe = byte ip.bytes 0 &&& 0xfe := byte_of_contains_v6 h rfl rfl rfl
  exact (test_of_none (Block.to4_of_contains h rfl)).trans (decide_eq_true hbyte.symm)

theorem isLinkLocalUnicast_of_contains (h : (Block.v6 [0xfe, 0x80] 10).contains ip) :
    ip.isLinkLocalUnicast := by
  have hfs : 0xfe &&& 0xff = byte ip.bytes 0 &&& 0xff := byte_of_contains_v6 h rfl rfl rfl
  have hsc : 0x80 &&& 0xc0 = byte ip.bytes 1 &&& 0xc0 := byte_of_contains_v6 h rfl rfl rfl
  have hall : byte ip.bytes 0 &&& 0xff = byte ip.bytes 0 := UInt8.and_neg_one
  rw [hall] at hfs
  refine (test_of_none (Block.to4_of_contains h rfl)).trans ?_
  exact and_eq_true_iff.mpr ⟨decide_eq_true hfs.symm, decide_eq_true hsc.symm⟩

theorem isMulticast_of_contains (h : (Block.v6 [0xff] 8).contains ip) : ip.isMulticast := by
  have hfs : 0xff &&& 0xff = byte ip.bytes 0 &&& 0xff := byte_of_contains_v6 h rfl rfl rfl
  have hall : byte ip.bytes 0 &&& 0xff = byte ip.bytes 0 := UInt8.and_neg_one
  rw [hall] at hfs
  exact (test_of_none (Block.to4_of_contains h rfl)).trans (decide_eq_true hfs.symm)

theorem isPublicIP_iff (hrc : unsafeWebhookIP ip = false) :
    isPublicIP ip ↔ isReserved ip = false := by
  have hpb : isPublicIP ip = (!unsafeWebhookIP ip && blocked.all fun block => !block.contains ip) := rfl
  have hout {block : Block} {refused : Bool} (href : refused = false)
      (h : block.contains ip → refused) : block.contains ip = false :=
    Bool.eq_false_iff.mpr fun hcn => Bool.noConfusion (href.symm.trans (h hcn))
  rw [hpb, hrc]
  simp only [unsafeWebhookIP, Bool.or_eq_false_iff] at hrc
  obtain ⟨⟨⟨⟨⟨hpr, hloop⟩, hun⟩, -⟩, huns⟩, hmul⟩ := hrc
  simp [blocked, isReserved, reservedBlocks, hout huns isUnspecified_of_contains,
    hout hloop isLoopback_of_contains, hout hpr isPrivate_of_contains,
    hout hun isLinkLocalUnicast_of_contains, hout hmul isMulticast_of_contains]

theorem unsafeWebhookIP_of_isPrivateOrSpecial (h : isPrivateOrSpecial ip = false) :
    unsafeWebhookIP ip = false := by
  simp only [isPrivateOrSpecial, unsafeWebhookIP, or_eq_false_iff] at h ⊢
  tauto

variable {go : Runtime} {client : Client} {url : Option Url} {checked : Resolver}

/-- The addresses that a client may come to dial for a connection: after its checks, the first one a
supplier's endpoint has then, those of a webhook's host that are not refused, and those of a source of
prices that were checked. -/
def Client.Offered (go : Runtime) (client : Client) (url : Option Url) (checked : Resolver) (host : String)
    (resolver : Resolver) (ip : Address) : Prop :=
  match client with
  | .supplierVerification => (validateEndpointURL go url checked).isSome ∧
    ∃ rest, validateEndpointURL go url resolver = some (ip :: rest)
  | .webhookDelivery d => d.validateTarget url checked ∧
    ∃ ips, resolver host = some ips ∧ ip ∈ ips ∧ unsafeWebhookIP ip = false
  | .priceFetch allowedHosts => ∃ name addresses, validateSource go allowedHosts url checked = some (name, addresses) ∧
    go.equalFold host name ∧ ip ∈ addresses

theorem tried_refused (ips : List Address) : tried (fun _ => false) ips = ips := by
  induction ips with
  | nil => rfl
  | cons _ _ ih => simp [tried, ih]

theorem exists_mem_tried : (∃ accepts, ip ∈ tried accepts ips) ↔ ip ∈ ips := by
  constructor
  · rintro ⟨accepts, h⟩
    induction ips with
    | nil => exact h
    | cons _ _ ih =>
      rcases mem_cons.mp h with rfl | h
      · exact mem_cons_self
      · split at h
        · cases h
        · exact mem_cons_of_mem _ (ih h)
  · intro h
    exact ⟨fun _ => false, (tried_refused ips).symm ▸ h⟩

theorem validateEndpointURL_accepts
    (h : validateEndpointURL go url resolver = some ips) : ∀ ip ∈ ips, isPrivateOrSpecial ip = false := by
  simp only [validateEndpointURL, bind_eq_bind, bind_eq_some_iff, guard_eq_some'] at h
  obtain ⟨_, -, -, -, -, -, -, -, _, -, -, ⟨-, hch⟩, hips⟩ := h
  cases hips
  intro ip hip
  obtain ⟨address, hadd, rfl⟩ := mem_map.mp hip
  exact hch address hadd

theorem exists_dialled_iff (hpr : client.allowsPrivate = false) (host : String) (resolver : Resolver) :
    (∃ accepts, ip ∈ client.dialled go url checked ⟨host, resolver, accepts⟩) ↔
      client.Offered go url checked host resolver ip := by
  cases client with
  | supplierVerification =>
    simp only [Client.dialled, Client.Offered]
    cases hfs : validateEndpointURL go url checked with
    | none => simp
    | some _ =>
      cases hsc : validateEndpointURL go url resolver with
      | none => simp
      | some ips =>
        have hnone : ips.any isPrivateOrSpecial = false := by
          simpa using validateEndpointURL_accepts hsc
        cases ips <;> simp [hnone, eq_comm]
  | webhookDelivery d =>
    have hd : d.allowPrivateNetwork = false := hpr
    simp only [Client.dialled, Client.Offered]
    cases hvl : d.validateTarget url checked with
    | false => simp
    | true =>
      cases hips : resolver host with
      | none => simp [Dispatcher.dialContext, hips]
      | some ips => simp [Dispatcher.dialContext, hips, hd, exists_mem_tried]
  | priceFetch allowedHosts =>
    simp only [Client.dialled, Client.Offered]
    cases hsr : validateSource go allowedHosts url checked with
    | none => simp
    | some source =>
      obtain ⟨name, _⟩ := source
      cases hhost : go.equalFold host name with
      | false => simp [hhost]
      | true => simp [exists_mem_tried]

theorem not_unsafe_of_offered {host : String}
    (h : client.Offered go url checked host resolver ip) : unsafeWebhookIP ip = false := by
  cases client with
  | supplierVerification =>
    obtain ⟨-, _, hips⟩ := h
    exact unsafeWebhookIP_of_isPrivateOrSpecial (validateEndpointURL_accepts hips ip mem_cons_self)
  | webhookDelivery _ =>
    obtain ⟨-, _, -, -, hsafe⟩ := h
    exact hsafe
  | priceFetch _ =>
    obtain ⟨_, _, hsr, -, hip⟩ := h
    simp only [validateSource, bind_eq_bind, bind_eq_some_iff, guard_eq_some'] at hsr
    obtain ⟨_, -, -, -, -, -, _, -, -, ⟨-, hpb⟩, han⟩ := hsr
    cases han
    exact not_eq_true' _ ▸ (and_eq_true_iff.mp (hpb ip hip)).1

/-- Every address that a client dials is one that the fetch of prices accepts, whichever attempts to
connect fail, exactly when no address the client is offered for the connection is in a reserved block. -/
theorem dialled_public_iff (go : Runtime) (client : Client) (hprivate : client.allowsPrivate = false)
    (url : Option Url) (checked : Resolver) (host : String) (resolver : Resolver) :
    (∀ accepts, ∀ ip ∈ client.dialled go url checked ⟨host, resolver, accepts⟩, isPublicIP ip) ↔
      ∀ ip, client.Offered go url checked host resolver ip → isReserved ip = false := by
  constructor
  · intro hpb ip hip
    obtain ⟨accepts, hdl⟩ := (exists_dialled_iff hprivate host resolver).mpr hip
    exact (isPublicIP_iff (not_unsafe_of_offered hip)).mp (hpb accepts ip hdl)
  · intro hfree accepts ip hdl
    have hip := (exists_dialled_iff hprivate host resolver).mp ⟨accepts, hdl⟩
    exact (isPublicIP_iff (not_unsafe_of_offered hip)).mpr (hfree ip hip)

/-- An endpoint of a supplier or a target of a webhook. -/
def demoUrl : Url := ⟨"https", "example.com", "example.com", "", false, "", ""⟩

/-- A name service that knows one address. -/
def answering (bytes : List UInt8) (h : bytes.length = 4 ∨ bytes.length = 16) : Resolver :=
  fun _ => some [⟨bytes, h⟩]

/-- A webhook to a host with a public address: the address is dialled, and it is public. -/
theorem dialled_public_demo :
    (∃ accepts, ⟨[93, 184, 216, 34], .inl rfl⟩ ∈ (Client.webhookDelivery ⟨false, false⟩).dialled asciiRuntime
      (some demoUrl) (answering [93, 184, 216, 34] (.inl rfl))
      ⟨"example.com", answering [93, 184, 216, 34] (.inl rfl), accepts⟩) ∧
    ∀ accepts, ∀ ip ∈ (Client.webhookDelivery ⟨false, false⟩).dialled asciiRuntime (some demoUrl)
      (answering [93, 184, 216, 34] (.inl rfl)) ⟨"example.com", answering [93, 184, 216, 34] (.inl rfl), accepts⟩,
      isPublicIP ip := by
  refine ⟨⟨fun _ => true, by decide +kernel⟩, (dialled_public_iff asciiRuntime _ rfl _ _ _ _).mpr ?_⟩
  rintro ip ⟨-, _, hips, hip, -⟩
  cases hips
  rw [mem_singleton.mp hip]
  decide +kernel

/-- An address of the shared carrier network, which is not private, is dialled for suppliers and for
webhooks, and refused for prices. -/
theorem carrier_address_dialled :
    (⟨[100, 64, 0, 1], .inl rfl⟩ : Address) ∈ Client.supplierVerification.dialled asciiRuntime (some demoUrl)
        (answering [100, 64, 0, 1] (.inl rfl)) ⟨"example.com", answering [100, 64, 0, 1] (.inl rfl), fun _ => true⟩ ∧
      ⟨[100, 64, 0, 1], .inl rfl⟩ ∈ (Client.webhookDelivery ⟨false, false⟩).dialled asciiRuntime (some demoUrl)
        (answering [100, 64, 0, 1] (.inl rfl)) ⟨"example.com", answering [100, 64, 0, 1] (.inl rfl), fun _ => true⟩ ∧
      isPublicIP ⟨[100, 64, 0, 1], .inl rfl⟩ = false := by
  decide +kernel

end ModelDock.Outbound
