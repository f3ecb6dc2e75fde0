import Mathlib.Data.Nat.Bitwise
import RnsProxy.Frame

/-!
# Socket filter

The server decides by a list of filters which addresses a client may reach. The list is read from
the top and the last filter that applies wins; an address to which no filter applies is refused.
This file gives the filters, the lists the command line builds, and the exact addresses on which
the block flags of the server do what their documentation says.
-/

namespace RnsProxy

/-! ## Addresses -/

/-- An IPv4 address by its octets. -/
structure Ipv4Addr where
  /-- First octet. -/
  a : UInt8
  /-- Second octet. -/
  b : UInt8
  /-- Third octet. -/
  c : UInt8
  /-- Fourth octet. -/
  d : UInt8
  deriving DecidableEq, Repr

/-- An IPv6 address by its segments. -/
structure Ipv6Addr where
  /-- First segment. -/
  s₀ : UInt16
  /-- Second segment. -/
  s₁ : UInt16
  /-- Third segment. -/
  s₂ : UInt16
  /-- Fourth segment. -/
  s₃ : UInt16
  /-- Fifth segment. -/
  s₄ : UInt16
  /-- Sixth segment. -/
  s₅ : UInt16
  /-- Seventh segment. -/
  s₆ : UInt16
  /-- Eighth segment. -/
  s₇ : UInt16
  deriving DecidableEq, Repr

/-- An IP address of either family. -/
inductive IpAddr
  /-- IPv4. -/
  | v4 (addr : Ipv4Addr)
  /-- IPv6. -/
  | v6 (addr : Ipv6Addr)
  deriving DecidableEq, Repr

/-- A socket address. -/
structure SocketAddr where
  /-- The IP address. -/
  ip : IpAddr
  /-- The port. -/
  port : UInt16
  deriving DecidableEq, Repr

/-- A SOCKS5 target: a socket address, or a host name that is still to be resolved. -/
inductive TargetAddr
  /-- A socket address. -/
  | ip (addr : SocketAddr)
  /-- A host name and a port. -/
  | domain (host : String) (port : UInt16)
  deriving DecidableEq, Repr

namespace Ipv4Addr

/-- `Ipv4Addr::is_private`. -/
def isPrivate (addr : Ipv4Addr) : Bool :=
  addr.a == 10 || (addr.a == 172 && 16 ≤ addr.b && addr.b ≤ 31) ||
    (addr.a == 192 && addr.b == 168)

/-- `Ipv4Addr::is_loopback`. -/
def isLoopback (addr : Ipv4Addr) : Bool :=
  addr.a == 127

/-- `Ipv4Addr::LOCALHOST`. -/
def LOCALHOST : Ipv4Addr := ⟨127, 0, 0, 1⟩

end Ipv4Addr

namespace Ipv6Addr

/-- `Ipv6Addr::is_unique_local`. -/
def isUniqueLocal (addr : Ipv6Addr) : Bool :=
  addr.s₀ &&& 0xfe00 == 0xfc00

/-- `Ipv6Addr::is_loopback`. -/
def isLoopback (addr : Ipv6Addr) : Bool :=
  addr == ⟨0, 0, 0, 0, 0, 0, 0, 1⟩

end Ipv6Addr

/-! ## Filters -/

/-- What an applicable filter decides. -/
inductive FilterResult
  /-- Refuse the address. -/
  | excluded
  /-- Accept the address. -/
  | included
  deriving DecidableEq, Repr

/-- The class of addresses a filter is about. -/
inductive AddressFilter
  /-- Every address. -/
  | all
  /-- One address. -/
  | address (ip : IpAddr)
  /-- Private networks. -/
  | privateNet
  /-- The local host. -/
  | localhost
  deriving DecidableEq, Repr

/-- `AddressFilter::filter`. -/
def AddressFilter.filter (self : AddressFilter) (addr : SocketAddr) : Bool :=
  match self with
  | all => true
  | address filter => addr.ip == filter
  | privateNet =>
      match addr.ip with
      | .v4 addr => addr.isPrivate
      | .v6 addr => addr.isUniqueLocal
  | localhost =>
      match addr.ip with
      | .v4 addr => addr.isLoopback
      | .v6 addr => addr.isLoopback

/-- The protocols a filter is about, and the protocol of a request. -/
inductive PortType
  /-- TCP. -/
  | tcp
  /-- UDP. -/
  | udp
  /-- Both protocols. -/
  | tcpUdp
  deriving DecidableEq, Repr

/-- The ports a filter is about. -/
inductive PortFilterType
  /-- One port. -/
  | single (port : UInt16)
  /-- Every port. -/
  | all
  deriving DecidableEq, Repr

/-- The ports and protocols of a filter. -/
structure PortFilter where
  /-- The ports. -/
  portFilter : PortFilterType
  /-- The protocols. -/
  portType : PortType
  deriving DecidableEq, Repr

/-- `PortFilter::filter`. -/
def PortFilter.filter (self : PortFilter) (addr : SocketAddr) : Bool :=
  match self.portFilter with
  | .single checkingPort => addr.port == checkingPort
  | .all => true

/-- One filter of the list. -/
structure Filter where
  /-- The addresses it is about. -/
  addressFilter : AddressFilter
  /-- The ports and protocols it is about. -/
  portFilter : PortFilter
  /-- What it decides. -/
  filterResult : FilterResult
  deriving DecidableEq, Repr

/-- A filter list, the last filter having the most priority. -/
structure FilterConfig where
  /-- The list. -/
  filters : List Filter
  deriving DecidableEq, Repr

/-- The protocols of a filter cover the protocol of a request. -/
def PortType.matches : PortType → PortType → Bool
  | .tcp, .tcp => true
  | .udp, .udp => true
  | .tcpUdp, _ => true
  | _, _ => false

/-- The filter applies to a request for `addr` over `portType`. -/
def Filter.applies (filter : Filter) (addr : SocketAddr) (portType : PortType) : Bool :=
  filter.portFilter.portType.matches portType && filter.addressFilter.filter addr &&
    filter.portFilter.filter addr

/-- `allowed_ip`: by default nothing is allowed, and each applicable filter overrides the ones
above it. -/
def allowedIp (addr : SocketAddr) (config : FilterConfig) (portType : PortType) : Bool :=
  config.filters.foldl
    (fun allowed filter =>
      if filter.applies addr portType then
        match filter.filterResult with
        | .excluded => false
        | .included => true
      else allowed)
    false

/-- `target_to_socket`, given what `resolve_dns` answered. -/
def targetToSocket (answer : Option TargetAddr) : Option SocketAddr :=
  match answer with
  | some (.ip socket) => some socket
  | some (.domain _ _) => none
  | none => none

/-- `filter_and_convert`, given what `resolve_dns` answered. -/
def filterAndConvert (answer : Option TargetAddr) (filterConfig : Option FilterConfig)
    (portType : PortType) : Option SocketAddr :=
  match targetToSocket answer with
  | none => none
  | some socket =>
      match filterConfig with
      | some config => if allowedIp socket config portType then some socket else none
      | none => some socket

/-- `filter_and_convert` returns the very address it has checked, and that is the one the resolver
answered. -/
theorem filterAndConvert_eq_some {answer : Option TargetAddr} {config : FilterConfig}
    {portType : PortType} {socket : SocketAddr} :
    filterAndConvert answer (some config) portType = some socket ↔
      answer = some (.ip socket) ∧ allowedIp socket config portType = true := by
  simp only [filterAndConvert, targetToSocket]
  rcases answer with _ | ⟨found⟩ | ⟨host, port⟩
  · simp
  · simp only [Option.some.injEq, TargetAddr.ip.injEq]
    split_ifs with allowed
    · constructor
      · intro found_eq
        obtain rfl := Option.some.inj found_eq
        exact ⟨rfl, allowed⟩
      · rintro ⟨rfl, _⟩
        rfl
    · constructor
      · intro impossible
        cases impossible
      · rintro ⟨rfl, allowed'⟩
        exact absurd allowed' allowed
  · simp

/-! ## The lists the command line builds -/

/-- The filter list of `Commands::Server`. -/
def serverConfig (localhostBlock privateNetworkBlock : Bool) : FilterConfig where
  filters :=
    [{ addressFilter := .all, portFilter := { portFilter := .all, portType := .tcpUdp },
        filterResult := .included }] ++
    (if localhostBlock then
      [{ addressFilter := .localhost, portFilter := { portFilter := .all, portType := .tcpUdp },
          filterResult := .excluded }]
    else []) ++
    (if privateNetworkBlock then
      [{ addressFilter := .privateNet, portFilter := { portFilter := .all, portType := .tcpUdp },
          filterResult := .excluded }]
    else [])

/-- The server refuses what one of its flags excludes, and nothing else. -/
theorem allowedIp_serverConfig (localhostBlock privateNetworkBlock : Bool) (addr : SocketAddr)
    (portType : PortType) :
    allowedIp addr (serverConfig localhostBlock privateNetworkBlock) portType =
      !(localhostBlock && AddressFilter.localhost.filter addr ||
        privateNetworkBlock && AddressFilter.privateNet.filter addr) := by
  have every_port (addressFilter : AddressFilter) (filterResult : FilterResult) :
      ({ addressFilter, portFilter := { portFilter := .all, portType := .tcpUdp },
          filterResult } : Filter).applies addr portType = addressFilter.filter addr := by
    simp [Filter.applies, PortType.matches, PortFilter.filter]
  have every_address : AddressFilter.all.filter addr = true := rfl
  cases localhostBlock <;> cases privateNetworkBlock <;>
    cases loopback_eq : AddressFilter.localhost.filter addr <;>
    cases private_eq : AddressFilter.privateNet.filter addr <;>
    simp [allowedIp, serverConfig, every_port, every_address, loopback_eq, private_eq]

/-! ## The addresses the block flags are about -/

/-- The value of an IPv4 address. -/
def Ipv4Addr.toNat (addr : Ipv4Addr) : ℕ :=
  ((addr.a.toNat * 2 ^ 8 + addr.b.toNat) * 2 ^ 8 + addr.c.toNat) * 2 ^ 8 + addr.d.toNat

/-- The value of an IPv6 address. -/
def Ipv6Addr.toNat (addr : Ipv6Addr) : ℕ :=
  ((((((addr.s₀.toNat * 2 ^ 16 + addr.s₁.toNat) * 2 ^ 16 + addr.s₂.toNat) * 2 ^ 16 +
    addr.s₃.toNat) * 2 ^ 16 + addr.s₄.toNat) * 2 ^ 16 + addr.s₅.toNat) * 2 ^ 16 +
    addr.s₆.toNat) * 2 ^ 16 + addr.s₇.toNat

/-- Membership in the network with the given prefix of `len` out of `width` bits. -/
def InNetwork (width len network value : ℕ) : Prop :=
  value / 2 ^ (width - len) = network / 2 ^ (width - len)

instance (width len network value : ℕ) : Decidable (InNetwork width len network value) :=
  inferInstanceAs (Decidable (_ = _))

/-- `addr` is the IPv4-mapped form `::ffff:a.b.c.d` of an IPv4 address. -/
def Ipv6Addr.Maps (addr : Ipv6Addr) (inner : Ipv4Addr) : Prop :=
  addr.toNat = 0xffff * 2 ^ 32 + inner.toNat

/-- The IPv4 loopback network 127.0.0.0/8. -/
def Ipv4Addr.Loopback (addr : Ipv4Addr) : Prop :=
  InNetwork 32 8 (127 * 2 ^ 24) addr.toNat

/-- The private networks of RFC 1918. -/
def Ipv4Addr.Rfc1918 (addr : Ipv4Addr) : Prop :=
  InNetwork 32 8 (10 * 2 ^ 24) addr.toNat ∨
    InNetwork 32 12 (172 * 2 ^ 24 + 16 * 2 ^ 16) addr.toNat ∨
    InNetwork 32 16 (192 * 2 ^ 24 + 168 * 2 ^ 16) addr.toNat

/-- The unique local network fc00::/7. -/
def Ipv6Addr.UniqueLocal (addr : Ipv6Addr) : Prop :=
  InNetwork 128 7 (0xfc00 * 2 ^ 112) addr.toNat

/-- The addresses that reach the host itself: the loopback addresses and the unspecified address of
either family, and the IPv4-mapped forms of the IPv4 ones. -/
def IpAddr.OwnHost : IpAddr → Prop
  | .v4 addr => addr.Loopback ∨ addr.toNat = 0
  | .v6 addr =>
      addr.toNat = 1 ∨ addr.toNat = 0 ∨
        ∃ inner, addr.Maps inner ∧ (inner.Loopback ∨ inner.toNat = 0)

/-- The addresses of private networks, the IPv4-mapped forms included. -/
def IpAddr.PrivateNetwork : IpAddr → Prop
  | .v4 addr => addr.Rfc1918
  | .v6 addr => addr.UniqueLocal ∨ ∃ inner, addr.Maps inner ∧ inner.Rfc1918

/-- The spellings of the host itself that the localhost filter does not know. -/
def IpAddr.UnlistedOwnHost : IpAddr → Prop
  | .v4 addr => addr.toNat = 0
  | .v6 addr => addr.toNat = 0 ∨ ∃ inner, addr.Maps inner ∧ (inner.Loopback ∨ inner.toNat = 0)

/-- The spellings of private addresses that the private filter does not know. -/
def IpAddr.UnlistedPrivate : IpAddr → Prop
  | .v4 _ => False
  | .v6 addr => ∃ inner, addr.Maps inner ∧ inner.Rfc1918

namespace Ipv4Addr

theorem isLoopback_iff (addr : Ipv4Addr) : addr.isLoopback = true ↔ addr.Loopback := by
  have bound_b := addr.b.toNat_lt
  have bound_c := addr.c.toNat_lt
  have bound_d := addr.d.toNat_lt
  simp only [isLoopback, Loopback, InNetwork, toNat, beq_iff_eq, ← UInt8.toNat_inj,
    UInt8.reduceToNat]
  omega

theorem isPrivate_iff (addr : Ipv4Addr) : addr.isPrivate = true ↔ addr.Rfc1918 := by
  have bound_b := addr.b.toNat_lt
  have bound_c := addr.c.toNat_lt
  have bound_d := addr.d.toNat_lt
  simp only [isPrivate, Rfc1918, InNetwork, toNat, beq_iff_eq, ← UInt8.toNat_inj,
    UInt8.reduceToNat, Bool.or_eq_true, Bool.and_eq_true, decide_eq_true_eq,
    UInt8.le_iff_toNat_le]
  omega

end Ipv4Addr

namespace Ipv6Addr

theorem and_fe00_eq_iff (segment : UInt16) :
    segment &&& 0xfe00 = 0xfc00 ↔ segment.toNat / 2 ^ 9 = 0xfc00 / 2 ^ 9 := by
  have bound := segment.toNat_lt
  have high : (segment.toNat &&& 0xfe00) / 2 ^ 9 = segment.toNat / 2 ^ 9 := by
    rw [← Nat.shiftRight_eq_div_pow, Nat.shiftRight_and_distrib,
      show 0xfe00 >>> 9 = 2 ^ 7 - 1 by rfl, Nat.and_two_pow_sub_one_eq_mod,
      Nat.shiftRight_eq_div_pow]
    omega
  have low : (segment.toNat &&& 0xfe00) % 2 ^ 9 = 0 := by
    rw [Nat.and_mod_two_pow]
    simp
  rw [← UInt16.toNat_inj, UInt16.toNat_and]
  simp only [UInt16.reduceToNat] at *
  omega

theorem isUniqueLocal_iff (addr : Ipv6Addr) : addr.isUniqueLocal = true ↔ addr.UniqueLocal := by
  have bound₁ := addr.s₁.toNat_lt
  have bound₂ := addr.s₂.toNat_lt
  have bound₃ := addr.s₃.toNat_lt
  have bound₄ := addr.s₄.toNat_lt
  have bound₅ := addr.s₅.toNat_lt
  have bound₆ := addr.s₆.toNat_lt
  have bound₇ := addr.s₇.toNat_lt
  simp only [isUniqueLocal, beq_iff_eq, and_fe00_eq_iff, UniqueLocal, InNetwork, toNat]
  omega

theorem isLoopback_iff (addr : Ipv6Addr) : addr.isLoopback = true ↔ addr.toNat = 1 := by
  have bound₁ := addr.s₁.toNat_lt
  have bound₂ := addr.s₂.toNat_lt
  have bound₃ := addr.s₃.toNat_lt
  have bound₄ := addr.s₄.toNat_lt
  have bound₅ := addr.s₅.toNat_lt
  have bound₆ := addr.s₆.toNat_lt
  have bound₇ := addr.s₇.toNat_lt
  rcases addr with ⟨s₀, s₁, s₂, s₃, s₄, s₅, s₆, s₇⟩
  simp only [isLoopback, beq_iff_eq, mk.injEq, toNat, ← UInt16.toNat_inj, UInt16.reduceToNat] at *
  omega

end Ipv6Addr

theorem Ipv4Addr.toNat_lt (addr : Ipv4Addr) : addr.toNat < 2 ^ 32 := by
  have bound_a := addr.a.toNat_lt
  have bound_b := addr.b.toNat_lt
  have bound_c := addr.c.toNat_lt
  have bound_d := addr.d.toNat_lt
  simp only [toNat]
  omega

/-- The localhost filter knows 127.0.0.0/8 and `::1`. -/
theorem localhost_filter_iff (addr : SocketAddr) :
    AddressFilter.localhost.filter addr = true ↔
      (∃ inner, addr.ip = .v4 inner ∧ inner.Loopback) ∨
        ∃ inner, addr.ip = .v6 inner ∧ inner.toNat = 1 := by
  rcases addr with ⟨inner | inner, port⟩
  · simp [AddressFilter.filter, Ipv4Addr.isLoopback_iff]
  · simp [AddressFilter.filter, Ipv6Addr.isLoopback_iff]

/-- The private filter knows the RFC 1918 networks and fc00::/7. -/
theorem privateNet_filter_iff (addr : SocketAddr) :
    AddressFilter.privateNet.filter addr = true ↔
      (∃ inner, addr.ip = .v4 inner ∧ inner.Rfc1918) ∨
        ∃ inner, addr.ip = .v6 inner ∧ inner.UniqueLocal := by
  rcases addr with ⟨inner | inner, port⟩
  · simp [AddressFilter.filter, Ipv4Addr.isPrivate_iff]
  · simp [AddressFilter.filter, Ipv6Addr.isUniqueLocal_iff]

theorem ownHost_iff (addr : SocketAddr) :
    addr.ip.OwnHost ↔
      AddressFilter.localhost.filter addr = true ∨ addr.ip.UnlistedOwnHost := by
  rw [localhost_filter_iff]
  rcases addr with ⟨inner | inner, port⟩ <;> simp [IpAddr.OwnHost, IpAddr.UnlistedOwnHost]

theorem privateNetwork_iff (addr : SocketAddr) :
    addr.ip.PrivateNetwork ↔
      AddressFilter.privateNet.filter addr = true ∨ addr.ip.UnlistedPrivate := by
  rw [privateNet_filter_iff]
  rcases addr with ⟨inner | inner, port⟩ <;> simp [IpAddr.PrivateNetwork, IpAddr.UnlistedPrivate]

/-- An unlisted spelling is known to neither filter. -/
theorem unlisted_not_filtered {addr : SocketAddr}
    (unlisted : addr.ip.UnlistedOwnHost ∨ addr.ip.UnlistedPrivate) :
    AddressFilter.localhost.filter addr = false ∧
      AddressFilter.privateNet.filter addr = false := by
  rw [← Bool.not_eq_true, ← Bool.not_eq_true, localhost_filter_iff, privateNet_filter_iff]
  rcases addr with ⟨inner | inner, port⟩
  · have unspecified : inner.toNat = 0 := by
      simpa [IpAddr.UnlistedOwnHost, IpAddr.UnlistedPrivate] using unlisted
    simp [Ipv4Addr.Loopback, Ipv4Addr.Rfc1918, InNetwork, unspecified]
  · have mapped : inner.toNat = 0 ∨ ∃ v4 : Ipv4Addr, inner.toNat = 0xffff * 2 ^ 32 + v4.toNat := by
      rcases unlisted with (unspecified | ⟨v4, maps, _⟩) | ⟨v4, maps, _⟩
      · exact .inl unspecified
      · exact .inr ⟨v4, maps⟩
      · exact .inr ⟨v4, maps⟩
    rcases mapped with unspecified | ⟨v4, maps⟩
    · simp [Ipv6Addr.UniqueLocal, InNetwork, unspecified]
    · have bound := v4.toNat_lt
      simp only [reduceCtorEq, false_and, exists_false, IpAddr.v6.injEq, exists_eq_left',
        false_or, Ipv6Addr.UniqueLocal, InNetwork, maps]
      omega

/-- The block flags do what they are for on a request: it is refused exactly when it goes to the
host itself and local addresses are blocked, or to a private network and these are blocked. -/
def BlockFlagsHold (localhostBlock privateNetworkBlock : Bool) (addr : SocketAddr)
    (portType : PortType) : Prop :=
  allowedIp addr (serverConfig localhostBlock privateNetworkBlock) portType = true ↔
    ¬ (localhostBlock = true ∧ addr.ip.OwnHost ∨
      privateNetworkBlock = true ∧ addr.ip.PrivateNetwork)

/-- The block flags do what they are for exactly on the requests that use no unlisted spelling of
an address the flag is about. -/
theorem blockFlagsHold_iff (localhostBlock privateNetworkBlock : Bool) (addr : SocketAddr)
    (portType : PortType) :
    BlockFlagsHold localhostBlock privateNetworkBlock addr portType ↔
      ¬ (localhostBlock = true ∧ addr.ip.UnlistedOwnHost ∨
        privateNetworkBlock = true ∧ addr.ip.UnlistedPrivate) := by
  have not_filtered := @unlisted_not_filtered addr
  simp only [BlockFlagsHold, allowedIp_serverConfig, ownHost_iff, privateNetwork_iff]
  generalize AddressFilter.localhost.filter addr = ownHost at *
  generalize AddressFilter.privateNet.filter addr = privateNet at *
  cases ownHost with
  | true =>
      obtain ⟨own, priv⟩ : ¬ addr.ip.UnlistedOwnHost ∧ ¬ addr.ip.UnlistedPrivate := by
        simpa using not_filtered
      cases localhostBlock <;> cases privateNetworkBlock <;> simp [own, priv]
  | false =>
      cases privateNet with
      | true =>
          obtain ⟨own, priv⟩ : ¬ addr.ip.UnlistedOwnHost ∧ ¬ addr.ip.UnlistedPrivate := by
            simpa using not_filtered
          cases localhostBlock <;> cases privateNetworkBlock <;> simp [own, priv]
      | false => cases localhostBlock <;> cases privateNetworkBlock <;> simp

/-- With both flags set the server lets a client reach `[::ffff:127.0.0.1]:22`. -/
theorem not_blockFlagsHold_mapped_loopback :
    ¬ BlockFlagsHold true true ⟨.v6 ⟨0, 0, 0, 0, 0, 0xffff, 0x7f00, 1⟩, 22⟩ .tcp := by
  have allowed : allowedIp ⟨.v6 ⟨0, 0, 0, 0, 0, 0xffff, 0x7f00, 1⟩, 22⟩
      (serverConfig true true) .tcp = true := by decide
  intro holds
  refine holds.mp allowed (.inl ⟨rfl, .inr (.inr ⟨⟨127, 0, 0, 1⟩, ?_, .inl ?_⟩)⟩)
  · simp [Ipv6Addr.Maps, Ipv6Addr.toNat, Ipv4Addr.toNat]
  · simp [Ipv4Addr.Loopback, InNetwork, Ipv4Addr.toNat]

end RnsProxy
