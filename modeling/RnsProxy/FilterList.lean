import RnsProxy.Library.Rules
import RnsProxy.Filter

/-!
# Filter lists

What a list of filters as a whole lets through: the last filter that covers a request decides, and
a request no filter covers is refused. The list of a forward server is read this way at the end:
it opens the listed ports of the local host and nothing else.
-/

namespace RnsProxy

/-! ## What a filter covers -/

/-- The loopback addresses: the IPv4 network 127.0.0.0/8 and the IPv6 address `::1`. -/
def IpAddr.Loopback : IpAddr → Prop
  | .v4 addr => addr.Loopback
  | .v6 addr => addr.toNat = 1

/-- The IP address belongs to the class of addresses. -/
def AddressFilter.Contains : AddressFilter → IpAddr → Prop
  | all, _ => True
  | address filter, ip => ip = filter
  | privateNet, .v4 addr => addr.Rfc1918
  | privateNet, .v6 addr => addr.UniqueLocal
  | localhost, ip => ip.Loopback

/-- The port meets the condition. -/
def PortFilterType.Meets : PortFilterType → UInt16 → Prop
  | single checkingPort, port => port = checkingPort
  | all, _ => True

/-- The filter is about a request for `addr` over `portType`. -/
structure Filter.Covers (filter : Filter) (addr : SocketAddr) (portType : PortType) : Prop where
  /-- The protocols of the filter include the one of the request. -/
  protocol : filter.portFilter.portType = portType ∨ filter.portFilter.portType = .tcpUdp
  /-- The class of addresses contains the IP address. -/
  address : filter.addressFilter.Contains addr.ip
  /-- The port meets the condition of the filter. -/
  port : filter.portFilter.portFilter.Meets addr.port

/-- The filter is not one of the other protocol. -/
def Filter.concerns (filter : Filter) (portType : PortType) : Bool :=
  filter.portFilter.portType = portType || filter.portFilter.portType = .tcpUdp

theorem PortType.matches_iff (own portType : PortType) :
    own.matches portType = true ↔ own = portType ∨ own = .tcpUdp := by
  cases own <;> cases portType <;> decide

theorem AddressFilter.filter_iff (filter : AddressFilter) (addr : SocketAddr) :
    filter.filter addr = true ↔ filter.Contains addr.ip := by
  rcases addr with ⟨addr | addr, port⟩ <;> cases filter <;>
    simp [AddressFilter.filter, AddressFilter.Contains, IpAddr.Loopback, Ipv4Addr.isPrivate_iff,
      Ipv4Addr.isLoopback_iff, Ipv6Addr.isUniqueLocal_iff, Ipv6Addr.isLoopback_iff]

theorem PortFilter.filter_iff (filter : PortFilter) (addr : SocketAddr) :
    filter.filter addr = true ↔ filter.portFilter.Meets addr.port := by
  rcases filter with ⟨_ | _, portType⟩ <;> simp [PortFilter.filter, PortFilterType.Meets]

theorem Filter.applies_iff (filter : Filter) (addr : SocketAddr) (portType : PortType) :
    filter.applies addr portType = true ↔ filter.Covers addr portType := by
  rw [Filter.applies, Bool.and_eq_true, Bool.and_eq_true, PortType.matches_iff,
    AddressFilter.filter_iff, PortFilter.filter_iff]
  constructor
  · rintro ⟨⟨protocol, address⟩, port⟩
    exact ⟨protocol, address, port⟩
  · intro covers
    exact ⟨⟨covers.protocol, covers.address⟩, covers.port⟩

theorem Filter.concerns_of_applies {filter : Filter} {addr : SocketAddr} {portType : PortType}
    (applies : filter.applies addr portType = true) : filter.concerns portType = true := by
  have protocol := ((filter.applies_iff addr portType).mp applies).protocol
  simpa [Filter.concerns] using protocol

/-! ## The last filter that covers a request decides -/

/-- The verdict of a filter that applies. -/
def Filter.includes (filter : Filter) : Bool :=
  match filter.filterResult with
  | .excluded => false
  | .included => true

theorem Filter.includes_iff (filter : Filter) :
    filter.includes = true ↔ filter.filterResult = .included := by
  rcases filter with ⟨addressFilter, portFilter, _ | _⟩ <;> simp [Filter.includes]

theorem allowedIp_eq_lastMatch (addr : SocketAddr) (config : FilterConfig) (portType : PortType) :
    allowedIp addr config portType =
      Rules.lastMatch (·.applies addr portType) Filter.includes false config.filters :=
  rfl

/-- `allowed_ip` accepts a request exactly when some filter that covers it includes it and no later
filter that covers it excludes it. An appended list decides the requests it covers and no others,
and the filters of the other protocol play no part, wherever they stand. -/
theorem allowedIp_last_match_wins (config : FilterConfig) (addr : SocketAddr)
    (portType : PortType) :
    (allowedIp addr config portType = true ↔
      ∃ above filter below, config.filters = above ++ filter :: below ∧
        filter.Covers addr portType ∧ filter.filterResult = .included ∧
        ∀ later ∈ below, later.Covers addr portType → later.filterResult ≠ .excluded) ∧
    (∀ appended : FilterConfig,
      ((∃ filter ∈ appended.filters, filter.Covers addr portType) →
        allowedIp addr ⟨config.filters ++ appended.filters⟩ portType =
          allowedIp addr appended portType) ∧
      ((¬ ∃ filter ∈ appended.filters, filter.Covers addr portType) →
        allowedIp addr ⟨config.filters ++ appended.filters⟩ portType =
          allowedIp addr config portType)) ∧
    ∀ config' : FilterConfig,
      config'.filters.filter (·.concerns portType) =
        config.filters.filter (·.concerns portType) →
      allowedIp addr config' portType = allowedIp addr config portType := by
  refine ⟨?_, fun appended => ⟨fun covered => ?_, fun uncovered => ?_⟩, fun config' same => ?_⟩
  · have allows_iff (filter : Filter) : filter.includes = true ↔
        filter.filterResult ≠ .excluded := by
      cases result : filter.filterResult <;> simp [Filter.includes, result]
    simp only [allowedIp_eq_lastMatch, Rules.lastMatch_eq_true_iff, Filter.applies_iff]
    simp only [← Filter.includes_iff, ← allows_iff]
  · simp only [← Filter.applies_iff] at covered
    rw [allowedIp_eq_lastMatch, allowedIp_eq_lastMatch, Rules.lastMatch_append]
    exact Rules.lastMatch_eq_of_applies covered false
  · simp only [← Filter.applies_iff] at uncovered
    rw [allowedIp_eq_lastMatch, allowedIp_eq_lastMatch, Rules.lastMatch_append]
    exact Rules.lastMatch_of_not_applies fun filter filter_mem applies =>
      uncovered ⟨filter, filter_mem, applies⟩
  · rw [allowedIp_eq_lastMatch, allowedIp_eq_lastMatch]
    exact Rules.lastMatch_congr (fun _ => Filter.concerns_of_applies) same

/-- The local web server that the documented list opens on top of the block flags is decided by the
appended filter over TCP and by the list above it over UDP. -/
theorem allowedIp_local_web_server :
    let web : Filter :=
      { addressFilter := .localhost, portFilter := { portFilter := .single 80, portType := .tcp },
        filterResult := .included }
    let addr : SocketAddr := ⟨.v4 .LOCALHOST, 80⟩
    let config := serverConfig true true
    allowedIp addr ⟨config.filters ++ [web]⟩ .tcp = allowedIp addr ⟨[web]⟩ .tcp ∧
      allowedIp addr ⟨config.filters ++ [web]⟩ .udp = allowedIp addr config .udp ∧
      allowedIp addr ⟨web :: config.filters⟩ .udp = allowedIp addr config .udp := by
  intro web addr config
  have covers (portType : PortType) : web.Covers addr portType ↔ portType = .tcp := by
    rw [← Filter.applies_iff]
    cases portType <;> decide
  refine ⟨?_, ?_, ?_⟩
  · apply ((allowedIp_last_match_wins config addr .tcp).2.1 ⟨[web]⟩).1
    exact ⟨web, List.mem_singleton_self web, (covers .tcp).mpr rfl⟩
  · apply ((allowedIp_last_match_wins config addr .udp).2.1 ⟨[web]⟩).2
    rintro ⟨filter, filter_mem, covered⟩
    obtain rfl := List.mem_singleton.mp filter_mem
    cases (covers .udp).mp covered
  · apply (allowedIp_last_match_wins config addr .udp).2.2 ⟨web :: config.filters⟩
    rfl

/-- A list of inclusions accepts the requests some filter covers. -/
theorem allowedIp_iff_of_included {config : FilterConfig}
    (included : ∀ filter ∈ config.filters, filter.filterResult = .included) (addr : SocketAddr)
    (portType : PortType) :
    allowedIp addr config portType = true ↔
      ∃ filter ∈ config.filters, filter.Covers addr portType := by
  rw [allowedIp_eq_lastMatch, Rules.lastMatch_eq_true_iff]
  constructor
  · rintro ⟨above, filter, below, split, applies, _⟩
    exact ⟨filter, by simp [split], (filter.applies_iff addr portType).mp applies⟩
  · rintro ⟨filter, filter_mem, covers⟩
    obtain ⟨above, below, split⟩ := List.append_of_mem filter_mem
    refine ⟨above, filter, below, split, (filter.applies_iff addr portType).mpr covers,
      filter.includes_iff.mpr (included filter filter_mem), fun later later_mem _ => ?_⟩
    exact later.includes_iff.mpr (included later (by simp [split, later_mem]))

/-! ## Forward servers -/

/-- The filter a forward server lists for a port. -/
def forwardFilter (portType : PortType) (port : UInt16) : Filter where
  addressFilter := .localhost
  portFilter := { portFilter := .single port, portType }
  filterResult := .included

/-- `connect_vec_merging_forward`: one filter for each listed port. -/
def connectVecMergingForward (tcpPort udpPort bothPort : List UInt16) : FilterConfig where
  filters :=
    tcpPort.map (forwardFilter .tcp) ++ udpPort.map (forwardFilter .udp) ++
      bothPort.map (forwardFilter .tcpUdp)

theorem covers_forwardFilter (own portType : PortType) (port : UInt16) (addr : SocketAddr) :
    (forwardFilter own port).Covers addr portType ↔
      (own = portType ∨ own = .tcpUdp) ∧ addr.ip.Loopback ∧ addr.port = port := by
  constructor
  · intro covers
    exact ⟨covers.protocol, covers.address, covers.port⟩
  · rintro ⟨protocol, address, port⟩
    exact ⟨protocol, address, port⟩

theorem exists_covers_forwardFilter (own portType : PortType) (ports : List UInt16)
    (addr : SocketAddr) :
    (∃ filter ∈ ports.map (forwardFilter own), filter.Covers addr portType) ↔
      (own = portType ∨ own = .tcpUdp) ∧ addr.ip.Loopback ∧ addr.port ∈ ports := by
  simp only [List.mem_map, exists_exists_and_eq_and, covers_forwardFilter]
  constructor
  · rintro ⟨port, port_mem, protocol, loopback, rfl⟩
    exact ⟨protocol, loopback, port_mem⟩
  · rintro ⟨protocol, loopback, port_mem⟩
    exact ⟨addr.port, port_mem, protocol, loopback, rfl⟩

theorem allowedIp_forward_iff (tcpPort udpPort bothPort : List UInt16) (addr : SocketAddr)
    (portType : PortType) :
    allowedIp addr (connectVecMergingForward tcpPort udpPort bothPort) portType = true ↔
      addr.ip.Loopback ∧
        (portType = .tcp ∧ addr.port ∈ tcpPort ∨ portType = .udp ∧ addr.port ∈ udpPort ∨
          addr.port ∈ bothPort) := by
  have included : ∀ filter ∈ (connectVecMergingForward tcpPort udpPort bothPort).filters,
      filter.filterResult = .included := by
    intro filter filter_mem
    simp only [connectVecMergingForward, List.mem_append, List.mem_map] at filter_mem
    rcases filter_mem with (⟨port, _, rfl⟩ | ⟨port, _, rfl⟩) | ⟨port, _, rfl⟩ <;> rfl
  rw [allowedIp_iff_of_included included]
  simp only [connectVecMergingForward, List.mem_append, or_and_right, exists_or,
    exists_covers_forwardFilter]
  cases portType <;> simp <;> tauto

/-- A forward server accepts a TCP request exactly when it goes to a loopback address and to a port
of the TCP or of the common list, and a UDP request exactly when it goes to a loopback address and
to a port of the UDP or of the common list. -/
theorem allowedIp_connectVecMergingForward (tcpPort udpPort bothPort : List UInt16)
    (addr : SocketAddr) :
    (allowedIp addr (connectVecMergingForward tcpPort udpPort bothPort) .tcp = true ↔
      addr.ip.Loopback ∧ (addr.port ∈ tcpPort ∨ addr.port ∈ bothPort)) ∧
    (allowedIp addr (connectVecMergingForward tcpPort udpPort bothPort) .udp = true ↔
      addr.ip.Loopback ∧ (addr.port ∈ udpPort ∨ addr.port ∈ bothPort)) := by
  constructor <;> rw [allowedIp_forward_iff] <;> simp

end RnsProxy
