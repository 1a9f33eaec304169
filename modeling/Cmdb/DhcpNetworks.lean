import Cmdb.Ailsa
import Cmdb.DottedQuad
import Cmdb.FirstFree
import Cmdb.InetWords

/-!
# The networks of dhcpd

`write_dhcp_config_file` goes through the build domains, and each takes the first interface
of its network that no domain took before. A network is then written if it has a domain and
an interface (`mem_writeNetworks_iff`). But a domain is stopped only by the lack of an
interface : a network with two of both is written twice (`offeredOnce_iff`).
-/

namespace Cmdb

open CString DottedQuad InetWords FirstFree

/-! ## The lists -/

/-- An entry of `getifaddrs` with an address : the name, and the address and the netmask, in
the byte order of the network, if it is of the family `AF_INET`. -/
structure IfAddr where
  name : CStr
  inet : Option (BitVec 32 × BitVec 32)
deriving DecidableEq, Repr

/-- `ailsa_iface_s`. -/
structure AilsaIface where
  name : CStr
  flag : ℕ
  ip : BitVec 32
  sip : BitVec 32
  fip : BitVec 32
  nm : BitVec 32
  bc : BitVec 32
  nw : BitVec 32
deriving DecidableEq, Repr

/-- The interface `ailsa_get_iface_list` makes of an address. -/
def ifaceOf (name : CStr) (addr netmask : BitVec 32) : AilsaIface :=
  let ip := htonl addr
  let nm := htonl netmask
  let nw := ip &&& nm
  let bc := nw ||| ~~~nm
  { name := name.take serviceLen, flag := 0, ip := ip, nm := nm, nw := nw, bc := bc
    sip := nw + 1, fip := bc - 1 }

/-- `ailsa_get_iface_list`. -/
def ailsaGetIfaceList (iface : List IfAddr) : List AilsaIface :=
  iface.filterMap fun p => p.inet.map fun (addr, netmask) => ifaceOf p.name addr netmask

/-- A row of `BUILD_DOMAIN_NETWORKS`. -/
structure DomainNetworkRow where
  domain : CStr
  ns : BitVec 64
  startIp : BitVec 64
  gateway : BitVec 64
  netmask : BitVec 64
deriving DecidableEq, Repr

/-- The fields of `ailsa_dhcp_s` that the list of domains fills. -/
structure AilsaDhcp where
  dname : CStr
  network : CStr
  gateway : CStr
  nameserver : CStr
  netmask : CStr
  gw : BitVec 64
  nw : BitVec 64
  nm : BitVec 64
  ns : BitVec 64
deriving DecidableEq, Repr

/-- `inet_ntop` of the low 32 bits. -/
def ntop (n : BitVec 64) : CStr := inetNtop (n.setWidth 32).toNat

/-- `ailsa_get_bdom_list`, once the rows are there. -/
def ailsaGetBdomList (rows : List DomainNetworkRow) : List AilsaDhcp :=
  rows.map fun e =>
    let nw := e.startIp &&& e.netmask
    { dname := e.domain.take domainLen
      ns := e.ns, gw := e.gateway, nm := e.netmask, nw := nw
      nameserver := ntop e.ns, gateway := ntop e.gateway, netmask := ntop e.netmask
      network := ntop nw }

/-! ## The file -/

/-- The inner loop of `write_dhcp_config_file` : the first interface of the network that is
not used is marked. -/
def markIface (nw : BitVec 64) : List AilsaIface → Option (List AilsaIface)
  | [] => none
  | iface :: ice =>
    if iface.nw.setWidth 64 = nw ∧ iface.flag = 0 then some ({ iface with flag := 1 } :: ice)
    else (markIface nw ice).map (iface :: ·)

/-- The domains a block is written for, and the interfaces as they are left. -/
def writeNetworks : List AilsaDhcp → List AilsaIface → List AilsaDhcp × List AilsaIface
  | [], ice => ([], ice)
  | dhcp :: dom, ice =>
    match markIface dhcp.nw ice with
    | some ice' => (dhcp :: (writeNetworks dom ice').1, (writeNetworks dom ice').2)
    | none => writeNetworks dom ice

/-- A block of the file. -/
def sharedNetwork (dhcp : AilsaDhcp) : CStr :=
  "shared-network ".toList ++ dhcp.dname ++ " \x7b\n\toption domain-name-servers ".toList ++
    dhcp.nameserver ++ ";\n\toption domain-search \"".toList ++ dhcp.dname ++
    "\";\n\toption routers ".toList ++ dhcp.gateway ++ ";\n\tsubnet ".toList ++ dhcp.network ++
    " netmask ".toList ++ dhcp.netmask ++ " \x7b\n\t\tauthoratative;\n\t\tnext-server ".toList ++
    dhcp.gateway ++ ";\n\t\tfilename \"pxelinux.0\";\n\t\x7d\n\x7d\n\n".toList

/-- `write_dhcp_config_file` : what is in `dhcpd.networks` once it could be opened. -/
def writeDhcpConfigFile (ice : List AilsaIface) (dom : List AilsaDhcp) : CStr :=
  (writeNetworks dom ice).1.flatMap sharedNetwork

/-- The networks are written once at most, and those are written that have a domain and an
interface. -/
structure OfferedOnce (ice : List AilsaIface) (dom blocks : List AilsaDhcp) : Prop where
  nodup : (blocks.map AilsaDhcp.network).Nodup
  mem_iff : ∀ nw, nw ∈ blocks.map AilsaDhcp.nw ↔
    nw ∈ dom.map AilsaDhcp.nw ∧ nw ∈ ice.map fun i => i.nw.setWidth 64

/-! ## Interfaces as slots -/

/-- An interface is a slot of its network, taken once its flag is set. -/
def ifaceSlots : Slots AilsaIface (BitVec 64) where
  key i := i.nw.setWidth 64
  free i := i.flag = 0
  take i := { i with flag := 1 }
  key_take _ := rfl
  free_take _ := rfl

variable {ice : List AilsaIface} {dom : List AilsaDhcp} {addrs : List IfAddr}
  {rows : List DomainNetworkRow}

theorem markIface_eq (nw : BitVec 64) : ∀ ice, markIface nw ice = takeFirst ifaceSlots nw ice
  | [] => rfl
  | i :: ice => by
    rw [markIface, takeFirst, markIface_eq nw ice]
    simp only [ifaceSlots, decide_eq_true_eq]

theorem writeNetworks_eq : ∀ (dom : List AilsaDhcp) (ice : List AilsaIface),
    writeNetworks dom ice = serve ifaceSlots AilsaDhcp.nw dom ice
  | [], _ => rfl
  | d :: dom, ice => by
    rw [writeNetworks, serve, markIface_eq]
    rcases takeFirst ifaceSlots d.nw ice with _ | ice'
    · exact writeNetworks_eq dom ice
    · dsimp only
      rw [writeNetworks_eq dom ice']

/-- The interfaces of the list are not used yet. -/
theorem freeAt_ailsaGetIfaceList (addrs : List IfAddr) (nw : BitVec 64) :
    freeAt ifaceSlots (ailsaGetIfaceList addrs) nw =
      ((ailsaGetIfaceList addrs).map fun i => i.nw.setWidth 64).count nw := by
  have hflag : ∀ i ∈ ailsaGetIfaceList addrs, i.flag = 0 := by
    intro i hi
    obtain ⟨p, -, hp⟩ := List.mem_filterMap.mp hi
    obtain ⟨⟨addr, netmask⟩, -, rfl⟩ := Option.map_eq_some_iff.mp hp
    rfl
  rw [freeAt, List.count_eq_countP, List.countP_map]
  refine List.countP_congr fun i hi => ?_
  simp [ifaceSlots, hflag i hi]

/-- A network is written exactly if it is that of a domain and of an interface. -/
theorem mem_writeNetworks_iff (addrs : List IfAddr) (dom : List AilsaDhcp) (nw : BitVec 64) :
    nw ∈ (writeNetworks dom (ailsaGetIfaceList addrs)).1.map AilsaDhcp.nw ↔
      nw ∈ dom.map AilsaDhcp.nw ∧ nw ∈ (ailsaGetIfaceList addrs).map fun i => i.nw.setWidth 64 := by
  rw [writeNetworks_eq, mem_served_iff, freeAt_ailsaGetIfaceList, List.count_pos_iff, and_comm]

/-! ## Networks that are written twice -/

theorem ntop_setWidth_inj {m n : BitVec 32} :
    ntop (m.setWidth 64) = ntop (n.setWidth 64) ↔ m = n := by
  refine ⟨fun h => ?_, fun h => by rw [h]⟩
  have hm : (m.setWidth 64).setWidth 32 = m := by simp
  have hn : (n.setWidth 64).setWidth 32 = n := by simp
  rw [ntop, ntop, hm, hn] at h
  have hquad := congrArg inetPton h
  rw [inetPton_inetNtop, inetPton_inetNtop, Option.some_inj] at hquad
  have hnat := congrArg Quad.toNat hquad
  rw [Quad.toNat_ofNat m.isLt, Quad.toNat_ofNat n.isLt] at hnat
  exact BitVec.eq_of_toNat_eq hnat

/-- The text of a block names its network : no two networks of interfaces have one text. -/
theorem nodup_network_iff (addrs : List IfAddr) (rows : List DomainNetworkRow) :
    ((writeNetworks (ailsaGetBdomList rows) (ailsaGetIfaceList addrs)).1.map
        AilsaDhcp.network).Nodup ↔
      ((writeNetworks (ailsaGetBdomList rows) (ailsaGetIfaceList addrs)).1.map
        AilsaDhcp.nw).Nodup := by
  have hface := mem_writeNetworks_iff addrs (ailsaGetBdomList rows)
  have hsub : (writeNetworks (ailsaGetBdomList rows) (ailsaGetIfaceList addrs)).1.Sublist
      (ailsaGetBdomList rows) := by
    rw [writeNetworks_eq]
    exact serve_sublist _ _
  generalize (writeNetworks (ailsaGetBdomList rows) (ailsaGetIfaceList addrs)).1 = blocks
    at hface hsub
  have htext : blocks.map AilsaDhcp.network = (blocks.map AilsaDhcp.nw).map ntop := by
    rw [List.map_map]
    refine List.map_congr_left fun d hd => ?_
    obtain ⟨e, -, rfl⟩ := List.mem_map.mp (hsub.subset hd)
    rfl
  rw [htext]
  refine ⟨List.Nodup.of_map ntop, fun h => h.map_on fun m hm n hn hmn => ?_⟩
  obtain ⟨i, -, rfl⟩ := List.mem_map.mp ((hface m).mp hm).2
  obtain ⟨j, -, rfl⟩ := List.mem_map.mp ((hface n).mp hn).2
  rw [ntop_setWidth_inj.mp hmn]

/-- The networks are offered once exactly if none has two interfaces and two domains. -/
theorem offeredOnce_iff (addrs : List IfAddr) (rows : List DomainNetworkRow) :
    OfferedOnce (ailsaGetIfaceList addrs) (ailsaGetBdomList rows)
        (writeNetworks (ailsaGetBdomList rows) (ailsaGetIfaceList addrs)).1 ↔
      ∀ nw, ((ailsaGetIfaceList addrs).map fun i => i.nw.setWidth 64).count nw ≤ 1 ∨
        ((ailsaGetBdomList rows).map AilsaDhcp.nw).count nw ≤ 1 := by
  have hnodup := nodup_network_iff addrs rows
  rw [writeNetworks_eq, nodup_served_iff, ← writeNetworks_eq] at hnodup
  simp only [freeAt_ailsaGetIfaceList] at hnodup
  exact ⟨fun h => hnodup.mp h.nodup, fun h => ⟨hnodup.mpr h, mem_writeNetworks_iff addrs _⟩⟩

theorem not_offeredOnce :
    ¬∀ addrs rows, OfferedOnce (ailsaGetIfaceList addrs) (ailsaGetBdomList rows)
      (writeNetworks (ailsaGetBdomList rows) (ailsaGetIfaceList addrs)).1 := by
  intro h
  -- two interfaces and two domains of `10.0.0.0/24`
  let face (name : String) (ip : BitVec 32) : IfAddr :=
    { name := name.toList, inet := some (htonl ip, htonl 4294967040) }
  let domain (name : String) (startIp : BitVec 64) : DomainNetworkRow :=
    { domain := name.toList, ns := 167772161, startIp := startIp, gateway := 167772161
      netmask := 4294967040 }
  have hnodup := (h [face "eth0" 167772162, face "eth1" 167772163]
    [domain "a.lab" 167772176, domain "b.lab" 167772192]).nodup
  exact absurd hnodup (by decide)

end Cmdb
