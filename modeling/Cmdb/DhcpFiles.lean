import Cmdb.Blocks
import Cmdb.DhcpNetworks

/-!
# The files of dhcpd

`dhcpd.hosts` has a block for each build and `dhcpd.networks` one for each network. Both are
written piece by piece, and here they are read as the configurations they stand for.
-/

namespace Cmdb

open CString DottedQuad InetWords FirstFree Blocks

/-! ## The code -/

/-- A row of `DHCP_INFORMATION`. -/
structure DhcpInfoRow where
  name : CStr
  macAddr : CStr
  ip : BitVec 64
  domain : CStr
deriving DecidableEq, Repr

/-- `ailsa_dhcp_conf_s`. -/
structure AilsaDhcpConf where
  name : CStr
  mac : CStr
  ip : CStr
  domain : CStr
deriving DecidableEq, Repr

/-- What `cbc_fill_dhcp_conf` makes of a row. -/
def DhcpInfoRow.conf (d : DhcpInfoRow) : AilsaDhcpConf where
  name := d.name.take domainLen
  mac := d.macAddr.take domainLen
  ip := ntop d.ip
  domain := d.domain.take domainLen

/-- `cbc_fill_dhcp_conf` : the head of the list is followed before the list is looked at. -/
def cbcFillDhcpConf : List DhcpInfoRow → Except AilsaError (List AilsaDhcpConf)
  | [] => .error .nullDeref
  | db => .ok (db.map DhcpInfoRow.conf)

/-- The line of a host. -/
def AilsaDhcpConf.line (d : AilsaDhcpConf) : CStr :=
  "host ".toList ++ d.name ++ " \x7b hardware ethernet ".toList ++ d.mac ++
    "; fixed-address ".toList ++ d.ip ++ "; option domain-name \"".toList ++ d.domain ++
    "\"; \x7d\n".toList

/-- `cbc_write_dhcp_config_file`. -/
def cbcWriteDhcpConfigFile (dhcp : List AilsaDhcpConf) : CStr := dhcp.flatMap AilsaDhcpConf.line

/-! ## Addresses -/

/-- The address in the low bits. -/
def quadOf (n : BitVec 64) : Quad := Quad.ofNat (n.setWidth 32).toNat

theorem inetPton_ntop (n : BitVec 64) : inetPton (ntop n) = some (quadOf n) := inetPton_inetNtop

theorem not_delimiter_of_isDigit {c : Char} (h : c.isDigit = true ∨ c = '.') : ¬Delimiter c := by
  rintro (hblank | rfl | hmark)
  · simp only [Char.isWhitespace, Bool.or_eq_true, decide_eq_true_eq] at hblank
    rcases hblank with ((rfl | rfl) | rfl) | rfl <;> exact absurd h (by decide)
  · exact absurd h (by decide)
  · rw [mark] at hmark
    split_ifs at hmark with hends hopens hcloses
    · exact absurd (hends ▸ h) (by decide)
    · exact absurd (hopens ▸ h) (by decide)
    · exact absurd (hcloses ▸ h) (by decide)
    · exact Bool.false_ne_true hmark

theorem isName_ntop (n : BitVec 64) : IsName (ntop n) where
  ne_nil hnil := by
    have hread := inetPton_ntop n
    rw [hnil] at hread
    cases hread
  chars _ hc := not_delimiter_of_isDigit (Quad.isDigit_or_dot_of_mem_text hc)

/-! ## Hosts -/

/-- A host as the server knows it. -/
structure DhcpHost where
  name : CStr
  hardware : CStr
  address : Quad
  domain : CStr
deriving DecidableEq, Repr

/-- The host that a block declares. -/
def readHost : Item → Option DhcpHost
  | .block [k, .word name] items =>
    if k = word "host" then do
      let hardware ← wordOf ["hardware", "ethernet"] items
      let ip ← wordOf ["fixed-address"] items
      let address ← inetPton ip
      let domain ← textOf ["option", "domain-name"] items
      return ⟨name, hardware, address, domain⟩
    else none
  | _ => none

/-- The hosts of a file. -/
def readHosts (s : CStr) : Option (List DhcpHost) := readAll readHost s

variable {d : AilsaDhcpConf}

/-- What is declared of a host. -/
def AilsaDhcpConf.statements (d : AilsaDhcpConf) : List Item :=
  [.statement [word "hardware", word "ethernet", .word d.mac],
    .statement [word "fixed-address", .word d.ip],
    .statement [word "option", word "domain-name", .text d.domain]]

/-- The block of a host. -/
def AilsaDhcpConf.item (d : AilsaDhcpConf) : Item :=
  .block [word "host", .word d.name] d.statements

/-- The texts of a host are words, and the domain stands between quotes. -/
structure AilsaDhcpConf.Clean (d : AilsaDhcpConf) : Prop where
  name : IsName d.name
  mac : IsName d.mac
  ip : IsName d.ip
  quote_notMem : '"' ∉ d.domain

theorem reads_line (h : d.Clean) : Reads (.plain []) d.line d.item.tokens (.plain []) := by
  have h1 : Reads (.plain []) "host ".toList [word "host"] (.plain []) :=
    .ofList rfl (by decide)
  have h2 : Reads (.plain []) " \x7b hardware ethernet ".toList
      [.opens, word "hardware", word "ethernet"] (.plain []) := .ofList rfl (by decide)
  have h3 : Reads (.plain []) "; fixed-address ".toList [.ends, word "fixed-address"]
      (.plain []) := .ofList rfl (by decide)
  have h4 : Reads (.plain []) "; option domain-name \"".toList
      [.ends, word "option", word "domain-name"] (.quoted []) := .ofList rfl (by decide)
  have h5 : Reads (.quoted d.domain) "\"; \x7d\n".toList
      [.text d.domain, .ends, .closes] (.plain []) := rfl
  have hip := ((h1.thenWord h.name ⟨' ', rfl, by decide⟩ h2).thenWord h.mac
    ⟨';', rfl, by decide⟩ h3).thenWord h.ip ⟨';', rfl, by decide⟩ h4
  exact hip.thenText h.quote_notMem h5

theorem clean_item (d : AilsaDhcpConf) : d.item.Clean := by
  simp [AilsaDhcpConf.item, AilsaDhcpConf.statements]

/-- The host that a row stands for. -/
def DhcpInfoRow.host (d : DhcpInfoRow) : DhcpHost where
  name := d.name.take domainLen
  hardware := d.macAddr.take domainLen
  address := quadOf d.ip
  domain := d.domain.take domainLen

theorem readHost_item (d : DhcpInfoRow) : readHost d.conf.item = some d.host := by
  have hmac : wordOf ["hardware", "ethernet"] d.conf.statements = some d.conf.mac := by
    simp [wordOf, Item.behind, AilsaDhcpConf.statements]
  have hip : wordOf ["fixed-address"] d.conf.statements = some d.conf.ip := by
    simp [wordOf, Item.behind, AilsaDhcpConf.statements]
  have hdomain : textOf ["option", "domain-name"] d.conf.statements = some d.conf.domain := by
    simp [textOf, Item.behind, AilsaDhcpConf.statements]
  have haddress : inetPton d.conf.ip = some (quadOf d.ip) := inetPton_ntop d.ip
  rw [AilsaDhcpConf.item, readHost, if_pos rfl, hmac, hip, hdomain]
  simp only [Option.bind_eq_bind, Option.bind_some, haddress]
  rfl

theorem readHosts_eq {db : List DhcpInfoRow} (hclean : ∀ d ∈ db, d.conf.Clean) :
    readHosts (cbcWriteDhcpConfigFile (db.map DhcpInfoRow.conf)) =
      some (db.map DhcpInfoRow.host) := by
  rw [cbcWriteDhcpConfigFile, List.flatMap_map]
  exact readAll_flatMap (fun r hr => reads_line (hclean r hr)) (fun r _ => clean_item r.conf)
    fun r _ => readHost_item r

/-- The file is read as the builds that it was made from, unless there are none : then the list is
followed all the same. -/
theorem readHosts_cbcWriteDhcpConfigFile {db : List DhcpInfoRow} (hne : db ≠ [])
    (hclean : ∀ d ∈ db, d.conf.Clean) : ∃ dhcp, cbcFillDhcpConf db = .ok dhcp ∧
      readHosts (cbcWriteDhcpConfigFile dhcp) = some (db.map DhcpInfoRow.host) := by
  obtain ⟨d, ds, rfl⟩ := List.exists_cons_of_ne_nil hne
  exact ⟨_, rfl, readHosts_eq hclean⟩

/-- A build with an address in `10.0.0.0/24`. -/
def webInfo : DhcpInfoRow := ⟨"web".toList, "52:54:00:1a:2b:3c".toList, 167772167, "lab".toList⟩

theorem readHosts_cbcWriteDhcpConfigFile_web : ∃ dhcp, cbcFillDhcpConf [webInfo] = .ok dhcp ∧
    readHosts (cbcWriteDhcpConfigFile dhcp) = some ([webInfo].map DhcpInfoRow.host) :=
  readHosts_cbcWriteDhcpConfigFile (by decide) (List.forall_mem_singleton.mpr
    ⟨.of_isNameChars (by decide), .of_isNameChars (by decide), isName_ntop _,
      by decide⟩)

/-! ## Networks -/

/-- A network as the server knows it. -/
structure DhcpNetwork where
  name : CStr
  nameserver : Quad
  search : CStr
  router : Quad
  subnet : Quad
  netmask : Quad
  nextServer : Quad
  filename : CStr
deriving DecidableEq, Repr

/-- The address behind the only statement with these first words. -/
def addressOf (key : List String) (items : List Item) : Option Quad :=
  (wordOf key items).bind inetPton

/-- The network that a block declares. -/
def readNetwork : Item → Option DhcpNetwork
  | .block [k, .word name] items =>
    if k = word "shared-network" then do
      let ([s, .word nw, m, .word nm], inner) ← theBlock items | none
      guard (s = word "subnet" ∧ m = word "netmask")
      let nameserver ← addressOf ["option", "domain-name-servers"] items
      let search ← textOf ["option", "domain-search"] items
      let router ← addressOf ["option", "routers"] items
      let subnet ← inetPton nw
      let netmask ← inetPton nm
      let nextServer ← addressOf ["next-server"] inner
      let filename ← textOf ["filename"] inner
      return ⟨name, nameserver, search, router, subnet, netmask, nextServer, filename⟩
    else none
  | _ => none

/-- The networks of a file. -/
def readNetworks (s : CStr) : Option (List DhcpNetwork) := readAll readNetwork s

/-- What is declared in the subnet of a network. -/
def subnetStatements (dhcp : AilsaDhcp) : List Item :=
  [.statement [word "authoratative"], .statement [word "next-server", .word dhcp.gateway],
    .statement [word "filename", .text "pxelinux.0".toList]]

/-- What is declared of a network. -/
def networkStatements (dhcp : AilsaDhcp) : List Item :=
  [.statement [word "option", word "domain-name-servers", .word dhcp.nameserver],
    .statement [word "option", word "domain-search", .text dhcp.dname],
    .statement [word "option", word "routers", .word dhcp.gateway],
    .block [word "subnet", .word dhcp.network, word "netmask", .word dhcp.netmask]
      (subnetStatements dhcp)]

/-- The block of a network. -/
def networkItem (dhcp : AilsaDhcp) : Item :=
  .block [word "shared-network", .word dhcp.dname] (networkStatements dhcp)

variable {r : DomainNetworkRow}

/-- The network of a row. -/
def DomainNetworkRow.network (r : DomainNetworkRow) : BitVec 64 := r.startIp &&& r.netmask

/-- What the list of domains has of a row. -/
def DomainNetworkRow.dhcp (r : DomainNetworkRow) : AilsaDhcp where
  dname := r.domain.take domainLen
  network := ntop r.network
  gateway := ntop r.gateway
  nameserver := ntop r.ns
  netmask := ntop r.netmask
  gw := r.gateway
  nw := r.network
  nm := r.netmask
  ns := r.ns

/-- The network that a row stands for. -/
def DomainNetworkRow.declared (r : DomainNetworkRow) : DhcpNetwork where
  name := r.domain.take domainLen
  nameserver := quadOf r.ns
  search := r.domain.take domainLen
  router := quadOf r.gateway
  subnet := quadOf r.network
  netmask := quadOf r.netmask
  nextServer := quadOf r.gateway
  filename := "pxelinux.0".toList

theorem ailsaGetBdomList_eq (rows : List DomainNetworkRow) :
    ailsaGetBdomList rows = rows.map DomainNetworkRow.dhcp := rfl

theorem reads_sharedNetwork (h : IsName (r.domain.take domainLen)) :
    Reads (.plain []) (sharedNetwork r.dhcp) (networkItem r.dhcp).tokens (.plain []) := by
  have hquote : '"' ∉ r.domain.take domainLen := fun hmem => h.chars _ hmem (by decide)
  have h1 : Reads (.plain []) "shared-network ".toList [word "shared-network"] (.plain []) :=
    .ofList rfl (by decide)
  have h2 : Reads (.plain []) " \x7b\n\toption domain-name-servers ".toList
      [.opens, word "option", word "domain-name-servers"] (.plain []) :=
    .ofList rfl (by decide)
  have h3 : Reads (.plain []) ";\n\toption domain-search \"".toList
      [.ends, word "option", word "domain-search"] (.quoted []) := .ofList rfl (by decide)
  have h4 : Reads (.quoted r.dhcp.dname) "\";\n\toption routers ".toList
      [.text r.dhcp.dname, .ends, word "option", word "routers"] (.plain []) := rfl
  have h5 : Reads (.plain []) ";\n\tsubnet ".toList [.ends, word "subnet"] (.plain []) :=
    .ofList rfl (by decide)
  have h6 : Reads (.plain []) " netmask ".toList [word "netmask"] (.plain []) :=
    .ofList rfl (by decide)
  have h7 : Reads (.plain []) " \x7b\n\t\tauthoratative;\n\t\tnext-server ".toList
      [.opens, word "authoratative", .ends, word "next-server"] (.plain []) :=
    .ofList rfl (by decide)
  have h8 : Reads (.plain []) ";\n\t\tfilename \"pxelinux.0\";\n\t\x7d\n\x7d\n\n".toList
      [.ends, word "filename", .text "pxelinux.0".toList, .ends, .closes, .closes] (.plain []) :=
    .ofList rfl (by decide)
  have hoptions := ((h1.thenWord h ⟨' ', rfl, by decide⟩ h2).thenWord (isName_ntop r.ns)
    ⟨';', rfl, by decide⟩ h3).thenText hquote h4
  have hsubnet := (hoptions.thenWord (isName_ntop r.gateway) ⟨';', rfl, by decide⟩ h5).thenWord
    (isName_ntop r.network) ⟨' ', rfl, by decide⟩ h6
  have hinner := hsubnet.thenWord (isName_ntop r.netmask) ⟨' ', rfl, by decide⟩ h7
  have hfile := hinner.thenWord (isName_ntop r.gateway) ⟨';', rfl, by decide⟩ h8
  simp only [List.nil_append, List.cons_append] at hfile
  simp only [networkItem, networkStatements, subnetStatements, itemsTokens, Item.tokens,
    List.cons_append, List.nil_append, List.append_nil]
  exact hfile

theorem clean_networkItem (dhcp : AilsaDhcp) : (networkItem dhcp).Clean := by
  simp [networkItem, networkStatements, subnetStatements]

theorem readNetwork_networkItem (r : DomainNetworkRow) :
    readNetwork (networkItem r.dhcp) = some r.declared := by
  have hns : wordOf ["option", "domain-name-servers"] (networkStatements r.dhcp) =
      some (ntop r.ns) := by
    simp [wordOf, Item.behind, networkStatements, DomainNetworkRow.dhcp, List.filterMap_cons]
  have hsearch : textOf ["option", "domain-search"] (networkStatements r.dhcp) =
      some (r.domain.take domainLen) := by
    simp [textOf, Item.behind, networkStatements, DomainNetworkRow.dhcp, List.filterMap_cons]
  have hrouter : wordOf ["option", "routers"] (networkStatements r.dhcp) =
      some (ntop r.gateway) := by
    simp [wordOf, Item.behind, networkStatements, DomainNetworkRow.dhcp, List.filterMap_cons]
  have hnext : wordOf ["next-server"] (subnetStatements r.dhcp) = some (ntop r.gateway) := by
    simp [wordOf, Item.behind, subnetStatements, DomainNetworkRow.dhcp]
  have hfile : textOf ["filename"] (subnetStatements r.dhcp) = some "pxelinux.0".toList := by
    simp [textOf, Item.behind, subnetStatements]
  have hblock : theBlock (networkStatements r.dhcp) = some ([word "subnet", .word (ntop r.network),
      word "netmask", .word (ntop r.netmask)], subnetStatements r.dhcp) := rfl
  rw [networkItem, readNetwork, if_pos rfl, hblock]
  simp only [addressOf, hns, hsearch, hrouter, hnext, hfile, inetPton_ntop, Option.bind_some,
    Option.bind_eq_bind, guard_true, and_self, Option.pure_def]
  rfl

/-- The file is read as a selection of the build domains, in their order : of a network as many
are declared as there are domains, or as there are interfaces. -/
theorem readNetworks_writeDhcpConfigFile (addrs : List IfAddr) (rows : List DomainNetworkRow)
    (h : ∀ r ∈ rows, IsName (r.domain.take domainLen)) : ∃ rows' : List DomainNetworkRow,
      rows'.Sublist rows ∧
      readNetworks (writeDhcpConfigFile (ailsaGetIfaceList addrs) (ailsaGetBdomList rows)) =
        some (rows'.map DomainNetworkRow.declared) ∧
      ∀ nw, (rows'.map DomainNetworkRow.network).count nw =
        min (((ailsaGetIfaceList addrs).map fun i => i.nw.setWidth 64).count nw)
          ((rows.map DomainNetworkRow.network).count nw) := by
  have hsub : (writeNetworks (ailsaGetBdomList rows) (ailsaGetIfaceList addrs)).1.Sublist
      (rows.map DomainNetworkRow.dhcp) := by
    rw [writeNetworks_eq]
    exact serve_sublist _ _
  obtain ⟨rows', hrows, hwritten⟩ := List.sublist_map_iff.mp hsub
  refine ⟨rows', hrows, ?_, fun nw => ?_⟩
  · rw [writeDhcpConfigFile, hwritten, List.flatMap_map]
    exact readAll_flatMap (fun r hr => reads_sharedNetwork (h r (hrows.subset hr)))
      (fun r _ => clean_networkItem r.dhcp) fun r _ => readNetwork_networkItem r
  · have hserved : ((serve ifaceSlots AilsaDhcp.nw (ailsaGetBdomList rows)
        (ailsaGetIfaceList addrs)).1.map AilsaDhcp.nw).count nw = _ := count_served nw _ _
    rw [← writeNetworks_eq, hwritten, freeAt_ailsaGetIfaceList, ailsaGetBdomList_eq,
      List.map_map, List.map_map] at hserved
    exact hserved

/-- An interface of `10.0.0.0/24`, and a build domain on it. -/
def labIface : IfAddr := ⟨"eth0".toList, some (htonl 167772162, htonl 4294967040)⟩

def labNetwork : DomainNetworkRow := ⟨"lab".toList, 167772162, 167772176, 167772161, 4294967040⟩

theorem readNetworks_writeDhcpConfigFile_lab :
    ∃ rows' : List DomainNetworkRow, rows'.Sublist [labNetwork] ∧
      readNetworks (writeDhcpConfigFile (ailsaGetIfaceList [labIface])
        (ailsaGetBdomList [labNetwork])) = some (rows'.map DomainNetworkRow.declared) ∧
      ∀ nw, (rows'.map DomainNetworkRow.network).count nw =
        min (((ailsaGetIfaceList [labIface]).map fun i => i.nw.setWidth 64).count nw)
          (([labNetwork].map DomainNetworkRow.network).count nw) :=
  readNetworks_writeDhcpConfigFile [labIface] [labNetwork]
    (List.forall_mem_singleton.mpr (.of_isNameChars (by decide)))

end Cmdb
