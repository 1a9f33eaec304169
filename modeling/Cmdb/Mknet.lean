import Mathlib.Data.List.TakeWhile
import Cmdb.Ailsa
import Cmdb.DottedQuad
import Cmdb.InetWords

/-!
# The network of mknet

`mknet` splits the argument of `-g` at its first slash, takes the prefix with `strtoul`
and makes a netmask of it, and refuses a range with bits outside the mask. Only the length
of the prefix is tested. So `/8x` is read as `/8`, no prefix at all as `/0`, and from `33` on
the mask is what the compiler makes of a shift that C leaves undefined (`Misread`).

The domain of the network is entered with the addresses from the sixteenth on, up to the
one before the broadcast address. The complement of the netmask is taken in 64 bits, so
that the last address is none at all (`networkDomain_misplaced`).
-/

namespace Cmdb

open CString DottedQuad InetWords

/-! ## The code -/

/-- `isspace` in the `C` locale. -/
def isSpace (c : Char) : Bool :=
  c = ' ' || c = '\t' || c = '\n' || c = '\x0b' || c = '\x0c' || c = '\r'

/-- The sign that `strtoul` takes, and the rest. -/
def strtoulSign : CStr → Bool × CStr
  | '-' :: s => (true, s)
  | '+' :: s => (false, s)
  | s => (false, s)

/-- `strtoul(s, NULL, 10)`. What follows the digits is not looked at. -/
def strtoul10 (s : CStr) : BitVec 64 :=
  let (neg, s) := strtoulSign (s.dropWhile isSpace)
  let n := Nat.ofDigitChars 10 (s.takeWhile Char.isDigit) 0
  if 2 ^ 64 ≤ n then BitVec.allOnes 64
  else if neg then -BitVec.ofNat 64 n
  else BitVec.ofNat 64 n

/-- What `mknet` keeps of a network (`ailsa_mkvm_s`). `ip` and `nm` are in the byte order
of the network. -/
structure MknetNetwork where
  range : CStr
  pfx : BitVec 64
  ip : BitVec 32
  nm : BitVec 32
  domain : CStr
deriving DecidableEq, Repr

/-- `get_ip_addr_and_prefix`. -/
def getIpAddrAndPrefix (ip : CStr) : Except AilsaError (CStr × BitVec 64) :=
  let tmp := ip.take macLen
  match strchr tmp '/' with
  | none => .error .inputInvalid
  | some p =>
    let ptr := tmp.drop (p + 1)
    if 2 < ptr.length then .error .stringFail
    else .ok ((cut tmp p).take serviceLen, strtoul10 ptr)

/-- What a shift of the `long` `4294967295` leaves where C does not say it. -/
abbrev UndefinedShift := BitVec 64 → BitVec 64

/-- `prefix_to_mask_ipv4`. From a count of `32` on the product is no `long`, from `64` on
the count is no shift. -/
def prefixToMaskIpv4 (undef : UndefinedShift) (pfx : BitVec 64) : BitVec 32 :=
  if pfx ≠ 0 then
    let count := 32 - pfx
    (if count.toNat < 32 then 4294967295#64 <<< count.toNat else undef count).setWidth 32
  else 0

/-- `inet_pton` : the four bytes in the order they are written. -/
def inetPtonWord (s : CStr) : Option (BitVec 32) :=
  (inetPton s).map fun q => htonl (BitVec.ofNat 32 q.toNat)

/-- `get_ip_and_netmask`. -/
def getIpAndNetmask (undef : UndefinedShift) (vm : MknetNetwork) : Except AilsaError MknetNetwork :=
  let nm := htonl (prefixToMaskIpv4 undef vm.pfx)
  match inetPtonWord vm.range with
  | none => .error .ipConvertFailed
  | some inet =>
    if nm ||| inet ≠ nm then .error .rangeError
    else .ok { vm with nm := nm, ip := htonl (htonl inet + 1) }

/-- The option `-g` of `mknet`, and what an add makes of it. -/
def networkArgument (undef : UndefinedShift) (s : CStr) (vm : MknetNetwork) :
    Except AilsaError MknetNetwork := do
  let (range, pfx) ← getIpAddrAndPrefix s
  getIpAndNetmask undef { vm with range := range, pfx := pfx }

/-- A row of `build_domain` as SQLite holds it. -/
structure NetworkDomain where
  startIp : ℤ
  endIp : ℤ
  ns : ℤ
  gateway : ℤ
  netmask : ℤ
  domain : CStr
  cuser : ℤ
  muser : ℤ
deriving DecidableEq, Repr

/-- What the commands see of the world : the user, and whether the two statements work. -/
structure MknetEnv where
  uid : BitVec 64
  domainQuery : Bool
  domainInsert : Bool

/-- The row that `ailsa_add_build_domain_to_cmdb` binds, with `sqlite3_bind_int64`. -/
def networkDomain (env : MknetEnv) (vm : MknetNetwork) : NetworkDomain :=
  let gateway := (htonl vm.ip).setWidth 64
  let netmask := (htonl vm.nm).setWidth 64
  let start := gateway + 15
  let hostmask := ~~~netmask
  let last := (start ||| hostmask) - 1
  { startIp := start.toInt
    endIp := last.toInt
    ns := gateway.toInt
    gateway := gateway.toInt
    netmask := netmask.toInt
    domain := arg vm.domain
    cuser := env.uid.toInt
    muser := env.uid.toInt }

/-- `ailsa_add_build_domain_to_cmdb`. A domain that exists is no error. -/
def ailsaAddBuildDomainToCmdb (env : MknetEnv) (vm : MknetNetwork) (rows : List NetworkDomain) :
    Except AilsaError Unit × List NetworkDomain :=
  if env.domainQuery = false then (.error .statementFail, rows)
  else if rows.any (·.domain = arg vm.domain) then (.ok (), rows)
  else if env.domainInsert = false then (.error .statementFail, rows)
  else (.ok (), rows ++ [networkDomain env vm])

variable {undef : UndefinedShift} {env : MknetEnv} {vm vm' : MknetNetwork} {q : Quad} {s x : CStr}

/-! ## What is accepted -/

theorem slash_notMem_text (q : Quad) : '/' ∉ q.text := by
  intro h
  have hdotted : '/' ∈ dotted q.octets := by
    have hdot : q.text ++ ['.'] = dotted q.octets := q.hostText_append_dot (Nat.zero_le 3)
    rw [← hdot]
    exact List.mem_append_left _ h
  obtain ⟨o, -, hc⟩ := List.mem_flatMap.mp hdotted
  rcases List.mem_append.mp hc with hc | hc
  · exact absurd (Nat.isDigit_of_mem_toDigits (by decide) (by decide) hc) (by decide)
  · exact absurd (List.mem_singleton.mp hc) (by decide)

/-- The argument, as far as it is copied, is taken apart at its first slash. -/
theorem getIpAddrAndPrefix_of_slash {u v : CStr} (hu : '/' ∉ u)
    (htmp : s.take macLen = u ++ '/' :: v) :
    getIpAddrAndPrefix s =
      if 2 < v.length then .error .stringFail else .ok (u.take serviceLen, strtoul10 v) := by
  have hcut : cut (u ++ '/' :: v) u.length = u := by simp [cut]
  have hdrop : (u ++ '/' :: v).drop (u.length + 1) = v := by simp
  unfold getIpAddrAndPrefix
  simp only [htmp, strchr_append_cons hu v, hcut, hdrop]

/-- An argument of `-g` whose range is an address is not cut, as the text of an address is
short. -/
theorem getIpAddrAndPrefix_eq_ok {pfx : BitVec 64} :
    getIpAddrAndPrefix s = .ok (q.text, pfx) ↔
      ∃ x, s = q.text ++ '/' :: x ∧ x.length ≤ 2 ∧ pfx = strtoul10 x := by
  have hq := q.length_text_lt
  have hmac : macLen = 32 := rfl
  have hservice : serviceLen = 16 := rfl
  constructor
  · intro h
    rcases hp : strchr (s.take macLen) '/' with _ | p
    · simp only [getIpAddrAndPrefix, hp, reduceCtorEq] at h
    obtain ⟨u, v, htmp, hu, rfl⟩ := strchr_eq_some hp
    rw [getIpAddrAndPrefix_of_slash hu htmp] at h
    split_ifs at h with hv
    simp only [Except.ok.injEq, Prod.mk.injEq] at h
    obtain ⟨hrange, rfl⟩ := h
    have hulen := congrArg List.length hrange
    rw [List.length_take] at hulen
    rw [List.take_of_length_le (by omega)] at hrange
    have hslen := congrArg List.length htmp
    simp only [List.length_take, List.length_append, List.length_cons] at hslen
    refine ⟨v, ?_, by omega, rfl⟩
    rw [← hrange, ← htmp, List.take_of_length_le (by omega)]
  · rintro ⟨x, rfl, hx, rfl⟩
    have htmp : (q.text ++ '/' :: x).take macLen = q.text ++ '/' :: x :=
      List.take_of_length_le (by rw [List.length_append, List.length_cons]; omega)
    rw [getIpAddrAndPrefix_of_slash (slash_notMem_text q) htmp, if_neg (by omega),
      List.take_of_length_le (Nat.le_of_lt hq)]

/-- No bit of the address is outside the netmask. -/
def UnderMask (undef : UndefinedShift) (q : Quad) (pfx : BitVec 64) : Prop :=
  prefixToMaskIpv4 undef pfx ||| BitVec.ofNat 32 q.toNat = prefixToMaskIpv4 undef pfx

instance (undef : UndefinedShift) (q : Quad) (pfx : BitVec 64) :
    Decidable (UnderMask undef q pfx) :=
  inferInstanceAs (Decidable (_ = _))

/-- What `get_ip_and_netmask` makes of a range it accepts. -/
def MknetNetwork.withNetwork (vm : MknetNetwork) (undef : UndefinedShift) (q : Quad) :
    MknetNetwork :=
  { vm with
    nm := htonl (prefixToMaskIpv4 undef vm.pfx)
    ip := htonl (BitVec.ofNat 32 q.toNat + 1) }

theorem getIpAndNetmask_eq_ok :
    getIpAndNetmask undef vm = .ok vm' ↔
      ∃ q : Quad, vm.range = q.text ∧ UnderMask undef q vm.pfx ∧ vm' = vm.withNetwork undef q := by
  unfold getIpAndNetmask inetPtonWord
  constructor
  · intro h
    rcases hq : inetPton vm.range with _ | q
    · rw [hq] at h
      cases h
    simp only [hq, Option.map_some, ← htonl_or, htonl_inj, htonl_htonl, ne_eq, ite_not] at h
    split_ifs at h with hunder
    cases h
    exact ⟨q, inetPton_eq_some_iff.mp hq, hunder, rfl⟩
  · rintro ⟨q, hrange, hunder, rfl⟩
    have hnm : htonl (prefixToMaskIpv4 undef vm.pfx) ||| htonl (BitVec.ofNat 32 q.toNat) =
        htonl (prefixToMaskIpv4 undef vm.pfx) := by rw [← htonl_or, hunder]
    simp only [hrange, inetPton_text, Option.map_some, hnm, ne_eq, not_true_eq_false, if_false,
      htonl_htonl]
    rw [← hrange]
    rfl

/-- What is accepted, and what becomes of it. -/
theorem networkArgument_eq_ok :
    networkArgument undef s vm = .ok vm' ↔
      ∃ (q : Quad) (x : CStr), s = q.text ++ '/' :: x ∧ x.length ≤ 2 ∧
        UnderMask undef q (strtoul10 x) ∧
        vm' = MknetNetwork.withNetwork { vm with range := q.text, pfx := strtoul10 x } undef q := by
  unfold networkArgument
  constructor
  · intro h
    obtain ⟨⟨range, pfx⟩, hsplit, h⟩ := bind_eq_ok.mp h
    obtain ⟨q, hrange, hunder, rfl⟩ := getIpAndNetmask_eq_ok.mp h
    dsimp only at hrange hunder
    subst hrange
    obtain ⟨x, rfl, hx, rfl⟩ := getIpAddrAndPrefix_eq_ok.mp hsplit
    exact ⟨q, x, rfl, hx, hunder, rfl⟩
  · rintro ⟨q, x, rfl, hx, hunder, rfl⟩
    rw [getIpAddrAndPrefix_eq_ok.mpr ⟨x, rfl, hx, rfl⟩, ok_bind]
    exact getIpAndNetmask_eq_ok.mpr ⟨q, rfl, hunder, rfl⟩

theorem networkArgument_of_underMask (vm : MknetNetwork) (hx : x.length ≤ 2)
    (hunder : UnderMask undef q (strtoul10 x)) :
    networkArgument undef (q.text ++ '/' :: x) vm =
      .ok (MknetNetwork.withNetwork { vm with range := q.text, pfx := strtoul10 x } undef q) :=
  networkArgument_eq_ok.mpr ⟨q, x, rfl, hx, hunder, rfl⟩

/-! ## The argument as it is meant -/

/-- `x` is a decimal number, leading zeros allowed, and denotes `n`. -/
def Decimal (x : CStr) (n : ℕ) : Prop :=
  x ≠ [] ∧ x.all Char.isDigit = true ∧ Nat.ofDigitChars 10 x 0 = n

instance (x : CStr) (n : ℕ) : Decidable (Decimal x n) := inferInstanceAs (Decidable (_ ∧ _))

/-- The network is an address, a slash and a prefix from `1` to `32` that the address has no
bit below, `nm` is the mask of that many ones, and `ip` is the first address after it. -/
def ReadAsNetwork (s : CStr) (vm : MknetNetwork) : Prop :=
  ∃ (q : Quad) (x : CStr) (p : ℕ), s = q.text ++ '/' :: x ∧ Decimal x p ∧ 1 ≤ p ∧ p ≤ 32 ∧
    2 ^ (32 - p) ∣ q.toNat ∧ (htonl vm.nm).toNat = 2 ^ 32 - 2 ^ (32 - p) ∧
    (htonl vm.ip).toNat = q.toNat + 1

/-- The argument has a prefix of two characters at most that is no number from `1` to `32`,
or the address is the last of all. No bit of the address is outside the mask that the number
`strtoul` takes from the prefix gives. -/
def Misread (undef : UndefinedShift) (s : CStr) : Prop :=
  ∃ (q : Quad) (x : CStr), s = q.text ++ '/' :: x ∧ x.length ≤ 2 ∧
    UnderMask undef q (strtoul10 x) ∧
    ((∀ p, 1 ≤ p → p ≤ 32 → ¬Decimal x p) ∨ q.toNat + 1 = 2 ^ 32)

theorem text_slash_inj {q' : Quad} {x' : CStr} :
    q.text ++ '/' :: x = q'.text ++ '/' :: x' ↔ q = q' ∧ x = x' := by
  refine ⟨fun h => ?_, fun ⟨hq, hx⟩ => by rw [hq, hx]⟩
  have hlen : q.text.length = q'.text.length := by
    have h1 := strchr_append_cons (slash_notMem_text q) x
    rw [h, strchr_append_cons (slash_notMem_text q')] at h1
    exact (Option.some_inj.mp h1).symm
  obtain ⟨hq, hx⟩ := List.append_inj h hlen
  exact ⟨Quad.text_inj.mp hq, (List.cons.inj hx).2⟩

theorem prefixToMaskIpv4_ofNat {p : ℕ} (h1 : 1 ≤ p) (h32 : p ≤ 32) :
    prefixToMaskIpv4 undef (BitVec.ofNat 64 p) = mask p := by
  interval_cases p <;> rfl

theorem isSpace_eq_false {c : Char} (hc : c.isDigit = true) : isSpace c = false := by
  by_contra h
  simp only [isSpace, Bool.not_eq_false, Bool.or_eq_true, decide_eq_true_eq] at h
  rcases h with ((((rfl | rfl) | rfl) | rfl) | rfl) | rfl <;> exact absurd hc (by decide)

theorem strtoul10_of_decimal {n : ℕ} (h : Decimal x n) (hn : n < 2 ^ 64) :
    strtoul10 x = BitVec.ofNat 64 n := by
  obtain ⟨hne, hdigits, hval⟩ := h
  obtain ⟨c, t, rfl⟩ := List.exists_cons_of_ne_nil hne
  have hall := List.all_eq_true.mp hdigits
  have hc := hall c (List.mem_cons_self ..)
  have hsign : strtoulSign (c :: t) = (false, c :: t) := by
    unfold strtoulSign
    split
    · next heq => cases heq; exact absurd hc (by decide)
    · next heq => cases heq; exact absurd hc (by decide)
    · rfl
  have htake : (c :: t).takeWhile Char.isDigit = c :: t :=
    List.takeWhile_eq_self_iff.mpr hall
  unfold strtoul10
  rw [List.dropWhile_cons_of_neg (by rw [isSpace_eq_false hc]; exact Bool.false_ne_true), hsign]
  simp only [htake, hval, Bool.false_eq_true, if_false]
  rw [if_neg (by omega)]

/-- The network that an argument was read as, once it is accepted. -/
theorem readAsNetwork_iff (hunder : UnderMask undef q (strtoul10 x)) :
    ReadAsNetwork (q.text ++ '/' :: x)
        (MknetNetwork.withNetwork { vm with range := q.text, pfx := strtoul10 x } undef q) ↔
      (∃ p, 1 ≤ p ∧ p ≤ 32 ∧ Decimal x p) ∧ q.toNat + 1 < 2 ^ 32 := by
  have hq := q.toNat_lt
  constructor
  · rintro ⟨q', x', p, hs, hx, h1, h32, -, -, hip⟩
    obtain ⟨rfl, rfl⟩ := text_slash_inj.mp hs
    refine ⟨⟨p, h1, h32, hx⟩, ?_⟩
    rw [← hip]
    exact (htonl _).isLt
  · rintro ⟨⟨p, h1, h32, hx⟩, hlast⟩
    have hmask : prefixToMaskIpv4 undef (strtoul10 x) = mask p := by
      rw [strtoul10_of_decimal hx (by omega), prefixToMaskIpv4_ofNat h1 h32]
    refine ⟨q, x, p, rfl, hx, h1, h32, ?_, ?_, ?_⟩
    · rw [UnderMask, hmask, or_mask_eq_iff, BitVec.toNat_ofNat, Nat.mod_eq_of_lt hq] at hunder
      exact hunder
    · simp only [MknetNetwork.withNetwork, htonl_htonl, hmask]
      exact toNat_mask h32
    · simp only [MknetNetwork.withNetwork, htonl_htonl]
      rw [BitVec.toNat_add, BitVec.toNat_ofNat, Nat.mod_eq_of_lt hq]
      exact Nat.mod_eq_of_lt hlast

/-- An argument that is accepted is the network it reads as, unless it is `Misread`. -/
theorem networkArgument_read_iff :
    (∀ vm', networkArgument undef s vm = .ok vm' → ReadAsNetwork s vm') ↔ ¬Misread undef s := by
  constructor
  · rintro h ⟨q, x, rfl, hx, hunder, hbad⟩
    have hok := networkArgument_of_underMask vm hx hunder
    obtain ⟨⟨p, h1, h32, hp⟩, hlast⟩ := (readAsNetwork_iff hunder).mp (h _ hok)
    rcases hbad with hbad | hbad
    · exact hbad p h1 h32 hp
    · omega
  · intro h vm' hok
    obtain ⟨q, x, rfl, hx, hunder, rfl⟩ := networkArgument_eq_ok.mp hok
    rw [readAsNetwork_iff hunder]
    have hq := q.toNat_lt
    refine ⟨?_, ?_⟩
    · by_contra hno
      push Not at hno
      exact h ⟨q, x, rfl, hx, hunder, .inl hno⟩
    · by_contra hlast
      exact h ⟨q, x, rfl, hx, hunder, .inr (by omega)⟩

theorem not_networkArgument_read :
    ¬∀ undef s vm vm', networkArgument undef s vm = .ok vm' → ReadAsNetwork s vm' := by
  intro h
  let vm : MknetNetwork := { range := [], pfx := 0, ip := 0, nm := 0, domain := [] }
  have hunder : UnderMask id (Quad.ofNat 167772160) (strtoul10 "8x".toList) := by decide
  have hok := networkArgument_of_underMask vm (by decide) hunder
  obtain ⟨⟨p, -, -, -, hdigits, -⟩, -⟩ := (readAsNetwork_iff hunder).mp (h _ _ _ _ hok)
  exact absurd hdigits (by decide)

/-! ## The domain of the network -/

/-- The addresses of the row are an interval of addresses of the network that holds neither
the gateway nor the broadcast address. -/
structure NetworkDomain.Serves (row : NetworkDomain) (q : Quad) (p : ℕ) : Prop where
  ordered : row.startIp ≤ row.endIp
  start_mem : q.toNat ≤ row.startIp ∧ row.startIp < q.toNat + 2 ^ (32 - p)
  end_mem : q.toNat ≤ row.endIp ∧ row.endIp < q.toNat + 2 ^ (32 - p)
  gateway_apart : ¬(row.startIp ≤ row.gateway ∧ row.gateway ≤ row.endIp)
  broadcast_apart : ¬(row.startIp ≤ q.toNat + 2 ^ (32 - p) - 1 ∧
    q.toNat + 2 ^ (32 - p) - 1 ≤ row.endIp)

/-- The last address has the upper half of the complement : it is negative in the database. -/
theorem networkDomain_endIp_neg (env : MknetEnv) (vm : MknetNetwork) :
    (networkDomain env vm).endIp < 0 := by
  have hor := two_pow_sub_le_or_not ((htonl vm.ip).setWidth 64 + 15) (htonl vm.nm)
  have hlt := ((htonl vm.ip).setWidth 64 + 15 ||| ~~~(htonl vm.nm).setWidth 64).isLt
  simp only [networkDomain]
  rw [BitVec.toInt_neg_iff, BitVec.toNat_sub]
  generalize ((htonl vm.ip).setWidth 64 + 15 ||| ~~~(htonl vm.nm).setWidth 64).toNat = n at hor hlt
  have hone : (1 : BitVec 64).toNat = 1 := rfl
  omega

/-- Whatever the network, its domain is not entered with addresses of the network. -/
theorem networkDomain_misplaced (hnet : getIpAndNetmask undef vm = .ok vm') :
    ∃ q : Quad, vm.range = q.text ∧ ∀ env rows row,
      (ailsaAddBuildDomainToCmdb env vm' rows).2 = rows ++ [row] →
        ¬row.Serves q vm.pfx.toNat := by
  obtain ⟨q, hrange, -, -⟩ := getIpAndNetmask_eq_ok.mp hnet
  refine ⟨q, hrange, fun env rows row hrow hserves => ?_⟩
  have hneg : row.endIp < 0 := by
    unfold ailsaAddBuildDomainToCmdb at hrow
    split_ifs at hrow
    · simp at hrow
    · simp at hrow
    · simp at hrow
    · rw [List.append_cancel_left_eq, List.cons.injEq] at hrow
      rw [← hrow.1]
      exact networkDomain_endIp_neg ..
  have hend := hserves.end_mem.1
  omega

/-- The network `10.0.0.0/24`. -/
def classC : MknetNetwork :=
  { range := (Quad.ofNat 167772160).text, pfx := 24, ip := 0, nm := 0, domain := "lab".toList }

theorem getIpAndNetmask_classC :
    getIpAndNetmask id classC = .ok (classC.withNetwork id (Quad.ofNat 167772160)) :=
  getIpAndNetmask_eq_ok.mpr ⟨_, rfl, by decide, rfl⟩

theorem networkDomain_misplaced_classC : ∃ q : Quad, classC.range = q.text ∧ ∀ env rows row,
    (ailsaAddBuildDomainToCmdb env (classC.withNetwork id (Quad.ofNat 167772160)) rows).2 =
      rows ++ [row] → ¬row.Serves q 24 :=
  networkDomain_misplaced getIpAndNetmask_classC

theorem not_networkDomain_serves :
    ¬∀ undef env vm vm' (q : Quad) rows row, getIpAndNetmask undef vm = .ok vm' →
      vm.range = q.text → vm.pfx.toNat ≤ 30 →
      (ailsaAddBuildDomainToCmdb env vm' rows).2 = rows ++ [row] →
      row.Serves q vm.pfx.toNat := by
  intro h
  have hserves := h id ⟨0, true, true⟩ classC _ (Quad.ofNat 167772160) [] _
    getIpAndNetmask_classC rfl (by decide) rfl
  exact absurd hserves.end_mem.1 (by decide)

end Cmdb
