import Cmdb.BuildDomains
import Cmdb.DomainNames
import Cmdb.Getopt
import Cmdb.GlueAddresses

/-!
# The network of a build domain

The argument of `-k` are five addresses with commas between them. `split_network_args` refuses
everything else, but `parse_cbcdomain_comm_line` keeps its code in a variable that the next check
overwrites, and goes on with the numbers that were set so far.

* `splitNetwork_commLine` : what is set is what `splitNetworkArgs` of the build domains sets;
* `networkRight_iff` : the parser is right exactly for the command lines whose networks are all
  well formed, or that another check refuses.
-/

namespace Cmdb

open CString DottedQuad Getopt Posix

/-! ## The command line -/

/-- What `cbcdomain` is to do. -/
inductive CbcdomainAction
  | none | add | display | list | modify | remove | write | setDefault | version
deriving DecidableEq, Repr

/-- The command line of `cbcdomain` (`cbcdomain_comm_line_s`) while it is parsed. -/
structure CbcdomainOptions where
  action : CbcdomainAction
  domain : Option CStr
  ntpserver : Option CStr
  confntp : ℕ
  startIp : ℕ
  endIp : ℕ
  netmask : ℕ
  gateway : ℕ
  ns : ℕ
deriving DecidableEq, Repr

/-- Before any option. -/
def CbcdomainOptions.init : CbcdomainOptions where
  action := .none
  domain := none
  ntpserver := none
  confntp := 0
  startIp := 0
  endIp := 0
  netmask := 0
  gateway := 0
  ns := 0

/-- What the commands read of it. -/
def CbcdomainOptions.commLine (cdl : CbcdomainOptions) : CbcdomainCommLine where
  domain := cdl.domain.getD []
  ntpserver := cdl.ntpserver
  confntp := cdl.confntp
  startIp := cdl.startIp
  endIp := cdl.endIp
  netmask := cdl.netmask
  gateway := cdl.gateway
  ns := cdl.ns

/-- An option of `cbcdomain`, with its argument. -/
inductive CbcdomainOption
  | add | display | list | modify | remove | write | setDefault | version | unknown
  | network (optarg : CStr)
  | name (optarg : CStr)
  | ntpServer (optarg : CStr)
deriving DecidableEq, Repr

/-- The codes of the command line. -/
inductive CbcdomainUsage
  | displayUsage | version | noAction | noBuildDomain | noModBuildDomNet | ntpServerInvalid
  | domainInputInvalid | buildDomainNetworkInvalid
deriving DecidableEq, Repr

/-! ## The network -/

/-- One address of the network. -/
def readAddress (ip : CStr) : Except CbcdomainUsage ℕ :=
  if ailsaValidateInput ip .ip < 0 then .error .buildDomainNetworkInvalid
  else
    match inetPton ip with
    | some q => .ok q.toNat
    | none => .error .buildDomainNetworkInvalid

/-- The loop of `split_network_args` : `n` addresses, each closed by a comma, and the rest. -/
def readAddresses : ℕ → CStr → Except CbcdomainUsage (List ℕ × CStr)
  | 0, ip => .ok ([], ip)
  | n + 1, ip =>
    match strchr ip ',' with
    | none => .error .buildDomainNetworkInvalid
    | some p => do
      let a ← readAddress (cut ip p)
      let (ips, rest) ← readAddresses n (ip.drop (p + 1))
      return (a :: ips, rest)

/-- `split_network_args` : the fields that are set, and the code. -/
def splitNetwork (cdl : CbcdomainOptions) (netinfo : CStr) :
    CbcdomainOptions × Except CbcdomainUsage Unit :=
  match readAddresses 4 netinfo with
  | .ok ([start, last, gateway, netmask], ip) =>
    let cdl := { cdl with startIp := start, endIp := last, gateway := gateway, netmask := netmask }
    match readAddress ip with
    | .ok ns => ({ cdl with ns := ns }, .ok ())
    | .error e => (cdl, .error e)
  | .ok _ => (cdl, .error .buildDomainNetworkInvalid)
  | .error e => (cdl, .error e)

/-! ## Parsing -/

/-- One option, with the variable for the code. -/
def cbcdomainOption (state : CbcdomainOptions × Except CbcdomainUsage Unit) :
    CbcdomainOption → Except CbcdomainUsage (CbcdomainOptions × Except CbcdomainUsage Unit)
  | .add => .ok ({ state.1 with action := .add }, state.2)
  | .display => .ok ({ state.1 with action := .display }, state.2)
  | .list => .ok ({ state.1 with action := .list }, state.2)
  | .modify => .ok ({ state.1 with action := .modify }, state.2)
  | .remove => .ok ({ state.1 with action := .remove }, state.2)
  | .write => .ok ({ state.1 with action := .write }, state.2)
  | .setDefault => .ok ({ state.1 with action := .setDefault }, state.2)
  | .version => .ok ({ state.1 with action := .version }, state.2)
  | .network optarg => .ok (splitNetwork state.1 optarg)
  | .name optarg => .ok ({ state.1 with domain := some (optarg.take domainLen) }, state.2)
  | .ntpServer optarg =>
    .ok ({ state.1 with ntpserver := some (optarg.take domainLen), confntp := 1 }, state.2)
  | .unknown => .error .displayUsage

/-- `validate_cbcdomain_comm_line`. -/
def validateCbcdomainCommLine (cdl : CbcdomainOptions) : Except CbcdomainUsage Unit :=
  if ∃ ntp ∈ cdl.ntpserver, ailsaValidateInput ntp .domain < 0 ∧ ailsaValidateInput ntp .ip < 0 then
    .error .ntpServerInvalid
  else if ∃ domain ∈ cdl.domain, ailsaValidateInput domain .domain < 0 then
    .error .domainInputInvalid
  else .ok ()

/-- `parse_cbcdomain_comm_line` : the code of the network is assigned to a variable, and lost with
the next assignment. -/
def parseCbcdomainCommLine (opts : List CbcdomainOption) :
    Except CbcdomainUsage CbcdomainOptions := do
  let (cdl, _) ← opts.foldlM cbcdomainOption (.init, .ok ())
  validateCbcdomainCommLine cdl
  if opts = [] then .error .displayUsage
  else if cdl.action = .version then .error .version
  else if cdl.action = .none then .error .noAction
  else if cdl.action ≠ .list ∧ cdl.action ≠ .write ∧ cdl.domain = none then .error .noBuildDomain
  else if cdl.action = .modify ∧ (cdl.startIp ≠ 0 ∨ cdl.endIp ≠ 0 ∨ cdl.netmask ≠ 0 ∨
      cdl.gateway ≠ 0 ∨ cdl.ns ≠ 0) then .error .noModBuildDomNet
  else .ok cdl

/-! ## The fields of a text -/

/-- The first `n` of the fields as addresses, and the text of those behind them, one at least. -/
def leading : ℕ → List CStr → Option (List Quad × CStr)
  | 0, ws => some ([], List.intercalate [','] ws)
  | n + 1, w :: w' :: ws =>
    match inetPton w with
    | none => none
    | some q => (leading n (w' :: ws)).map fun r => (q :: r.1, r.2)
  | _ + 1, _ => none

/-- The first four fields, if they are addresses and a field follows. -/
def leadingFour (s : CStr) : Option (List Quad) := (leading 4 (s.splitOn ',')).map Prod.fst

/-- The text behind these four, if it is an address too. -/
def fifthAddress (s : CStr) : Option Quad :=
  (leading 4 (s.splitOn ',')).bind fun r => inetPton r.2

variable {s : CStr} {n : ℕ} {ips : List ℕ} {rest : CStr} {cdl : CbcdomainOptions}

theorem inetPton_eq_none_iff : inetPton s = none ↔ ¬IsAddress s := by
  rw [Option.eq_none_iff_forall_ne_some]
  exact ⟨fun h ⟨q, hq⟩ => h q (inetPton_eq_some_iff.mpr hq), fun h q hq =>
    h ⟨q, inetPton_eq_some_iff.mp hq⟩⟩

theorem validate_ip_neg_iff : ailsaValidateInput s .ip < 0 ↔ ¬IsAddress s := by
  rw [← not_iff_not, not_not, ailsaValidateInput_eq, not_validateString_neg_iff regcomp_ip]
  exact mem_lang_ipEre

/-- The expression and `inet_pton` accept the same texts. -/
theorem readAddress_eq (s : CStr) : readAddress s =
    match inetPton s with
    | some q => .ok q.toNat
    | none => .error .buildDomainNetworkInvalid := by
  unfold readAddress
  split_ifs with h
  · rw [inetPton_eq_none_iff.mpr (validate_ip_neg_iff.mp h)]
  · rfl

theorem readAddresses_append {u : CStr} (hu : ',' ∉ u) (n : ℕ) (v : CStr) :
    readAddresses (n + 1) (u ++ ',' :: v) = (do
      let a ← readAddress u
      let (ips, rest) ← readAddresses n v
      return (a :: ips, rest)) := by
  simp only [readAddresses, strchr_append_cons hu, cut_append, drop_append_comma]

/-- What is read are the first fields. -/
theorem toOption_readAddresses_eq_leading (n : ℕ) (s : CStr) :
    (readAddresses n s).toOption =
      (leading n (s.splitOn ',')).map fun r => (r.1.map Quad.toNat, r.2) := by
  induction n generalizing s with
  | zero =>
    rw [leading, List.intercalate_splitOn]
    rfl
  | succ n ih =>
    by_cases hs : ',' ∈ s
    · obtain ⟨u, v, rfl, hu⟩ := List.eq_append_cons_of_mem hs
      have hv := ih v
      obtain ⟨w, ws, hsplit⟩ := List.exists_cons_of_ne_nil (List.splitOn_ne_nil ',' v)
      rw [hsplit] at hv
      rw [readAddresses_append hu, readAddress_eq, List.splitOn_append_cons_self_of_not_mem hu,
        hsplit, leading]
      cases inetPton u with
      | none => rfl
      | some q =>
        dsimp only
        rw [Option.map_map]
        cases hread : readAddresses n v with
        | error e =>
          rw [hread] at hv
          rw [Option.map_eq_none_iff.mp hv.symm]
          rfl
        | ok r =>
          rw [hread] at hv
          obtain ⟨r', hlead, rfl⟩ := Option.map_eq_some_iff.mp hv.symm
          rw [hlead]
          rfl
    · have hread : readAddresses (n + 1) s = .error .buildDomainNetworkInvalid := by
        simp only [readAddresses, strchr_eq_none hs]
      rw [hread, List.splitOn_eq_singleton hs]
      rfl

theorem length_leading {ws : List CStr} {r : List Quad × CStr} (h : leading n ws = some r) :
    r.1.length = n := by
  induction n generalizing ws r with
  | zero =>
    cases h
    rfl
  | succ n ih =>
    match ws with
    | [] | [_] => cases h
    | w :: w' :: ws =>
      rw [leading] at h
      cases hq : inetPton w with
      | none =>
        rw [hq] at h
        cases h
      | some q =>
        rw [hq] at h
        obtain ⟨r', hr', rfl⟩ := Option.map_eq_some_iff.mp h
        rw [List.length_cons, ih hr']

theorem splitNetwork_of_none (h : leadingFour s = none) : (splitNetwork cdl s).1 = cdl := by
  rw [leadingFour, Option.map_eq_none_iff] at h
  unfold splitNetwork
  cases hr : readAddresses 4 s with
  | error e => rfl
  | ok r =>
    have hread := toOption_readAddresses_eq_leading 4 s
    rw [hr, h] at hread
    cases hread

/-- The four addresses are set, and the fifth if it is one. -/
theorem splitNetwork_of_some {a b c d : Quad} (h : leadingFour s = some [a, b, c, d]) :
    (splitNetwork cdl s).1 = { cdl with
      startIp := a.toNat, endIp := b.toNat, gateway := c.toNat, netmask := d.toNat
      ns := ((fifthAddress s).map Quad.toNat).getD cdl.ns } := by
  obtain ⟨⟨_, rest⟩, hlead, rfl⟩ := Option.map_eq_some_iff.mp h
  have hread := toOption_readAddresses_eq_leading 4 s
  rw [hlead, Option.map_some] at hread
  have hfifth : fifthAddress s = inetPton rest := by rw [fifthAddress, hlead, Option.bind_some]
  cases hfour : readAddresses 4 s with
  | error e =>
    rw [hfour] at hread
    cases hread
  | ok r =>
    rw [hfour] at hread
    obtain rfl := Option.some.inj hread
    have hfour : readAddresses 4 s = .ok ([a.toNat, b.toNat, c.toNat, d.toNat], rest) := hfour
    cases hq : inetPton rest <;>
    · simp only [splitNetwork, hfour, readAddress_eq, hfifth, hq]
      rfl

/-- The loop of the build domains, where one test stands for both. -/
theorem toOption_readAddresses (n : ℕ) (s : CStr) :
    (readAddresses n s).toOption = (splitIps n s).toOption := by
  induction n generalizing s with
  | zero => rfl
  | succ n ih =>
    unfold readAddresses splitIps
    cases strchr s ',' with
    | none => rfl
    | some p =>
      dsimp only
      rw [readAddress_eq]
      cases inetPton (cut s p) with
      | none => rfl
      | some q =>
        have hrest := ih (s.drop (p + 1))
        cases hr : readAddresses n (s.drop (p + 1)) <;>
          cases hi : splitIps n (s.drop (p + 1)) <;>
            rw [hr, hi] at hrest <;> cases hrest <;> rfl

/-- What is set is what the model of the build domains sets. -/
theorem splitNetwork_commLine (cdl : CbcdomainOptions) (s : CStr) :
    (splitNetwork cdl s).1.commLine = (splitNetworkArgs cdl.commLine s).1 := by
  have hsame := toOption_readAddresses 4 s
  unfold splitNetwork splitNetworkArgs
  cases hr : readAddresses 4 s with
  | error e =>
    cases hi : splitIps 4 s with
    | error e' => rfl
    | ok r =>
      rw [hr, hi] at hsame
      cases hsame
  | ok r =>
    cases hi : splitIps 4 s with
    | error e =>
      rw [hr, hi] at hsame
      cases hsame
    | ok r' =>
      rw [hr, hi] at hsame
      obtain rfl := Option.some.inj hsame
      match r with
      | ([a, b, c, d], rest) =>
        dsimp only
        rw [readAddress_eq]
        cases inetPton rest <;> rfl
      | ([], _) | ([_], _) | ([_, _], _) | ([_, _, _], _) | (_ :: _ :: _ :: _ :: _ :: _, _) => rfl

/-! ## The loop -/

/-- The arguments of `-k`. -/
def CbcdomainOption.networkArg : CbcdomainOption → Option CStr
  | .network optarg => some optarg
  | _ => none

/-- The argument of `-n`, as it is kept. -/
def CbcdomainOption.nameArg : CbcdomainOption → Option CStr
  | .name optarg => some (optarg.take domainLen)
  | _ => none

/-- The argument of `-t`, as it is kept. -/
def CbcdomainOption.ntpArg : CbcdomainOption → Option CStr
  | .ntpServer optarg => some (optarg.take domainLen)
  | _ => none

/-- The action an option stands for. -/
def CbcdomainOption.action : CbcdomainOption → Option CbcdomainAction
  | .add => some .add
  | .display => some .display
  | .list => some .list
  | .modify => some .modify
  | .remove => some .remove
  | .write => some .write
  | .setDefault => some .setDefault
  | .version => some .version
  | _ => none

/-- The first four addresses of the command line. -/
def CbcdomainOptions.four (cdl : CbcdomainOptions) : List ℕ :=
  [cdl.startIp, cdl.endIp, cdl.gateway, cdl.netmask]

/-- The four addresses of a network. -/
def CbcdomainOption.fourArg (o : CbcdomainOption) : Option (List ℕ) :=
  (o.networkArg.bind leadingFour).map (List.map Quad.toNat)

/-- The fifth address of a network. -/
def CbcdomainOption.nsArg (o : CbcdomainOption) : Option ℕ :=
  (o.networkArg.bind fifthAddress).map Quad.toNat

theorem leadingFour_eq_none_or (s : CStr) :
    leadingFour s = none ∨ ∃ a b c d, leadingFour s = some [a, b, c, d] := by
  cases h : leading 4 (s.splitOn ',') with
  | none => exact .inl (by rw [leadingFour, h, Option.map_none])
  | some r =>
    match r, length_leading h with
    | ([a, b, c, d], rest), _ => exact .inr ⟨a, b, c, d, by rw [leadingFour, h, Option.map_some]⟩

/-- Without the four there is no fifth. -/
theorem fifthAddress_of_none (h : leadingFour s = none) : fifthAddress s = none := by
  rw [leadingFour, Option.map_eq_none_iff] at h
  rw [fifthAddress, h, Option.bind_none]

/-- What one option does to each field. -/
theorem cbcdomainOption_ok {state state' : CbcdomainOptions × Except CbcdomainUsage Unit}
    {o : CbcdomainOption} (h : cbcdomainOption state o = .ok state') :
    state'.1.action = o.action.getD state.1.action ∧
      state'.1.domain = o.nameArg.or state.1.domain ∧
      state'.1.ntpserver = o.ntpArg.or state.1.ntpserver ∧
      state'.1.four = o.fourArg.getD state.1.four ∧ state'.1.ns = o.nsArg.getD state.1.ns := by
  cases o with
  | unknown => cases h
  | network optarg =>
    obtain rfl := Except.ok.inj h
    rcases leadingFour_eq_none_or optarg with hnone | ⟨a, b, c, d, hsome⟩
    · have hfour : (CbcdomainOption.network optarg).fourArg = none := by
        rw [CbcdomainOption.fourArg, CbcdomainOption.networkArg, Option.bind_some, hnone,
          Option.map_none]
      have hns : (CbcdomainOption.network optarg).nsArg = none := by
        rw [CbcdomainOption.nsArg, CbcdomainOption.networkArg, Option.bind_some,
          fifthAddress_of_none hnone, Option.map_none]
      rw [splitNetwork_of_none hnone, hfour, hns]
      exact ⟨rfl, rfl, rfl, rfl, rfl⟩
    · have hfour : (CbcdomainOption.network optarg).fourArg =
          some [a.toNat, b.toNat, c.toNat, d.toNat] := by
        rw [CbcdomainOption.fourArg, CbcdomainOption.networkArg, Option.bind_some, hsome]
        rfl
      rw [splitNetwork_of_some hsome, hfour]
      exact ⟨rfl, rfl, rfl, rfl, rfl⟩
  | _ =>
    obtain rfl := Except.ok.inj h
    exact ⟨rfl, rfl, rfl, rfl, rfl⟩

theorem exists_cbcdomainOption_iff (state : CbcdomainOptions × Except CbcdomainUsage Unit)
    (o : CbcdomainOption) : (∃ state', cbcdomainOption state o = .ok state') ↔ o ≠ .unknown := by
  cases o with
  | unknown =>
    constructor
    · rintro ⟨state', ⟨⟩⟩
    · exact fun h => absurd rfl h
  | _ => exact iff_of_true ⟨_, rfl⟩ (fun h => nomatch h)

variable {opts : List CbcdomainOption}

/-- The fields behind the loop, by the last arguments. -/
structure LastGiven (opts : List CbcdomainOption) (cdl : CbcdomainOptions) : Prop where
  action : cdl.action = (given CbcdomainOption.action opts).getD .none
  domain : cdl.domain = given CbcdomainOption.nameArg opts
  ntpserver : cdl.ntpserver = given CbcdomainOption.ntpArg opts
  four : cdl.four = (given CbcdomainOption.fourArg opts).getD [0, 0, 0, 0]
  ns : cdl.ns = (given CbcdomainOption.nsArg opts).getD 0

theorem lastGiven {code : Except CbcdomainUsage Unit}
    (h : opts.foldlM cbcdomainOption (.init, .ok ()) = .ok (cdl, code)) : LastGiven opts cdl where
  action := foldlM_given _ (fun state => state.1.action)
    (fun _ _ _ hs => (cbcdomainOption_ok hs).1) h
  domain := (foldlM_given_or _ (fun state => state.1.domain)
    (fun _ _ _ hs => (cbcdomainOption_ok hs).2.1) h).trans Option.or_none
  ntpserver := (foldlM_given_or _ (fun state => state.1.ntpserver)
    (fun _ _ _ hs => (cbcdomainOption_ok hs).2.2.1) h).trans Option.or_none
  four := foldlM_given _ (fun state => state.1.four)
    (fun _ _ _ hs => (cbcdomainOption_ok hs).2.2.2.1) h
  ns := foldlM_given _ (fun state => state.1.ns)
    (fun _ _ _ hs => (cbcdomainOption_ok hs).2.2.2.2) h

/-! ## The checks -/

/-- What the checks behind the loop let through. -/
structure CbcdomainChecked (cdl : CbcdomainOptions) : Prop where
  ntpserver : ∀ ntp ∈ cdl.ntpserver,
    ailsaValidateInput ntp .domain = 0 ∨ ailsaValidateInput ntp .ip = 0
  domain : ∀ domain ∈ cdl.domain, ailsaValidateInput domain .domain = 0
  version : cdl.action ≠ .version
  action : cdl.action ≠ .none
  named : cdl.action ≠ .list → cdl.action ≠ .write → cdl.domain ≠ none
  modify : cdl.action = .modify → (∀ n ∈ cdl.four, n = 0) ∧ cdl.ns = 0

theorem validate_domain_neg_iff :
    ailsaValidateInput s .domain < 0 ↔ ailsaValidateInput s .domain ≠ 0 := by
  rw [← not_iff_not, not_not, ailsaValidateInput_eq, not_validateString_neg_iff regcomp_domain,
    ← ailsaValidateInput_eq, ailsaValidateInput_eq_zero_iff regcomp_domain]

theorem validateCbcdomain_eq_ok_iff : validateCbcdomainCommLine cdl = .ok () ↔
    (∀ ntp ∈ cdl.ntpserver,
      ailsaValidateInput ntp .domain = 0 ∨ ailsaValidateInput ntp .ip = 0) ∧
    ∀ domain ∈ cdl.domain, ailsaValidateInput domain .domain = 0 := by
  have hip : ∀ t, ailsaValidateInput t .ip < 0 ↔ ailsaValidateInput t .ip ≠ 0 := fun t => by
    rw [validate_ip_neg_iff, ne_eq, (validate_ip_iff t).1, IsAddress]
  simp only [validateCbcdomainCommLine, validate_domain_neg_iff, hip]
  split_ifs with hntp hdomain
  · obtain ⟨t, ht, hd, hi⟩ := hntp
    exact ⟨fun h => (nomatch h), fun h => absurd (h.1 t ht) (not_or.mpr ⟨hd, hi⟩)⟩
  · obtain ⟨d, hd, hno⟩ := hdomain
    exact ⟨fun h => (nomatch h), fun h => absurd (h.2 d hd) hno⟩
  · push Not at hntp hdomain
    refine ⟨fun _ => ⟨fun t ht => ?_, hdomain⟩, fun _ => rfl⟩
    exact or_iff_not_imp_left.mpr (hntp t ht)

/-- A command line is parsed if its options are known and the checks let it through. -/
theorem parseCbcdomain_eq_ok_iff : parseCbcdomainCommLine opts = .ok cdl ↔
    (∃ code, opts.foldlM cbcdomainOption (.init, .ok ()) = .ok (cdl, code)) ∧
      CbcdomainChecked cdl := by
  rw [parseCbcdomainCommLine, bind_eq_ok]
  constructor
  · rintro ⟨⟨cdl', code⟩, hloop, h⟩
    obtain ⟨⟨⟩, hvalid, h⟩ := bind_eq_ok.mp h
    split_ifs at h with hopts hversion haction hnamed hmodify
    obtain rfl := Except.ok.inj h
    obtain ⟨hntp, hdomain⟩ := validateCbcdomain_eq_ok_iff.mp hvalid
    refine ⟨⟨code, hloop⟩, hntp, hdomain, hversion, haction, ?_, ?_⟩
    · exact fun hlist hwrite hnone => hnamed ⟨hlist, hwrite, hnone⟩
    · intro hmod
      have hzero := not_and.mp hmodify hmod
      push Not at hzero
      obtain ⟨h1, h2, h3, h4, h5⟩ := hzero
      refine ⟨?_, h5⟩
      simp only [CbcdomainOptions.four, List.forall_mem_cons]
      exact ⟨h1, h2, h4, h3, by simp⟩
  · rintro ⟨⟨code, hloop⟩, hchecked⟩
    have hopts : opts ≠ [] := by
      rintro rfl
      cases hloop
      exact hchecked.action rfl
    have hvalid := validateCbcdomain_eq_ok_iff.mpr ⟨hchecked.ntpserver, hchecked.domain⟩
    have hnamed : ¬(cdl.action ≠ .list ∧ cdl.action ≠ .write ∧ cdl.domain = none) :=
      fun h => hchecked.named h.1 h.2.1 h.2.2
    have hmodify : ¬(cdl.action = .modify ∧ (cdl.startIp ≠ 0 ∨ cdl.endIp ≠ 0 ∨ cdl.netmask ≠ 0 ∨
        cdl.gateway ≠ 0 ∨ cdl.ns ≠ 0)) := by
      rintro ⟨hmod, hne⟩
      obtain ⟨hfour, hns⟩ := hchecked.modify hmod
      simp only [CbcdomainOptions.four, List.forall_mem_cons] at hfour
      omega
    refine ⟨(cdl, code), hloop, ?_⟩
    dsimp only
    rw [hvalid, ok_bind, if_neg hopts, if_neg hchecked.version, if_neg hchecked.action,
      if_neg hnamed, if_neg hmodify]

/-! ## When the parser is right -/

/-- Five addresses. -/
structure Network where
  start : Quad
  last : Quad
  gateway : Quad
  netmask : Quad
  ns : Quad

/-- The five, with commas between them. -/
def Network.text (n : Network) : CStr :=
  List.intercalate [',']
    [n.start.text, n.last.text, n.gateway.text, n.netmask.text, n.ns.text]

/-- The fields hold the five, in their order. -/
structure Network.Stored (n : Network) (cdl : CbcdomainOptions) : Prop where
  startIp : cdl.startIp = n.start.toNat
  endIp : cdl.endIp = n.last.toNat
  gateway : cdl.gateway = n.gateway.toNat
  netmask : cdl.netmask = n.netmask.toNat
  ns : cdl.ns = n.ns.toNat

/-- The arguments of `-k`. -/
def networkArgs (opts : List CbcdomainOption) : List CStr :=
  opts.filterMap CbcdomainOption.networkArg

/-- What the parser is to do : it succeeds with five addresses in every `-k` only, then the
numbers are those of the last one, and only with such numbers a row is written. -/
def NetworkRight (opts : List CbcdomainOption) : Prop :=
  ∀ cdl, parseCbcdomainCommLine opts = .ok cdl →
    (∀ s ∈ networkArgs opts, ∃ n : Network, s = n.text) ∧
      (∀ n : Network, (networkArgs opts).getLast? = some n.text → n.Stored cdl) ∧
      ∀ env w, (addCbcBuildDomain env cdl.commLine w).2.build = w.build ∨
        (∃ n : Network, (networkArgs opts).getLast? = some n.text) ∧
          (addCbcBuildDomain env cdl.commLine w).2.build = w.build.insertBuildDomain cdl.commLine

/-- A check that is not about the form of a network refuses the command line. -/
inductive CbcdomainRefused (opts : List CbcdomainOption) : Prop
  | usage (h : .unknown ∈ opts)
  | ntpServer (t : CStr) (h : given CbcdomainOption.ntpArg opts = some t)
      (hdomain : ailsaValidateInput t .domain ≠ 0) (hip : ailsaValidateInput t .ip ≠ 0)
  | domain (d : CStr) (h : given CbcdomainOption.nameArg opts = some d)
      (hdomain : ailsaValidateInput d .domain ≠ 0)
  | version (h : given CbcdomainOption.action opts = some .version)
  | noAction (h : given CbcdomainOption.action opts = none)
  | noDomain (hlist : given CbcdomainOption.action opts ≠ some .list)
      (hwrite : given CbcdomainOption.action opts ≠ some .write)
      (h : given CbcdomainOption.nameArg opts = none)
  | modifyFour (hmod : given CbcdomainOption.action opts = some .modify) (ips : List ℕ)
      (h : given CbcdomainOption.fourArg opts = some ips) (n : ℕ) (hn : n ∈ ips) (h0 : n ≠ 0)
  | modifyNs (hmod : given CbcdomainOption.action opts = some .modify) (n : ℕ)
      (h : given CbcdomainOption.nsArg opts = some n) (h0 : n ≠ 0)

theorem given_action_ne_none : given CbcdomainOption.action opts ≠ some .none := by
  intro h
  obtain ⟨o, -, ho⟩ := List.mem_filterMap.mp (List.mem_of_getLast? h)
  cases o <;> cases ho

theorem LastGiven.action_eq_iff (h : LastGiven opts cdl) {a : CbcdomainAction} (ha : a ≠ .none) :
    cdl.action = a ↔ given CbcdomainOption.action opts = some a := by
  rw [h.action]
  cases given CbcdomainOption.action opts with
  | none => simpa using ha.symm
  | some b => simp

theorem LastGiven.action_eq_none_iff (h : LastGiven opts cdl) :
    cdl.action = .none ↔ given CbcdomainOption.action opts = none := by
  rw [h.action]
  cases hg : given CbcdomainOption.action opts with
  | none => simp
  | some b =>
    have hb : b ≠ .none := fun hb => given_action_ne_none (hb ▸ hg)
    simpa using hb

theorem LastGiven.checked_iff (h : LastGiven opts cdl) (hknown : .unknown ∉ opts) :
    CbcdomainChecked cdl ↔ ¬CbcdomainRefused opts := by
  constructor
  · intro hchecked hrefused
    cases hrefused with
    | usage hmem => exact hknown hmem
    | ntpServer t ht hdomain hip =>
      exact (hchecked.ntpserver t (h.ntpserver.trans ht)).elim hdomain hip
    | domain d hd hdomain => exact hdomain (hchecked.domain d (h.domain.trans hd))
    | version hv => exact hchecked.version ((h.action_eq_iff (by decide)).mpr hv)
    | noAction hn => exact hchecked.action (h.action_eq_none_iff.mpr hn)
    | noDomain hlist hwrite hd =>
      exact hchecked.named (mt (h.action_eq_iff (by decide)).mp hlist)
        (mt (h.action_eq_iff (by decide)).mp hwrite) (h.domain.trans hd)
    | modifyFour hmod ips hips n hn h0 =>
      have hzero := (hchecked.modify ((h.action_eq_iff (by decide)).mpr hmod)).1
      rw [h.four, hips, Option.getD_some] at hzero
      exact h0 (hzero n hn)
    | modifyNs hmod n hn h0 =>
      have hzero := (hchecked.modify ((h.action_eq_iff (by decide)).mpr hmod)).2
      rw [h.ns, hn, Option.getD_some] at hzero
      exact h0 hzero
  · intro hok
    refine ⟨?_, ?_, ?_, ?_, ?_, ?_⟩
    · intro t ht
      by_contra hno
      obtain ⟨hdomain, hip⟩ := not_or.mp hno
      exact hok (.ntpServer t (h.ntpserver.symm.trans ht) hdomain hip)
    · intro d hd
      by_contra hno
      exact hok (.domain d (h.domain.symm.trans hd) hno)
    · exact fun hv => hok (.version ((h.action_eq_iff (by decide)).mp hv))
    · exact fun hn => hok (.noAction (h.action_eq_none_iff.mp hn))
    · exact fun hlist hwrite hd => hok (.noDomain (mt (h.action_eq_iff (by decide)).mpr hlist)
        (mt (h.action_eq_iff (by decide)).mpr hwrite) (h.domain.symm.trans hd))
    · intro hmod
      have hmod' := (h.action_eq_iff (by decide)).mp hmod
      constructor
      · rw [h.four]
        intro n hn
        by_contra h0
        cases hfour : given CbcdomainOption.fourArg opts with
        | none =>
          rw [hfour] at hn
          exact h0 (List.eq_of_mem_replicate (n := 4) hn)
        | some ips =>
          rw [hfour] at hn
          exact hok (.modifyFour hmod' ips hfour n hn h0)
      · rw [h.ns]
        by_contra h0
        cases hns : given CbcdomainOption.nsArg opts with
        | none => exact h0 (by rw [hns, Option.getD_none])
        | some n =>
          rw [hns] at h0
          exact hok (.modifyNs hmod' n hns h0)

/-- A command line is parsed unless one of the other checks refuses it. -/
theorem exists_parseCbcdomain_iff :
    (∃ cdl, parseCbcdomainCommLine opts = .ok cdl) ↔ ¬CbcdomainRefused opts := by
  by_cases hknown : .unknown ∈ opts
  · refine iff_of_false ?_ (fun h => h (.usage hknown))
    rintro ⟨cdl, h⟩
    obtain ⟨⟨code, hloop⟩, -⟩ := parseCbcdomain_eq_ok_iff.mp h
    exact (exists_foldlM_iff exists_cbcdomainOption_iff).mp ⟨_, hloop⟩ _ hknown rfl
  · obtain ⟨⟨cdl, code⟩, hloop⟩ := (exists_foldlM_iff (s := (CbcdomainOptions.init, .ok ()))
      exists_cbcdomainOption_iff).mpr fun o ho hunknown => hknown (hunknown ▸ ho)
    rw [← (lastGiven hloop).checked_iff hknown]
    constructor
    · rintro ⟨cdl', h⟩
      obtain ⟨⟨code', hloop'⟩, hchecked⟩ := parseCbcdomain_eq_ok_iff.mp h
      rw [hloop] at hloop'
      cases hloop'
      exact hchecked
    · exact fun hchecked => ⟨cdl, parseCbcdomain_eq_ok_iff.mpr ⟨⟨code, hloop⟩, hchecked⟩⟩

/-! ## Networks -/

theorem Network.splitOn_text (n : Network) : n.text.splitOn ',' =
    [n.start.text, n.last.text, n.gateway.text, n.netmask.text, n.ns.text] := by
  refine List.splitOn_intercalate ',' (fun w hw => ?_) (by simp)
  simp only [List.mem_cons, List.not_mem_nil, or_false] at hw
  rcases hw with rfl | rfl | rfl | rfl | rfl <;> exact IsAddress.comma_notMem ⟨_, rfl⟩

theorem Network.leading_text (n : Network) : leading 4 (n.text.splitOn ',') =
    some ([n.start, n.last, n.gateway, n.netmask], n.ns.text) := by
  rw [n.splitOn_text]
  simp only [leading, inetPton_text, Option.map_some, List.intercalate_singleton]

/-- The last `-k`, if it is a network, is what is stored. -/
theorem LastGiven.stored (h : LastGiven opts cdl) {n : Network}
    (hlast : (networkArgs opts).getLast? = some n.text) : n.Stored cdl := by
  have hgiven : given CbcdomainOption.networkArg opts = some n.text := hlast
  have hleading : leadingFour n.text = some [n.start, n.last, n.gateway, n.netmask] := by
    rw [leadingFour, n.leading_text, Option.map_some]
  have hfifth : fifthAddress n.text = some n.ns := by
    rw [fifthAddress, n.leading_text, Option.bind_some, inetPton_text]
  have hfour : given CbcdomainOption.fourArg opts =
      some [n.start.toNat, n.last.toNat, n.gateway.toNat, n.netmask.toNat] :=
    (given_map _ _ opts).trans (congrArg _ (given_bind hgiven hleading))
  have hns : given CbcdomainOption.nsArg opts = some n.ns.toNat :=
    (given_map _ _ opts).trans (congrArg _ (given_bind hgiven hfifth))
  have h4 := h.four
  have h5 := h.ns
  rw [hfour, Option.getD_some, CbcdomainOptions.four] at h4
  rw [hns, Option.getD_some] at h5
  simp only [List.cons.injEq, and_true] at h4
  exact ⟨h4.1, h4.2.1, h4.2.2.1, h4.2.2.2, h5⟩

/-- Without a network nothing is added. -/
theorem LastGiven.addRefused (h : LastGiven opts cdl) (hnone : networkArgs opts = [])
    (env : CbcEnv) (db : BuildDb) : AddRefused env db cdl.commLine := by
  have hfour : given CbcdomainOption.fourArg opts = none := by
    have hmap : opts.filterMap CbcdomainOption.fourArg = (networkArgs opts).filterMap fun s =>
        (leadingFour s).map (List.map Quad.toNat) := by
      rw [networkArgs, List.filterMap_filterMap]
      refine List.filterMap_congr fun o _ => ?_
      rw [CbcdomainOption.fourArg, Option.map_bind]
      rfl
    rw [given, hmap, hnone]
    rfl
  have h4 := h.four
  rw [hfour, Option.getD_none, CbcdomainOptions.four, List.cons.injEq] at h4
  exact .inr (.inr (.inl h4.1))

/-- The parser is right about the command lines whose networks are all well formed, and about
those that another check refuses. -/
theorem networkRight_iff (opts : List CbcdomainOption) : NetworkRight opts ↔
    (∀ s ∈ networkArgs opts, ∃ n : Network, s = n.text) ∨ CbcdomainRefused opts := by
  constructor
  · intro h
    by_contra hno
    obtain ⟨hbad, hok⟩ := not_or.mp hno
    obtain ⟨cdl, hcdl⟩ := exists_parseCbcdomain_iff.mpr hok
    exact hbad (h cdl hcdl).1
  · rintro (hall | hrefused) cdl hcdl
    · obtain ⟨⟨code, hloop⟩, -⟩ := parseCbcdomain_eq_ok_iff.mp hcdl
      have hgiven := lastGiven hloop
      refine ⟨hall, fun n hn => hgiven.stored hn, fun env w => ?_⟩
      rw [addCbcBuildDomain_snd]
      split_ifs with hadd
      · exact .inl rfl
      · have hne : networkArgs opts ≠ [] := fun hnone =>
          hadd (hgiven.addRefused hnone env w.build)
        obtain ⟨n, hn⟩ := hall _ (List.getLast_mem hne)
        exact .inr ⟨⟨n, by rw [List.getLast?_eq_getLast_of_ne_nil hne, hn]⟩, rfl⟩
    · exact absurd hrefused (exists_parseCbcdomain_iff.mp ⟨cdl, hcdl⟩)

/-- `cbcdomain -a -n uk -k 10.0.0.10,10.0.0.20,10.0.0.1,255.255.255.0,x`. -/
def shortNetwork : List CbcdomainOption :=
  [.add, .name "uk".toList, .network "10.0.0.10,10.0.0.20,10.0.0.1,255.255.255.0,x".toList]

/-- The fifth field is no address, and the domain is added with the number `0` in its place. -/
theorem not_networkRight : ¬∀ opts, NetworkRight opts := by
  intro h
  have hok : ¬CbcdomainRefused shortNetwork := by
    intro hrefused
    cases hrefused with
    | usage hmem => exact absurd hmem (by decide)
    | ntpServer t ht => cases ht
    | domain d hd hdomain =>
      obtain rfl := Option.some.inj hd
      exact hdomain validate_uk
    | version hv => cases hv
    | noAction hn => cases hn
    | noDomain hlist hwrite hd => cases hd
    | modifyFour hmod => cases hmod
    | modifyNs hmod => cases hmod
  obtain ⟨cdl, hcdl⟩ := exists_parseCbcdomain_iff.mpr hok
  obtain ⟨n, hn⟩ := (h shortNetwork cdl hcdl).1 _ List.mem_cons_self
  have hsplit := congrArg (List.splitOn ',') hn
  rw [n.splitOn_text] at hsplit
  have hlast := congrArg List.getLast? hsplit
  have hx : inetPton ['x'] = some n.ns := inetPton_eq_some_iff.mpr (Option.some.inj hlast)
  have hnone : inetPton ['x'] = none := by decide
  rw [hnone] at hx
  cases hx

end Cmdb
