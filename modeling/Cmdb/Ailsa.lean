import Mathlib.Data.Int.Notation
import Mathlib.Data.List.Forall2
import Cmdb.CString

/-!
# Shared data of the programs

Buffer sizes, the error codes the modelled functions return, the elements of a data
list and the DNS records of the rebuild. A function that returns a code `retval` is an
`Except AilsaError`, where `.ok` is code `0`.
-/

namespace Cmdb

open CString

/-! ## Buffer sizes -/

abbrev byteLen : ℕ := 8
abbrev serviceLen : ℕ := 16
abbrev macLen : ℕ := 32
abbrev hostLen : ℕ := 64
abbrev configLen : ℕ := 256
abbrev domainLen : ℕ := 256
abbrev fileLen : ℕ := 4096

/-! ## Codes -/

abbrev ailsaNoData : ℤ := 200

/-- The nonzero return codes, `AILSA_` dropped; `minusOne` is a bare `-1`, `rowCount` a
number of list elements returned as a code, `resolveFailed` what `getaddrinfo` returns
and `reloadFailed` the status of the reload. `nullDeref` is no code : the program goes
through a `NULL` pointer there. -/
inductive AilsaError
  | noData
  | inputInvalid
  | prefixOutOfRange
  | noHost
  | hostExists
  | noTopLevelDomain
  | cannotGetParent
  | ipConvertFailed
  | rangeError
  | wrongListLenght
  | fileError
  | stringFail
  | revZoneOverlap
  | statementFail
  | zoneNotFound
  | noMaster
  | noBuildDomain
  | noMacAddr
  | buildDomainOverlap
  | networkInvalid
  | serverNotFound
  | varientNotFound
  | destInputInvalid
  | noOs
  | noOsVersion
  | osNotFound
  | buildOsInUse
  | customerNotFound
  | varientReplaceFail
  | partitionReplaceFail
  | localeReplaceFail
  | osReplaceFail
  | rowCount (n : ℕ)
  | minusOne
  | resolveFailed
  | reloadFailed
  | nullDeref
deriving DecidableEq, Repr

section Except

variable {ε α β : Type}

@[simp] theorem ok_bind (a : α) (f : α → Except ε β) : (Except.ok a >>= f) = f a := rfl

@[simp] theorem error_bind (e : ε) (f : α → Except ε β) : (Except.error e >>= f) = .error e := rfl

@[simp] theorem pure_eq_ok (a : α) : (pure a : Except ε α) = .ok a := rfl

theorem bind_eq_ok {x : Except ε α} {f : α → Except ε β} {b : β} :
    (x >>= f) = .ok b ↔ ∃ a, x = .ok a ∧ f a = .ok b := by
  cases x with
  | error e => exact ⟨(nomatch ·), fun ⟨_, h, _⟩ => nomatch h⟩
  | ok a => exact ⟨fun h => ⟨a, rfl, h⟩, fun ⟨_, h, hf⟩ => by cases h; exact hf⟩

theorem mapM_eq_ok_iff {f : α → Except ε β} : ∀ {l : List α} {bs : List β},
    l.mapM f = .ok bs ↔ List.Forall₂ (fun a b => f a = .ok b) l bs
  | [], bs => by
    rw [List.mapM_nil, pure_eq_ok, Except.ok.injEq, List.forall₂_nil_left_iff, eq_comm]
  | a :: l, bs => by
    rw [List.mapM_cons, bind_eq_ok, List.forall₂_cons_left_iff]
    constructor
    · rintro ⟨b, hb, h⟩
      obtain ⟨bs', hbs, h⟩ := bind_eq_ok.mp h
      cases h
      exact ⟨b, bs', hb, mapM_eq_ok_iff.mp hbs, rfl⟩
    · rintro ⟨b, bs', hb, hbs, rfl⟩
      exact ⟨b, hb, bind_eq_ok.mpr ⟨bs', mapM_eq_ok_iff.mpr hbs, rfl⟩⟩

theorem exists_mapM_eq_ok {f : α → Except ε β} : ∀ {l : List α},
    (∀ a ∈ l, ∃ b, f a = .ok b) → ∃ bs, l.mapM f = .ok bs
  | [], _ => ⟨[], rfl⟩
  | a :: l, h => by
    obtain ⟨b, hb⟩ := h a (List.mem_cons_self ..)
    obtain ⟨bs, hbs⟩ := exists_mapM_eq_ok fun x hx => h x (List.mem_cons_of_mem _ hx)
    exact ⟨b :: bs, mapM_eq_ok_iff.mpr (.cons hb (mapM_eq_ok_iff.mp hbs))⟩

end Except

/-- An element of a data list (`ailsa_data_s`). -/
inductive AilsaData
  | number (n : ℕ)
  | text (s : CStr)
deriving DecidableEq, Repr

/-- What `cmdb_add_string_to_list` keeps of a string, and a statement binds. -/
def arg (str : CStr) : CStr := str.take configLen

theorem arg_of_length_le {s : CStr} (h : s.length ≤ configLen) : arg s = s :=
  List.take_of_length_le h

theorem map_arg_of_length_le : ∀ {s : Option CStr}, (∀ t ∈ s, t.length ≤ configLen) →
    s.map arg = s
  | none, _ => rfl
  | some t, h => congrArg some (arg_of_length_le (h t rfl))

/-- `cmdb_add_string_to_list` : at most `CONFIG_LEN` characters. -/
def cmdbAddStringToList (str : CStr) (list : List AilsaData) : List AilsaData :=
  list ++ [.text (arg str)]

/-- `cmdb_add_number_to_list`. -/
def cmdbAddNumberToList (number : ℕ) (list : List AilsaData) : List AilsaData :=
  list ++ [.number number]

/-- `cmdb_populate_cuser_muser` : the user twice. -/
def cmdbPopulateCuserMuser (uid : ℕ) (list : List AilsaData) : List AilsaData :=
  cmdbAddNumberToList uid (cmdbAddNumberToList uid list)

/-- A forward or reverse DNS record (`ailsa_record_s`). -/
structure AilsaRecord where
  host : CStr
  dest : CStr
  domain : CStr
  id : ℕ
  zone : ℕ
  index : ℕ
deriving DecidableEq, Repr

end Cmdb
