import Mathlib.Tactic.Ring
import Cmdb.CString

/-!
# Dotted quads

IPv4 addresses as four octets, their text and their number. `inetPton` reads exactly
the texts `Quad.text` writes (`inetPton_eq_some_iff`), so text and number carry the
same information (`Quad.text_inj`, `Quad.toNat_inj`).

The text splits behind its first `k` octets into a network part, dots included, and a
host part (`Quad.text_eq_netText_append`). Dots keep the parts apart : an address starts with
the network part of another iff the two agree in `k` octets, iff their numbers agree
above the last `4 - k` octets (`Quad.netText_prefix_text_iff`,
`Quad.netText_eq_iff_div`). Without the closing dot this fails : `10.0.1` starts `10.0.10.5`.
-/

namespace DottedQuad

open CString

/-- The decimal text of an octet. -/
def octetText (n : ℕ) : CStr := Nat.toDigits 10 n

/-- Octets, each closed by a dot. -/
def dotted (os : List ℕ) : CStr := os.flatMap fun o => octetText o ++ ['.']

/-- Read an octet : decimal, below 256, no leading zero. -/
def parseOctet (w : CStr) : Option (Fin 256) :=
  if h : Nat.ofDigitChars 10 w 0 < 256 then
    if octetText (Nat.ofDigitChars 10 w 0) = w then some ⟨_, h⟩ else none
  else none

/-- An IPv4 address `a.b.c.d`. -/
structure Quad where
  a : Fin 256
  b : Fin 256
  c : Fin 256
  d : Fin 256
deriving DecidableEq, Repr

/-! ## Octet texts -/

theorem octetText_inj {m n : ℕ} : octetText m = octetText n ↔ m = n := by
  refine ⟨fun h => ?_, congrArg _⟩
  rw [← Nat.ofDigitChars_ten_toDigits (n := m), ← Nat.ofDigitChars_ten_toDigits (n := n)]
  exact congrArg (Nat.ofDigitChars 10 · 0) h

theorem dot_notMem_octetText (n : ℕ) : '.' ∉ octetText n := fun h =>
  absurd (Nat.isDigit_of_mem_toDigits (by decide) (by decide) h) (by decide)

theorem length_octetText_le (o : Fin 256) : (octetText o).length ≤ 3 :=
  (Nat.length_toDigits_le_iff (by decide) (by decide)).mpr (by omega)

theorem parseOctet_eq_some_iff {w : CStr} {o : Fin 256} :
    parseOctet w = some o ↔ w = octetText o := by
  unfold parseOctet
  constructor
  · intro h
    split at h
    · split at h
      next hw => cases h; exact hw.symm
      next => cases h
    · cases h
  · rintro rfl
    have h : Nat.ofDigitChars 10 (octetText o) 0 = o := Nat.ofDigitChars_ten_toDigits
    rw [dif_pos (by omega), if_pos (by rw [h])]
    exact congrArg some (Fin.ext h)

/-! ## Dotted octets -/

@[simp] theorem dotted_nil : dotted [] = [] := rfl

@[simp] theorem dotted_cons (o : ℕ) (os : List ℕ) :
    dotted (o :: os) = octetText o ++ '.' :: dotted os := by
  simp [dotted]

theorem dotted_append (os os' : List ℕ) : dotted (os ++ os') = dotted os ++ dotted os' :=
  List.flatMap_append

/-- Octets closed by dots can be read back one by one. -/
theorem dotted_append_inj : ∀ {os os' : List ℕ}, os.length = os'.length → ∀ {s s' : CStr},
    dotted os ++ s = dotted os' ++ s' ↔ os = os' ∧ s = s'
  | [], [], _, s, s' => by simp
  | o :: os, o' :: os', h, s, s' => by
    rw [dotted_cons, dotted_cons, List.append_assoc, List.append_assoc, List.cons_append,
      List.cons_append, append_cons_inj (dot_notMem_octetText o) (dot_notMem_octetText o'),
      octetText_inj, dotted_append_inj (Nat.succ.inj h), List.cons.injEq, and_assoc]

theorem dotted_inj {os os' : List ℕ} (h : os.length = os'.length) :
    dotted os = dotted os' ↔ os = os' := by
  have hinj : dotted os ++ [] = dotted os' ++ [] ↔ os = os' ∧ ([] : CStr) = [] :=
    dotted_append_inj h
  rwa [List.append_nil, List.append_nil, and_iff_left rfl] at hinj

theorem count_dot_dotted : ∀ os : List ℕ, (dotted os).count '.' = os.length
  | [] => rfl
  | o :: os => by
    rw [dotted_cons, List.count_append, List.count_cons_self, count_dot_dotted os,
      List.count_eq_zero.mpr (dot_notMem_octetText o), zero_add, List.length_cons]

theorem isDigit_or_dot_of_mem_dotted {os : List ℕ} {c : Char} (h : c ∈ dotted os) :
    c.isDigit ∨ c = '.' := by
  obtain ⟨o, -, hc⟩ := List.mem_flatMap.mp h
  rcases List.mem_append.mp hc with hc | hc
  · exact .inl (Nat.isDigit_of_mem_toDigits (by decide) (by decide) hc)
  · exact .inr (List.mem_singleton.mp hc)

theorem exists_dotted_eq_concat {os : List ℕ} (h : os ≠ []) : ∃ s, dotted os = s ++ ['.'] := by
  refine ⟨dotted os.dropLast ++ octetText (os.getLast h), ?_⟩
  conv_lhs => rw [← List.dropLast_append_getLast h, dotted_append]
  simp

namespace Quad

/-- The address as a number, in host byte order. -/
def toNat (q : Quad) : ℕ := ((q.a * 256 + q.b) * 256 + q.c) * 256 + q.d

/-- The address of a number, taken modulo `2^32`. -/
def ofNat (n : ℕ) : Quad where
  a := ⟨n / 16777216 % 256, by omega⟩
  b := ⟨n / 65536 % 256, by omega⟩
  c := ⟨n / 256 % 256, by omega⟩
  d := ⟨n % 256, by omega⟩

/-- The four octets. -/
def octets (q : Quad) : List ℕ := [q.a, q.b, q.c, q.d]

/-- The first `k` octets, each closed by a dot. -/
def netText (q : Quad) (k : ℕ) : CStr := dotted (q.octets.take k)

/-- The octets behind the first `k`, separated by dots. -/
def hostText (q : Quad) (k : ℕ) : CStr := ['.'].intercalate ((q.octets.drop k).map octetText)

/-- The text `a.b.c.d`. -/
def text (q : Quad) : CStr := q.hostText 0

end Quad

/-- `inet_ntop` on the low 32 bits. -/
def inetNtop (n : ℕ) : CStr := (Quad.ofNat n).text

/-- `inet_pton` : four octets between three dots. -/
def inetPton (s : CStr) : Option Quad :=
  match s.splitOn '.' with
  | [w, x, y, z] => do
    let a ← parseOctet w
    let b ← parseOctet x
    let c ← parseOctet y
    let d ← parseOctet z
    return ⟨a, b, c, d⟩
  | _ => none

namespace Quad

variable {p q : Quad} {k n : ℕ}

/-! ## Numbers -/

theorem toNat_lt (q : Quad) : q.toNat < 4294967296 := by
  rw [toNat]
  omega

theorem toNat_ofNat (h : n < 4294967296) : (ofNat n).toNat = n := by
  simp only [toNat, ofNat]
  omega

theorem toNat_inj : p.toNat = q.toNat ↔ p = q := by
  refine ⟨fun h => ?_, congrArg _⟩
  obtain ⟨a, b, c, d⟩ := p
  obtain ⟨a', b', c', d'⟩ := q
  simp only [toNat] at h
  simp only [mk.injEq, Fin.ext_iff]
  omega

theorem ofNat_toNat (q : Quad) : ofNat q.toNat = q := toNat_inj.mp (toNat_ofNat q.toNat_lt)

/-! ## Text -/

theorem netText_zero (q : Quad) : q.netText 0 = [] := rfl

theorem text_eq_netText_append (q : Quad) (hk : k ≤ 3) : q.text = q.netText k ++ q.hostText k := by
  obtain rfl | rfl | rfl | rfl : k = 0 ∨ k = 1 ∨ k = 2 ∨ k = 3 := by omega
  all_goals simp [text, netText, hostText, octets]

theorem isDigit_or_dot_of_mem_text {c : Char} (h : c ∈ q.text) : c.isDigit ∨ c = '.' := by
  have hlast : q.hostText 3 = octetText q.d := by simp [hostText, octets]
  rw [text_eq_netText_append q (Nat.le_refl 3), hlast] at h
  rcases List.mem_append.mp h with h | h
  · exact isDigit_or_dot_of_mem_dotted h
  · exact .inl (Nat.isDigit_of_mem_toDigits (by decide) (by decide) h)

theorem length_text_lt (q : Quad) : q.text.length < 16 := by
  have ha := length_octetText_le q.a
  have hb := length_octetText_le q.b
  have hc := length_octetText_le q.c
  have hd := length_octetText_le q.d
  simp only [text, hostText, octets, List.drop_zero, List.map_cons, List.map_nil,
    List.intercalate_cons_cons, List.intercalate_singleton, List.length_append,
    List.length_singleton]
  omega

theorem length_hostText_lt (q : Quad) (hk : k ≤ 3) : (q.hostText k).length < 16 := by
  have h := q.length_text_lt
  rw [q.text_eq_netText_append hk, List.length_append] at h
  omega

theorem length_hostText_add_one_lt (q : Quad) (h0 : 0 < k) (hk : k ≤ 3) :
    (q.hostText k).length + 1 < 16 := by
  have h := q.length_text_lt
  have h1 : 0 < (q.netText k).length := by
    obtain rfl | rfl | rfl : k = 1 ∨ k = 2 ∨ k = 3 := by omega
    all_goals simp [netText, octets]
  rw [q.text_eq_netText_append hk, List.length_append] at h
  omega

theorem length_netText_lt (q : Quad) (hk : k ≤ 3) : (q.netText k).length < 13 := by
  have ha := length_octetText_le q.a
  have hb := length_octetText_le q.b
  have hc := length_octetText_le q.c
  obtain rfl | rfl | rfl | rfl : k = 0 ∨ k = 1 ∨ k = 2 ∨ k = 3 := by omega
  all_goals
    simp only [netText, octets, List.take_succ_cons, List.take_zero, dotted_cons, dotted_nil,
      List.length_append, List.length_cons, List.length_nil]
    omega

end Quad

theorem inetPton_text (q : Quad) : inetPton q.text = some q := by
  have h : q.text.splitOn '.' = q.octets.map octetText :=
    List.splitOn_intercalate '.' (by simp [Quad.octets, dot_notMem_octetText])
      (by simp [Quad.octets])
  simp only [inetPton, h, Quad.octets, List.map_cons, List.map_nil,
    parseOctet_eq_some_iff.mpr rfl, Option.bind_eq_bind, Option.bind_some]
  rfl

/-- `inetPton` accepts exactly the texts of addresses. -/
theorem inetPton_eq_some_iff {s : CStr} {q : Quad} : inetPton s = some q ↔ s = q.text := by
  refine ⟨fun h => ?_, fun h => h ▸ inetPton_text q⟩
  unfold inetPton at h
  split at h
  next w x y z hs =>
    simp only [Option.bind_eq_bind, Option.bind_eq_some_iff, parseOctet_eq_some_iff] at h
    obtain ⟨a, rfl, b, rfl, c, rfl, d, rfl, h⟩ := h
    cases h
    calc s = ['.'].intercalate (s.splitOn '.') := (List.intercalate_splitOn '.').symm
      _ = _ := by rw [hs]; rfl
  next => cases h

theorem inetPton_inetNtop {n : ℕ} : inetPton (inetNtop n) = some (Quad.ofNat n) := inetPton_text _

namespace Quad

variable {p q : Quad} {k : ℕ}

theorem text_inj : p.text = q.text ↔ p = q := by
  refine ⟨fun h => ?_, congrArg _⟩
  have := inetPton_text q
  rw [← h, inetPton_text, Option.some.injEq] at this
  exact this

/-! ## Network and host parts -/

theorem netText_append_inj {s s' : CStr} :
    p.netText k ++ s = q.netText k ++ s' ↔ p.netText k = q.netText k ∧ s = s' := by
  have hlen : (p.octets.take k).length = (q.octets.take k).length := by simp [octets]
  rw [netText, netText, dotted_append_inj hlen, dotted_inj hlen]

theorem netText_append_eq_text_iff (hk : k ≤ 3) {s : CStr} :
    p.netText k ++ s = q.text ↔ p.netText k = q.netText k ∧ s = q.hostText k := by
  rw [q.text_eq_netText_append hk, netText_append_inj]

theorem netText_prefix_text_iff (hk : k ≤ 3) :
    p.netText k <+: q.text ↔ p.netText k = q.netText k := by
  constructor
  · rintro ⟨s, hs⟩
    exact ((netText_append_eq_text_iff hk).mp hs).1
  · intro h
    rw [q.text_eq_netText_append hk, h]
    exact List.prefix_append ..

theorem netText_eq_iff_take : p.netText k = q.netText k ↔ p.octets.take k = q.octets.take k :=
  dotted_inj (by simp [octets])

theorem netText_eq_iff_div (hk : k ≤ 3) :
    p.netText k = q.netText k ↔ p.toNat / 256 ^ (4 - k) = q.toNat / 256 ^ (4 - k) := by
  rw [netText_eq_iff_take]
  have hp := p.toNat_lt
  have hq := q.toNat_lt
  obtain rfl | rfl | rfl | rfl : k = 0 ∨ k = 1 ∨ k = 2 ∨ k = 3 := by omega
  all_goals
    simp only [octets, toNat, List.take_succ_cons, List.take_zero, List.cons.injEq, and_true,
      true_iff] at hp hq ⊢
    omega

/-- The next octet moves from the host part to the network part. -/
theorem exists_octetText_succ (q : Quad) (hk : k < 3) : ∃ w, '.' ∉ w ∧
    q.hostText k = w ++ '.' :: q.hostText (k + 1) ∧
      q.netText (k + 1) = q.netText k ++ w ++ ['.'] := by
  obtain rfl | rfl | rfl : k = 0 ∨ k = 1 ∨ k = 2 := by omega
  · exact ⟨octetText q.a, dot_notMem_octetText _, by simp [hostText, octets],
      by simp [netText, octets]⟩
  · exact ⟨octetText q.b, dot_notMem_octetText _, by simp [hostText, octets],
      by simp [netText, octets]⟩
  · exact ⟨octetText q.c, dot_notMem_octetText _, by simp [hostText, octets],
      by simp [netText, octets]⟩

/-- The network part without its closing dot. -/
def netStem (q : Quad) (k : ℕ) : CStr := (q.netText k).dropLast

theorem netStem_append (q : Quad) (hk : 0 < k) : q.netStem k ++ ['.'] = q.netText k := by
  have h : q.octets.take k ≠ [] := by
    rw [Ne, List.take_eq_nil_iff]
    simp [octets, hk.ne']
  obtain ⟨s, hs⟩ := exists_dotted_eq_concat h
  rw [netStem, netText, hs, List.dropLast_concat]

theorem strrchr_netText (q : Quad) (hk : 0 < k) :
    strrchr (q.netText k) '.' = some (q.netStem k).length := by
  rw [← netStem_append q hk]
  exact strrchr_append_cons (by simp) _

/-- The host part, closed by a dot. -/
theorem hostText_append_dot (q : Quad) (hk : k ≤ 3) :
    q.hostText k ++ ['.'] = dotted (q.octets.drop k) := by
  obtain rfl | rfl | rfl | rfl : k = 0 ∨ k = 1 ∨ k = 2 ∨ k = 3 := by omega
  all_goals simp [hostText, octets]

theorem count_dot_netText (q : Quad) (hk : k ≤ 3) : (q.netText k).count '.' = k := by
  rw [netText, count_dot_dotted, List.length_take, octets, List.length_cons]
  simp only [List.length_cons, List.length_nil]
  omega

theorem count_dot_hostText (q : Quad) (hk : k ≤ 3) : (q.hostText k).count '.' = 3 - k := by
  have h := count_dot_dotted (q.octets.drop k)
  rw [← q.hostText_append_dot hk, List.count_append, List.length_drop] at h
  simp only [octets, List.length_cons, List.length_nil, List.count_singleton_self] at h
  omega

end Quad

end DottedQuad
