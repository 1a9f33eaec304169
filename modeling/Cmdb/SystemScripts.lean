import Mathlib.Data.Char
import Mathlib.Data.List.Lex
import Cmdb.Ailsa
import Cmdb.Runs

/-!
# The system scripts of a build

`cbc_write_system_scripts` starts the line of a script at the argument with number `1`, and
closes it when the next one of another name comes. The name alone starts nothing : a script
whose arguments do not start at `1` has them on the line of the script before it, and one
with two arguments `1` runs twice (`writeSystemScripts_eq_iff`).
-/

namespace Cmdb

open CString Runs

/-! ## The code -/

/-- A row of `SYSTEM_SCRIPTS_ON_DOMAIN_AND_BUILD_TYPE`, and the `ailsa_sysscript_s` that is
made of it. -/
structure AilsaSysscript where
  name : CStr
  arg : CStr
  no : ℕ
deriving DecidableEq, Repr

/-- `cbc_fill_system_scripts`. -/
def cbcFillSystemScripts (list : List AilsaSysscript) : List AilsaSysscript :=
  list.map fun e => { name := e.name.take domainLen, arg := e.arg.take domainLen, no := e.no }

/-- What one `dprintf` writes : the fetch and the call of a script with its first argument,
a further argument, or the redirection to the log. -/
inductive ScriptPiece
  | start (name arg : CStr)
  | more (arg : CStr)
  | log (name : CStr)
deriving DecidableEq, Repr

def ScriptPiece.text (url : CStr) : ScriptPiece → CStr
  | .start name arg => "\n\n$WGET ".toList ++ url ++ "scripts/".toList ++ name ++
      "\nchmod 755 ".toList ++ name ++ "\n./".toList ++ name ++ " ".toList ++ arg
  | .more arg => " ".toList ++ arg
  | .log name => " > ".toList ++ name ++ ".log 2>&1\n".toList

/-- The loop of `cbc_write_system_scripts`, and the last redirection. -/
def systemScriptsLoop (name : CStr) : List AilsaSysscript → List ScriptPiece
  | [] => [.log name]
  | ss :: e =>
    if ss.no = 1 then
      (if ¬StrncmpEq name ss.name domainLen then [.log name] else []) ++
        .start ss.name ss.arg :: systemScriptsLoop ss.name e
    else .more ss.arg :: systemScriptsLoop name e

/-- `cbc_write_system_scripts`, piece by piece. -/
def cbcWriteSystemScripts : List AilsaSysscript → List ScriptPiece
  | [] => []
  | ss :: e => systemScriptsLoop ss.name (ss :: e)

/-- The text that is written. -/
def systemScriptsText (url : CStr) (sys : List AilsaSysscript) : CStr :=
  (cbcWriteSystemScripts sys).flatMap (·.text url)

/-! ## The script as it is meant -/

/-- The line of one script : its call, all of its arguments, and the redirection. -/
def invocation (name : CStr) : List AilsaSysscript → List ScriptPiece
  | [] => []
  | ss :: e => .start name ss.arg :: e.map (.more ·.arg) ++ [.log name]

/-- A line for every name, with the arguments of this name. -/
def invocations (rows : List AilsaSysscript) : List ScriptPiece :=
  byKey AilsaSysscript.name invocation rows

/-- The order of the query : by name, byte for byte, and then by number. -/
def SortedScripts (rows : List AilsaSysscript) : Prop :=
  rows.Pairwise fun r s => r.name < s.name ∨ r.name = s.name ∧ r.no ≤ s.no

/-- The first argument has the number `1`, and no other has. -/
def NumberedFromOne : List AilsaSysscript → Prop
  | [] => True
  | ss :: e => ss.no = 1 ∧ ∀ s ∈ e, s.no ≠ 1

/-- Names and arguments fit into the copies, and the arguments of each script are
`NumberedFromOne`. -/
def ScriptsNumbered (rows : List AilsaSysscript) : Prop :=
  (∀ r ∈ rows, r.name.length ≤ domainLen ∧ r.arg.length ≤ domainLen) ∧
    ∀ name, NumberedFromOne (rows.filter (·.name = name))

variable {rows g rest : List AilsaSysscript} {ss : AilsaSysscript} {name : CStr}

/-! ## One script -/

theorem strncmpEq_domainLen {s t : CStr} (hs : s.length ≤ domainLen) (ht : t.length ≤ domainLen) :
    StrncmpEq s t domainLen ↔ s = t := by
  rw [StrncmpEq, List.take_of_length_le hs, List.take_of_length_le ht]

/-- The further arguments of a script are on its line exactly if none has the number `1`. -/
theorem systemScriptsLoop_append (hname : name.length ≤ domainLen) (ps : List ScriptPiece) :
    ∀ {g : List AilsaSysscript}, (∀ s ∈ g, s.name = name) →
      (systemScriptsLoop name (g ++ rest) = g.map (.more ·.arg) ++ ps ↔
        (∀ s ∈ g, s.no ≠ 1) ∧ systemScriptsLoop name rest = ps)
  | [], _ => by simp
  | ss :: g, hg => by
    have hss := hg ss (List.mem_cons_self ..)
    have ih := systemScriptsLoop_append hname ps fun s hs =>
      hg s (List.mem_cons_of_mem _ hs)
    rw [List.cons_append, systemScriptsLoop, List.map_cons, List.cons_append]
    by_cases hno : ss.no = 1
    · -- the script is called once more
      rw [if_pos hno, hss, if_neg (not_not.mpr ((strncmpEq_domainLen hname hname).mpr rfl)),
        List.nil_append, List.cons.injEq]
      refine ⟨fun h => absurd h.1 (by simp), fun h => absurd hno (h.1 ss (List.mem_cons_self ..))⟩
    · rw [if_neg hno, List.cons.injEq, ih, List.forall_mem_cons]
      simp [hno]

/-- A script that is started is written as it is meant, and the others behind it, exactly if
its first argument and then the others are numbered from `1`. -/
theorem started_eq_iff {k : CStr} {a : AilsaSysscript} (hk : k.length ≤ domainLen)
    (hg : ∀ s ∈ a :: g, s.name = k) (hrest : ∀ s ∈ rest, s.name ≠ k)
    (hrun : systemScriptsLoop k rest = .log k :: invocations rest ↔
      ∀ n, NumberedFromOne (rest.filter (·.name = n))) :
    (a.no = 1 ∧ .start k a.arg :: systemScriptsLoop k (g ++ rest) =
        invocations (a :: g ++ rest)) ↔
      ∀ n, NumberedFromOne ((a :: g ++ rest).filter (·.name = n)) := by
  have hmeant : invocations (a :: g ++ rest) =
      .start k a.arg :: (g.map (.more ·.arg) ++ .log k :: invocations rest) := by
    rw [invocations, byKey_append _ hg hrest, invocation, invocations]
    simp only [List.cons_append, List.nil_append, List.append_assoc]
  rw [hmeant, List.cons.injEq, eq_self, true_and,
    systemScriptsLoop_append hk _ fun s hs => hg s (List.mem_cons_of_mem _ hs), hrun,
    forall_filter_append trivial hg hrest, NumberedFromOne, and_assoc]

/-- Behind the line of one script, the others are written as they are meant exactly if their
arguments are numbered from `1`. -/
theorem systemScriptsLoop_eq_iff (h : Grouped AilsaSysscript.name rows)
    (hlen : ∀ r ∈ rows, r.name.length ≤ domainLen) : ∀ {name : CStr}, name.length ≤ domainLen →
      (∀ r ∈ rows, r.name ≠ name) →
        (systemScriptsLoop name rows = .log name :: invocations rows ↔
          ∀ n, NumberedFromOne (rows.filter (·.name = n))) := by
  induction h with
  | nil => intro name _ _; simp [systemScriptsLoop, invocations, NumberedFromOne]
  | @append k a g rest hg hrest _ ih =>
    intro name hname hne
    have ha := hg a (List.mem_cons_self ..)
    have hk : k.length ≤ domainLen := ha ▸ hlen a (List.mem_append_left _ (List.mem_cons_self ..))
    have hdiff : ¬StrncmpEq name k domainLen := by
      rw [strncmpEq_domainLen hname hk, ← ha]
      exact (hne a (List.mem_append_left _ (List.mem_cons_self ..))).symm
    have hrun := ih (fun r hr => hlen r (List.mem_append_right _ hr)) hk hrest
    rw [← started_eq_iff hk hg hrest hrun, List.cons_append, systemScriptsLoop]
    by_cases hno : a.no = 1
    · rw [if_pos hno, ha, if_pos hdiff, List.singleton_append, List.cons.injEq, eq_self, true_and]
      exact (and_iff_right hno).symm
    · rw [if_neg hno, List.cons.injEq]
      exact iff_of_false (fun h => by cases h.1) fun h => hno h.1

/-! ## All scripts -/

theorem grouped_of_sortedScripts (h : SortedScripts rows) : Grouped AilsaSysscript.name rows := by
  refine grouped_of_pairwise (r := fun s t : CStr => s ≤ t) (List.pairwise_map.mpr ?_)
  refine List.Pairwise.imp ?_ h
  rintro r s (hlt | ⟨heq, -⟩)
  · exact le_of_lt hlt
  · exact le_of_eq heq

theorem cbcWriteSystemScripts_eq_iff (h : Grouped AilsaSysscript.name rows)
    (hlen : ∀ r ∈ rows, r.name.length ≤ domainLen) :
    cbcWriteSystemScripts rows = invocations rows ↔
      ∀ n, NumberedFromOne (rows.filter (·.name = n)) := by
  cases h with
  | nil => simp [cbcWriteSystemScripts, invocations, NumberedFromOne]
  | @append k a g rest hg hrest h =>
    have ha := hg a (List.mem_cons_self ..)
    have hk : k.length ≤ domainLen := ha ▸ hlen a (List.mem_append_left _ (List.mem_cons_self ..))
    have hrun := systemScriptsLoop_eq_iff h (fun r hr => hlen r (List.mem_append_right _ hr)) hk
      hrest
    rw [← started_eq_iff hk hg hrest hrun, List.cons_append, cbcWriteSystemScripts,
      systemScriptsLoop]
    by_cases hno : a.no = 1
    · rw [if_pos hno, ha, if_neg (not_not.mpr ((strncmpEq_domainLen hk hk).mpr rfl))]
      exact (and_iff_right hno).symm
    · rw [if_neg hno]
      refine iff_of_false (fun h => ?_) fun h => hno h.1
      have hmeant := byKey_append invocation hg hrest
      rw [← List.cons_append, invocations, hmeant] at h
      cases h

/-- The texts of the piece are no longer than the copies. -/
def ScriptPiece.Fits : ScriptPiece → Prop
  | .start name arg => name.length ≤ domainLen ∧ arg.length ≤ domainLen
  | .more arg => arg.length ≤ domainLen
  | .log name => name.length ≤ domainLen

theorem systemScriptsLoop_fits : ∀ {rows : List AilsaSysscript} {name : CStr},
    name.length ≤ domainLen → (∀ r ∈ rows, r.name.length ≤ domainLen ∧ r.arg.length ≤ domainLen) →
      ∀ p ∈ systemScriptsLoop name rows, p.Fits
  | [], name, hname, _, p, hp => by
    rw [systemScriptsLoop, List.mem_singleton] at hp
    rw [hp]
    exact hname
  | ss :: e, name, hname, hlen, p, hp => by
    have hss := hlen ss (List.mem_cons_self ..)
    have he := fun r hr => hlen r (List.mem_cons_of_mem _ hr)
    have hlog : ∀ q ∈ if ¬StrncmpEq name ss.name domainLen then [ScriptPiece.log name] else [],
        q.Fits := by
      split_ifs
      · exact fun q hq => absurd hq List.not_mem_nil
      · intro q hq
        rw [List.mem_singleton.mp hq]
        exact hname
    rw [systemScriptsLoop] at hp
    by_cases hno : ss.no = 1
    · rw [if_pos hno] at hp
      rcases List.mem_append.mp hp with hp | hp
      · exact hlog p hp
      rcases List.mem_cons.mp hp with rfl | hp
      · exact hss
      · exact systemScriptsLoop_fits hss.1 he p hp
    · rw [if_neg hno] at hp
      rcases List.mem_cons.mp hp with rfl | hp
      · exact hss.2
      · exact systemScriptsLoop_fits hname he p hp

/-- Every argument and every name is in some piece that is meant. -/
theorem exists_mem_invocations {r : AilsaSysscript} (hr : r ∈ rows) :
    (.log r.name ∈ invocations rows) ∧
      (.start r.name r.arg ∈ invocations rows ∨ .more r.arg ∈ invocations rows) := by
  have hkey : r.name ∈ (rows.map AilsaSysscript.name).dedup :=
    List.mem_dedup.mpr (List.mem_map_of_mem hr)
  have hmem : r ∈ rows.filter (·.name = r.name) := List.mem_filter.mpr ⟨hr, by simp⟩
  have hsub : ∀ p ∈ invocation r.name (rows.filter (·.name = r.name)), p ∈ invocations rows :=
    fun p hp => List.mem_flatMap.mpr ⟨r.name, hkey, hp⟩
  rcases hfilter : rows.filter (·.name = r.name) with _ | ⟨ss, e⟩
  · rw [hfilter] at hmem
    exact absurd hmem List.not_mem_nil
  rw [hfilter, invocation] at hsub
  refine ⟨hsub _ (by simp), ?_⟩
  rw [hfilter] at hmem
  rcases List.mem_cons.mp hmem with rfl | he
  · exact .inl (hsub _ (by simp))
  · have hmap : ScriptPiece.more r.arg ∈ e.map (.more ·.arg) := List.mem_map.mpr ⟨r, he, rfl⟩
    exact .inr (hsub _ (by simp only [List.cons_append, List.mem_cons, List.mem_append, hmap,
      true_or, or_true]))

theorem cbcFillSystemScripts_of_length_le
    (hlen : ∀ r ∈ rows, r.name.length ≤ domainLen ∧ r.arg.length ≤ domainLen) :
    cbcFillSystemScripts rows = rows := by
  rw [cbcFillSystemScripts]
  conv_rhs => rw [← List.map_id rows]
  refine List.map_congr_left fun r hr => ?_
  obtain ⟨hname, harg⟩ := hlen r hr
  rw [List.take_of_length_le hname, List.take_of_length_le harg]
  rfl

/-- Every script has its line, with all of its arguments and no other, exactly if names and
arguments fit and the arguments of each script are numbered from `1`, only the first with it. -/
theorem writeSystemScripts_eq_iff (h : SortedScripts rows) :
    cbcWriteSystemScripts (cbcFillSystemScripts rows) = invocations rows ↔
      ScriptsNumbered rows := by
  have hgroup := grouped_of_sortedScripts h
  constructor
  · intro heq
    have hfits : ∀ p ∈ invocations rows, p.Fits := by
      rw [← heq]
      have hcopy : ∀ r ∈ cbcFillSystemScripts rows,
          r.name.length ≤ domainLen ∧ r.arg.length ≤ domainLen := by
        intro r hr
        obtain ⟨e, -, rfl⟩ := List.mem_map.mp hr
        exact ⟨List.length_take_le _ _, List.length_take_le _ _⟩
      rcases hsys : cbcFillSystemScripts rows with _ | ⟨ss, e⟩
      · exact fun p hp => absurd hp List.not_mem_nil
      · rw [hsys] at hcopy
        exact systemScriptsLoop_fits (hcopy ss (List.mem_cons_self ..)).1 hcopy
    have hlen : ∀ r ∈ rows, r.name.length ≤ domainLen ∧ r.arg.length ≤ domainLen := by
      intro r hr
      obtain ⟨hlog, hstart | hmore⟩ := exists_mem_invocations hr
      · exact ⟨hfits _ hlog, (hfits _ hstart).2⟩
      · exact ⟨hfits _ hlog, hfits _ hmore⟩
    rw [cbcFillSystemScripts_of_length_le hlen] at heq
    exact ⟨hlen, (cbcWriteSystemScripts_eq_iff hgroup fun r hr => (hlen r hr).1).mp heq⟩
  · rintro ⟨hlen, hnum⟩
    rw [cbcFillSystemScripts_of_length_le hlen]
    exact (cbcWriteSystemScripts_eq_iff hgroup fun r hr => (hlen r hr).1).mpr hnum

/-- Two scripts, the arguments of the second from `2` on. -/
def lateScripts : List AilsaSysscript :=
  [⟨"disable-install.sh".toList, "web".toList, 1⟩, ⟨"setup-ntp.sh".toList, "10.0.0.1".toList, 2⟩]

theorem writeSystemScripts_eq_iff_lateScripts :
    cbcWriteSystemScripts (cbcFillSystemScripts lateScripts) = invocations lateScripts ↔
      ScriptsNumbered lateScripts :=
  writeSystemScripts_eq_iff (by unfold SortedScripts; decide)

theorem not_writeSystemScripts_eq : ¬∀ rows, SortedScripts rows →
    cbcWriteSystemScripts (cbcFillSystemScripts rows) = invocations rows := by
  intro h
  exact absurd (h lateScripts (by unfold SortedScripts; decide)) (by decide)

end Cmdb
