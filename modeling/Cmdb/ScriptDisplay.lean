import Mathlib.Data.Char
import Mathlib.Data.List.Destutter
import Mathlib.Data.List.Lex
import Cmdb.CString

/-!
# Display of the script arguments

`cbc_script_args_display_all_domain` remembers the last domain and the last build type, and
prints the heading of each when it changes. The name of the script goes with the heading of
the build. Where the domain changes and the build type does not, the new domain gets neither
(`headed_iff`).
-/

namespace Cmdb

open CString

/-! ## The code -/

/-- A row of `SYSTEM_SCRIPTS_ON_NAME`. -/
structure ScriptArgLine where
  domain : CStr
  btAlias : CStr
  no : ℕ
  arg : CStr
deriving DecidableEq, Repr

/-- What one `printf` writes : the heading of a domain, the first or a further one, that of a
build, the name of the script, an argument, or the end of the last line. -/
inductive DisplayPiece
  | domain (first : Bool) (domain : CStr)
  | build (type : CStr)
  | script (name : CStr)
  | argument (arg : CStr)
  | newline
deriving DecidableEq, Repr

def DisplayPiece.text : DisplayPiece → CStr
  | .domain first d => (if first then [] else "\n\n".toList) ++ "Domain: ".toList ++ d
  | .build type => "\n ".toList ++ type ++ " build\n".toList
  | .script name => "\t".toList ++ name
  | .argument arg => " ".toList ++ arg
  | .newline => "\n".toList

/-- The heading of the domain, after `domain`. -/
def domainHeading (domain : Option CStr) (e : ScriptArgLine) : List DisplayPiece :=
  match domain with
  | none => [.domain true e.domain]
  | some d => if d ≠ e.domain then [.domain false e.domain] else []

/-- The heading of the build, after `alias`, and the name of the script. -/
def buildHeading (name : CStr) (btAlias : Option CStr) (e : ScriptArgLine) : List DisplayPiece :=
  match btAlias with
  | none => [.build e.btAlias, .script name]
  | some a => if a ≠ e.btAlias then [.build e.btAlias, .script name] else []

/-- The loop of `cbc_script_args_display_all_domain`. -/
def displayLoop (name : CStr) : Option CStr → Option CStr → List ScriptArgLine → List DisplayPiece
  | _, _, [] => [.newline]
  | domain, btAlias, e :: s =>
    domainHeading domain e ++ buildHeading name btAlias e ++
      .argument e.arg :: displayLoop name (some e.domain) (some e.btAlias) s

/-- `cbc_script_args_display_all_domain`, piece by piece. Without a row it prints nothing. -/
def cbcScriptArgsDisplayAllDomain (name : CStr) (s : List ScriptArgLine) : List DisplayPiece :=
  if s = [] then [] else displayLoop name none none s

/-! ## The display as it is read -/

/-- The arguments that are printed, each with the domain it stands under, and with the build of
this domain. -/
def printedArgs : Option CStr → Option CStr → List DisplayPiece →
    List (Option CStr × Option CStr × CStr)
  | _, _, [] => []
  | _, _, .domain _ d :: ps => printedArgs (some d) none ps
  | d, _, .build a :: ps => printedArgs d (some a) ps
  | d, a, .argument x :: ps => (d, a, x) :: printedArgs d a ps
  | d, a, .script _ :: ps => printedArgs d a ps
  | d, a, .newline :: ps => printedArgs d a ps

/-- The names of scripts that are printed, in the same way. -/
def printedScripts : Option CStr → Option CStr → List DisplayPiece →
    List (Option CStr × Option CStr × CStr)
  | _, _, [] => []
  | _, _, .domain _ d :: ps => printedScripts (some d) none ps
  | d, _, .build a :: ps => printedScripts d (some a) ps
  | d, a, .script n :: ps => (d, a, n) :: printedScripts d a ps
  | d, a, .argument _ :: ps => printedScripts d a ps
  | d, a, .newline :: ps => printedScripts d a ps

/-- The group of a row. -/
def ScriptArgLine.group (r : ScriptArgLine) : CStr × CStr := (r.domain, r.btAlias)

/-- Every argument stands once under its own domain and build, and the name of the script once
for each group of them. -/
structure Headed (name : CStr) (rows : List ScriptArgLine) (ps : List DisplayPiece) : Prop where
  args : printedArgs none none ps = rows.map fun r => (some r.domain, some r.btAlias, r.arg)
  scripts : printedScripts none none ps =
    (rows.map ScriptArgLine.group).dedup.map fun g => (some g.1, some g.2, name)

/-- The order of the query : by domain, by build type, byte for byte, and by number. -/
def SortedLines (rows : List ScriptArgLine) : Prop :=
  rows.Pairwise fun r s => r.domain < s.domain ∨
    r.domain = s.domain ∧ (r.btAlias < s.btAlias ∨ r.btAlias = s.btAlias ∧ r.no ≤ s.no)

/-- Where the domain changes, the build type does. -/
def TypeChanges (r s : ScriptArgLine) : Prop := r.domain ≠ s.domain → r.btAlias ≠ s.btAlias

instance (r s : ScriptArgLine) : Decidable (TypeChanges r s) :=
  inferInstanceAs (Decidable (_ → _))

variable {name : CStr} {p r : ScriptArgLine} {rows : List ScriptArgLine}

/-! ## Headings of the next row -/

theorem domainHeading_of_eq (h : p.domain = r.domain) : domainHeading (some p.domain) r = [] :=
  if_neg (not_not.mpr h)

theorem domainHeading_of_ne (h : p.domain ≠ r.domain) :
    domainHeading (some p.domain) r = [.domain false r.domain] := if_pos h

theorem buildHeading_of_eq (h : p.btAlias = r.btAlias) :
    buildHeading name (some p.btAlias) r = [] :=
  if_neg (not_not.mpr h)

theorem buildHeading_of_ne (h : p.btAlias ≠ r.btAlias) :
    buildHeading name (some p.btAlias) r = [.build r.btAlias, .script name] := if_pos h

/-- Behind a row, the arguments are printed under their headings exactly if the build type
changes with the domain. -/
theorem printedArgs_displayLoop (name : CStr) : ∀ (rows : List ScriptArgLine) (p : ScriptArgLine),
    printedArgs (some p.domain) (some p.btAlias)
        (displayLoop name (some p.domain) (some p.btAlias) rows) =
      rows.map (fun r => (some r.domain, some r.btAlias, r.arg)) ↔
        (p :: rows).IsChain TypeChanges
  | [], p => by simp [displayLoop, printedArgs]
  | r :: rows, p => by
    have ih := printedArgs_displayLoop name rows r
    rw [displayLoop, List.isChain_cons_cons, List.map_cons, ← ih]
    by_cases hd : p.domain = r.domain
    · have hchange : TypeChanges p r := fun h => absurd hd h
      rw [domainHeading_of_eq hd]
      by_cases ha : p.btAlias = r.btAlias
      · rw [buildHeading_of_eq ha]
        simp [printedArgs, hd, ha, hchange]
      · rw [buildHeading_of_ne ha]
        simp [printedArgs, hd, hchange]
    · rw [domainHeading_of_ne hd]
      by_cases ha : p.btAlias = r.btAlias
      · -- no build stands under the new domain
        have hchange : ¬TypeChanges p r := fun h => h hd ha
        rw [buildHeading_of_eq ha]
        simp [printedArgs, hchange]
      · have hchange : TypeChanges p r := fun _ => ha
        rw [buildHeading_of_ne ha]
        simp [printedArgs, hchange]

/-- The name is printed where the group changes. -/
theorem printedScripts_displayLoop : ∀ {rows : List ScriptArgLine} {p : ScriptArgLine},
    (p :: rows).IsChain TypeChanges →
      (some p.domain, some p.btAlias, name) :: printedScripts (some p.domain) (some p.btAlias)
          (displayLoop name (some p.domain) (some p.btAlias) rows) =
        ((rows.map ScriptArgLine.group).destutter' (· ≠ ·) p.group).map fun g =>
          (some g.1, some g.2, name)
  | [], p, _ => by simp [displayLoop, printedScripts, ScriptArgLine.group]
  | r :: rows, p, h => by
    obtain ⟨hchange, hrows⟩ := List.isChain_cons_cons.mp h
    have ih := printedScripts_displayLoop hrows
    rw [displayLoop, List.map_cons]
    by_cases ha : p.btAlias = r.btAlias
    · have hd : p.domain = r.domain := by
        by_contra hd
        exact hchange hd ha
      have hgroup : p.group = r.group := by rw [ScriptArgLine.group, hd, ha]; rfl
      rw [domainHeading_of_eq hd, buildHeading_of_eq ha,
        List.destutter'_cons_neg _ (not_not.mpr hgroup), hgroup, ← ih, hd, ha]
      simp [printedScripts]
    · have hgroup : p.group ≠ r.group := fun hg => ha (congrArg Prod.snd hg)
      rw [buildHeading_of_ne ha, List.destutter'_cons_pos _ hgroup, List.map_cons, ← ih]
      by_cases hd : p.domain = r.domain
      · rw [domainHeading_of_eq hd]
        simp [printedScripts, ScriptArgLine.group, hd]
      · rw [domainHeading_of_ne hd]
        simp [printedScripts, ScriptArgLine.group]

/-! ## The whole display -/

/-- The order of the groups. -/
def GroupLe (g g' : CStr × CStr) : Prop := g.1 < g'.1 ∨ g.1 = g'.1 ∧ g.2 ≤ g'.2

instance : Std.Antisymm GroupLe where
  antisymm := by
    rintro ⟨d, a⟩ ⟨d', a'⟩ (hlt | ⟨heq, hle⟩) (hlt' | ⟨heq', hle'⟩)
    · exact absurd hlt (lt_asymm hlt')
    · exact absurd hlt (heq' ▸ lt_irrefl _)
    · exact absurd hlt' (heq ▸ lt_irrefl _)
    · exact Prod.ext heq (le_antisymm hle hle')

theorem pairwise_groupLe (h : SortedLines rows) :
    (rows.map ScriptArgLine.group).Pairwise GroupLe := by
  refine List.pairwise_map.mpr (List.Pairwise.imp ?_ h)
  rintro r s (hlt | ⟨heq, hlt | ⟨heq', -⟩⟩)
  · exact .inl hlt
  · exact .inr ⟨heq, le_of_lt hlt⟩
  · exact .inr ⟨heq, le_of_eq heq'⟩

/-- In the order of the query, everything is printed under its headings exactly if no build type
is the last one of a domain and the first one of the next. -/
theorem headed_iff (h : SortedLines rows) :
    Headed name rows (cbcScriptArgsDisplayAllDomain name rows) ↔ rows.IsChain TypeChanges := by
  rcases rows with _ | ⟨r, rows⟩
  · refine iff_of_true ⟨rfl, rfl⟩ List.isChain_nil
  have hargs := printedArgs_displayLoop name rows r
  have hdisplay : cbcScriptArgsDisplayAllDomain name (r :: rows) =
      .domain true r.domain :: .build r.btAlias :: .script name :: .argument r.arg ::
        displayLoop name (some r.domain) (some r.btAlias) rows := rfl
  rw [hdisplay]
  constructor
  · intro hheaded
    have heq := hheaded.args
    simp only [printedArgs, List.map_cons, List.cons.injEq, true_and] at heq
    exact hargs.mp heq
  · intro hchain
    refine ⟨?_, ?_⟩
    · simp only [printedArgs, List.map_cons, hargs.mpr hchain]
    · rw [← (pairwise_groupLe h).destutter_eq_dedup, List.map_cons, List.destutter_cons',
        ← printedScripts_displayLoop hchain]
      rfl

/-- One build type in two domains. -/
def twoDomains : List ScriptArgLine :=
  [⟨"a.lab".toList, "debian".toList, 1, "web".toList⟩,
    ⟨"b.lab".toList, "debian".toList, 1, "web".toList⟩]

theorem headed_iff_twoDomains :
    Headed "ntp.sh".toList twoDomains (cbcScriptArgsDisplayAllDomain "ntp.sh".toList twoDomains) ↔
      twoDomains.IsChain TypeChanges :=
  headed_iff (by unfold SortedLines; decide)

theorem not_headed : ¬∀ name rows, SortedLines rows →
    Headed name rows (cbcScriptArgsDisplayAllDomain name rows) := by
  intro h
  have hscripts := (h "ntp.sh".toList twoDomains (by unfold SortedLines; decide)).scripts
  exact absurd hscripts (by decide)

end Cmdb
