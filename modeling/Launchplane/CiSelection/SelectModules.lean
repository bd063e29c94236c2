import Launchplane.Text
import Launchplane.Worklist
import Mathlib.Data.Finset.Max
import Mathlib.Data.Finset.Sort
import Mathlib.Data.String.Basic

/-!
# Launchplane.CiSelection.SelectModules

**Focused checks.** From the modules of the repository and the names each of
them refers to, `selectModules` collects the tests that a set of changed paths
can affect, or answers that the full suite is needed. A module that is named, or
lies above one that is named, has the naming module as a consumer, and what is
affected by a change is what can be reached through consumers.

A Python set is a `Finset` here, and the order in which it is walked is given by
a `SetOrder`, of which nothing is known. `selectModules_eq_some` says what the
answer is without any such order.
-/

namespace Launchplane.CiSelection

open Launchplane.Worklist

/-- What is read of a source file: `imports` are the dotted names that the walk over its syntax
collects, and `scansControlPlane` says that it lists the files of `control_plane` with `rglob`. -/
structure Source where
  path : String
  imports : List String
  scansControlPlane : Bool := false
  deriving Repr, DecidableEq

/-- The order in which the sets of consumers are walked. -/
structure SetOrder where
  iterate : String → Finset String → List String
  mem_iterate : ∀ m s x, x ∈ iterate m s ↔ x ∈ s
  nodup_iterate : ∀ m s, (iterate m s).Nodup

/-! ### Names -/

/-- `str.startswith`. -/
def startsWith (start s : String) : Bool := start.toList.isPrefixOf s.toList

/-- `str.endswith`. -/
def endsWith (ending s : String) : Bool := ending.toList.isSuffixOf s.toList

/-- `str.removesuffix`. -/
def removeSuffix (ending s : String) : String :=
  if endsWith ending s then String.ofList (s.toList.take (s.toList.length - ending.toList.length))
  else s

/-- `module_name`. -/
def moduleName (path : String) : String :=
  String.ofList ((removeSuffix "/__init__" (removeSuffix ".py" path)).toList.map
    fun c => if c = '/' then '.' else c)

/-- The modules of the sources. -/
def modules (sources : List Source) : List String :=
  (sources.filter fun source => endsWith ".py" source.path).map fun source =>
    moduleName source.path

/-! ### Consumers -/

/-- `while imported and imported not in modules: imported = imported.rpartition(".")[0]`. -/
def firstModule (known : List String) : Nat → String → String
  | 0, imported => imported
  | fuel + 1, imported =>
      if imported ≠ "" ∧ imported ∉ known then firstModule known fuel (parentName imported)
      else imported

/-- The modules that the second loop registers while it climbs to the outermost package. -/
def enclosingModules (known : List String) : Nat → String → List String
  | 0, _ => []
  | fuel + 1, imported =>
      if imported = "" then []
      else
        (if imported ∈ known then [imported] else []) ++
          enclosingModules known fuel (parentName imported)

/-- The modules that get a consumer from one imported name. -/
def registered (known : List String) (imported : String) : List String :=
  let first := firstModule known imported.toList.length imported
  enclosingModules known first.toList.length first

/-- The pairs of a module and a consumer that one source file adds. -/
def sourceEdges (known : List String) (source : Source) : List (String × String) :=
  (if source.scansControlPlane then
      (known.filter (startsWith "control_plane.")).map (·, moduleName source.path)
    else []) ++
  source.imports.flatMap fun imported =>
    (registered known imported).map (·, moduleName source.path)

/-- `consumers[module]`. -/
def consumers (sources : List Source) (module_ : String) : Finset String :=
  (((sources.filter fun source => endsWith ".py" source.path).flatMap
    (sourceEdges (modules sources))).filter (·.1 = module_)).map (·.2) |>.toFinset

/-- What the worklist has seen when it is empty, from the module of a changed path. The budget
covers the start and every edge (`mem_reached`). -/
def reached (order : SetOrder) (sources : List Source) (path : String) : List String :=
  (explore (fun m => order.iterate m (consumers sources m))
    (1 + (modules sources).length * (modules sources).length) [moduleName path] []).getD []

/-! ### The selection -/

/-- The paths that are skipped. -/
def isDocumentation (path : String) : Bool :=
  (startsWith "docs/" path && endsWith ".md" path) || path = "README.md" || path = "AGENTS.md"

/-- The paths of known modules. -/
def isKnown (sources : List Source) (path : String) : Bool :=
  path ∈ sources.map Source.path && endsWith ".py" path &&
    (startsWith "control_plane/" path || startsWith "tests/" path)

/-- The test modules. -/
def isTest (sources : List Source) (name : String) : Bool :=
  startsWith "tests.test" name && name ∈ modules sources

/-- One pass of the loop over the changed paths. -/
def selectPath (isIdentifier : String → Bool) (order : SetOrder) (sources : List Source)
    (maxModules : Nat) (nativeModules : Finset String) (affected : Finset String)
    (path : String) : Option (Finset String) :=
  if isDocumentation path then some affected
  else if ¬ isKnown sources path then none
  else if ¬ ((moduleName path).toList.splitOn '.').all (isIdentifier ∘ String.ofList) then none
  else if endsWith "/__init__.py" path then none
  else
    let seen := reached order sources path
    if seen.any (startsWith "scripts.") then none
    else
      let tests := (seen.filter (isTest sources)).toFinset
      if tests ∩ nativeModules ≠ ∅ then none
      else if tests = ∅ then none
      else if maxModules < (affected ∪ tests).card then none
      else some (affected ∪ tests)

/-- `select_modules`: the affected tests, or `none` for the full suite. -/
def selectModules (isIdentifier : String → Bool) (order : SetOrder) (sources : List Source)
    (maxModules : Nat) (nativeModules : Finset String) (changed : List String) :
    Option (List String) :=
  (changed.foldlM (selectPath isIdentifier order sources maxModules nativeModules) ∅).map
    (Finset.sort ·)

/-! ### What the climbing registers -/

/-- `m` is the name, or a package above it. -/
def Encloses (m name : String) : Prop := m ≠ "" ∧ (m = name ∨ m.toList ++ ['.'] <+: name.toList)

theorem Encloses.refl {name : String} (h : name ≠ "") : Encloses name name := ⟨h, .inl rfl⟩

theorem parentChars_of_dot (first rest : List Char) (h : '.' ∉ rest) :
    parentChars (first ++ '.' :: rest) = first := by
  have hrest : ∀ c ∈ rest.reverse, c ≠ '.' := by
    rintro c hc rfl
    exact h (List.mem_reverse.mp hc)
  simp only [parentChars, List.reverse_append, List.reverse_cons, List.append_assoc]
  rw [List.dropWhile_append_of_pos (by simpa using hrest)]
  simp

theorem parentChars_of_no_dot {cs : List Char} (h : '.' ∉ cs) : parentChars cs = [] := by
  have hall : ∀ c ∈ cs.reverse, c ≠ '.' := by
    rintro c hc rfl
    exact h (List.mem_reverse.mp hc)
  rw [parentChars, ← List.append_nil cs.reverse, List.dropWhile_append_of_pos (by simpa using hall)]
  simp

/-- The last dot of a name, if it has one. -/
theorem exists_last_dot {cs : List Char} (h : '.' ∈ cs) :
    ∃ first rest, cs = first ++ '.' :: rest ∧ '.' ∉ rest := by
  obtain ⟨back, front, hsplit, hback⟩ := List.eq_append_cons_of_mem (List.mem_reverse.mpr h)
  refine ⟨front.reverse, back.reverse, ?_, by simpa using hback⟩
  rw [← List.reverse_reverse cs, hsplit]
  simp

/-- A package above a name is its parent, or above that. -/
theorem append_dot_prefix_iff {m cs : List Char} (hm : m ≠ []) :
    m ++ ['.'] <+: cs ↔ m = parentChars cs ∨ m ++ ['.'] <+: parentChars cs := by
  by_cases hdot : '.' ∈ cs
  · obtain ⟨first, rest, rfl, hrest⟩ := exists_last_dot hdot
    rw [parentChars_of_dot first rest hrest]
    constructor
    · rintro ⟨t, ht⟩
      rw [List.append_assoc, List.append_eq_append_iff] at ht
      obtain ⟨as, hfirst, hrest'⟩ | ⟨cs', hm', hrest'⟩ := ht
      · -- The package ends inside the parent, or is all of it.
        cases as with
        | nil => exact .inl (by simpa using hfirst.symm)
        | cons a as =>
            obtain ⟨rfl, -⟩ := List.cons.inj hrest'
            exact .inr ⟨as, by simp [hfirst]⟩
      · -- It cannot end after the last dot.
        cases cs' with
        | nil => exact .inl (by simpa using hm')
        | cons c cs' =>
            obtain ⟨-, hrest'⟩ := List.cons.inj hrest'
            exact absurd (by simp [hrest']) hrest
    · rintro (rfl | hprefix)
      · exact ⟨rest, by simp⟩
      · exact hprefix.trans (List.prefix_append _ _)
  · rw [parentChars_of_no_dot hdot]
    constructor
    · exact fun h => absurd (h.subset (by simp)) hdot
    · rintro (rfl | h)
      · exact absurd rfl hm
      · simp at h

/-- What encloses a name is the name itself, or encloses its parent. -/
theorem encloses_parentName (m name : String) :
    Encloses m name ↔ (m ≠ "" ∧ m = name) ∨ Encloses m (parentName name) := by
  have hchars : m ≠ "" → m.toList ≠ [] := fun hm h => hm (by simpa using h)
  constructor
  · rintro ⟨hm, rfl | hprefix⟩
    · exact .inl ⟨hm, rfl⟩
    · rw [append_dot_prefix_iff (hchars hm), ← toList_parentName, String.toList_inj] at hprefix
      exact .inr ⟨hm, hprefix⟩
  · rintro (⟨hm, rfl⟩ | ⟨hm, hprefix⟩)
    · exact .refl hm
    · rw [← String.toList_inj, toList_parentName, ← append_dot_prefix_iff (hchars hm)] at hprefix
      exact ⟨hm, .inr hprefix⟩

theorem length_parentName {name : String} (h : name ≠ "") :
    (parentName name).toList.length < name.toList.length := by
  have hpos : 0 < name.toList.length := by
    rw [List.length_pos_iff]
    simpa using h
  by_cases hdot : '.' ∈ name.toList
  · obtain ⟨first, rest, hsplit, hrest⟩ := exists_last_dot hdot
    simp only [parentName, String.toList_ofList]
    rw [hsplit, parentChars_of_dot first rest hrest]
    simp
  · simpa [parentName, parentChars_of_no_dot hdot] using hpos

/-- The climbing loop registers every module that is the name or above it. -/
theorem mem_enclosingModules {known : List String} {m : String} (fuel : Nat) (name : String)
    (hfuel : name.toList.length ≤ fuel) :
    m ∈ enclosingModules known fuel name ↔ m ∈ known ∧ Encloses m name := by
  induction fuel generalizing name with
  | zero =>
      have hempty : name = "" := by simpa using hfuel
      simp [enclosingModules, hempty, Encloses]
  | succ fuel ih =>
      by_cases hname : name = ""
      · simp [enclosingModules, hname, Encloses]
      · have hparent := ih (parentName name) (by have := length_parentName hname; omega)
        rw [enclosingModules, if_neg hname, List.mem_append, hparent, encloses_parentName m name]
        by_cases hknown : name ∈ known
        · simp only [if_pos hknown, List.mem_singleton]
          constructor
          · rintro (rfl | ⟨hm, habove⟩)
            · exact ⟨hknown, .inl ⟨hname, rfl⟩⟩
            · exact ⟨hm, .inr habove⟩
          · rintro ⟨hm, ⟨-, rfl⟩ | habove⟩
            · exact .inl rfl
            · exact .inr ⟨hm, habove⟩
        · simp only [if_neg hknown, List.not_mem_nil, false_or]
          constructor
          · rintro ⟨hm, habove⟩
            exact ⟨hm, .inr habove⟩
          · rintro ⟨hm, ⟨-, rfl⟩ | habove⟩
            · exact absurd hm hknown
            · exact ⟨hm, habove⟩

/-- Cutting a name to its longest module loses no module above it. -/
theorem encloses_firstModule {known : List String} {m : String} (hm : m ∈ known) (fuel : Nat)
    (name : String) : Encloses m (firstModule known fuel name) ↔ Encloses m name := by
  induction fuel generalizing name with
  | zero => rfl
  | succ fuel ih =>
      rw [firstModule]
      split_ifs with hclimb
      · rw [ih, encloses_parentName m name]
        constructor
        · exact fun habove => .inr habove
        · rintro (⟨-, rfl⟩ | habove)
          · exact absurd hm hclimb.2
          · exact habove
      · rfl

theorem mem_registered {known : List String} {m name : String} :
    m ∈ registered known name ↔ m ∈ known ∧ Encloses m name := by
  rw [registered, mem_enclosingModules _ _ le_rfl]
  exact and_congr_right fun hm => encloses_firstModule hm _ name

/-- A name cut to the longest prefix of it that is a module. -/
structure LongestModule (known : List String) (name cut : String) : Prop where
  isModule : cut ∈ known
  encloses : Encloses cut name
  longest : ∀ m ∈ known, Encloses m name → m.toList.length ≤ cut.toList.length

/-- Of two packages above one name, the shorter is above the longer. -/
theorem Encloses.of_length_le {m cut name : String} (hm : Encloses m name)
    (hcut : Encloses cut name) (hle : m.toList.length ≤ cut.toList.length) : Encloses m cut := by
  refine ⟨hm.1, ?_⟩
  obtain rfl | hprefix := hcut.2
  · exact hm.2
  · obtain rfl | hm := hm.2
    · have := hprefix.length_le
      simp only [List.length_append, List.length_singleton] at this
      omega
    · by_cases heq : m.toList.length = cut.toList.length
      · left
        have hsame := (List.prefix_of_prefix_length_le hm hprefix (by simp [heq])).eq_of_length
          (by simp [heq])
        exact String.toList_inj.mp (List.append_cancel_right hsame)
      · right
        have hcut : cut.toList <+: name.toList := (List.prefix_append _ _).trans hprefix
        exact List.prefix_of_prefix_length_le hm hcut (by simp; omega)

theorem Encloses.trans {m cut name : String} (hm : Encloses m cut) (hcut : Encloses cut name) :
    Encloses m name := by
  refine ⟨hm.1, ?_⟩
  obtain rfl | hcut := hcut.2
  · exact hm.2
  · obtain rfl | hm := hm.2
    · exact .inr hcut
    · exact .inr (hm.trans ((List.prefix_append _ _).trans hcut))

/-- A module above a name is above the longest module of that name. -/
theorem mem_registered_iff_longest {known : List String} {m name : String} :
    m ∈ registered known name ↔
      m ∈ known ∧ ∃ cut, LongestModule known name cut ∧ Encloses m cut := by
  rw [mem_registered]
  constructor
  · rintro ⟨hm, habove⟩
    classical
    have hnonempty : (known.toFinset.filter (Encloses · name)).Nonempty :=
      ⟨m, by simp [hm, habove]⟩
    obtain ⟨cut, hcut, hlongest⟩ := Finset.exists_max_image _ (fun m' => m'.toList.length) hnonempty
    simp only [Finset.mem_filter, List.mem_toFinset] at hcut hlongest
    refine ⟨hm, cut, ⟨hcut.1, hcut.2, fun m' hm' h' => hlongest m' ⟨hm', h'⟩⟩, ?_⟩
    exact habove.of_length_le hcut.2 (hlongest m ⟨hm, habove⟩)
  · rintro ⟨hm, cut, hcut, habove⟩
    exact ⟨hm, habove.trans hcut.encloses⟩

/-! ### What is reached -/

/-- `c` is a consumer of the module `m`: one of the names in it, cut to the longest prefix that is
a module, is `m` or lies below it, or it lists the files of `control_plane` and `m` is one. -/
def Consumes (sources : List Source) (m c : String) : Prop :=
  m ∈ modules sources ∧ ∃ source ∈ sources, endsWith ".py" source.path ∧
    moduleName source.path = c ∧
      ((source.scansControlPlane ∧ startsWith "control_plane." m) ∨
        ∃ name ∈ source.imports, ∃ cut, LongestModule (modules sources) name cut ∧ Encloses m cut)

theorem mem_consumers {sources : List Source} {m c : String} :
    c ∈ consumers sources m ↔ Consumes sources m c := by
  simp only [consumers, List.mem_toFinset, List.mem_map, List.mem_filter, List.mem_flatMap,
    Consumes, sourceEdges, List.mem_append, decide_eq_true_eq]
  constructor
  · rintro ⟨⟨m', c'⟩, ⟨⟨source, ⟨hsource, hpy⟩, hedge⟩, rfl⟩, rfl⟩
    obtain hscan | ⟨name, hname, m', hreg, hpair⟩ := hedge
    · split at hscan
      next hscans =>
        simp only [List.mem_map, List.mem_filter, Prod.mk.injEq] at hscan
        obtain ⟨m', ⟨hm', hstart⟩, rfl, rfl⟩ := hscan
        exact ⟨hm', source, hsource, hpy, rfl, .inl ⟨hscans, hstart⟩⟩
      next => simp at hscan
    · cases hpair
      obtain ⟨hm, hcut⟩ := mem_registered_iff_longest.mp hreg
      exact ⟨hm, source, hsource, hpy, rfl, .inr ⟨name, hname, hcut⟩⟩
  · rintro ⟨hm, source, hsource, hpy, rfl, ⟨hscans, hstart⟩ | ⟨name, hname, hcut⟩⟩
    · refine ⟨(m, _), ⟨⟨source, ⟨hsource, hpy⟩, .inl ?_⟩, rfl⟩, rfl⟩
      rw [if_pos hscans]
      exact List.mem_map.mpr ⟨m, List.mem_filter.mpr ⟨hm, hstart⟩, rfl⟩
    · refine ⟨(m, _), ⟨⟨source, ⟨hsource, hpy⟩, .inr ⟨name, hname, m, ?_, rfl⟩⟩, rfl⟩, rfl⟩
      exact mem_registered_iff_longest.mpr ⟨hm, hcut⟩

/-- Reached through the transitive consumer relation. -/
def Affects (sources : List Source) : String → String → Prop :=
  Relation.ReflTransGen (Consumes sources)

theorem Consumes.mem_modules {sources : List Source} {m c : String} (h : Consumes sources m c) :
    c ∈ modules sources := by
  obtain ⟨-, source, hsource, hpy, rfl, -⟩ := h
  exact List.mem_map.mpr ⟨source, List.mem_filter.mpr ⟨hsource, hpy⟩, rfl⟩

/-- The edges that a search follows are within its budget. -/
theorem sum_consumers_le (order : SetOrder) (sources : List Source) :
    ∑ m ∈ (modules sources).toFinset, (order.iterate m (consumers sources m)).length ≤
      (modules sources).length * (modules sources).length := by
  have hcard : (modules sources).toFinset.card ≤ (modules sources).length :=
    List.toFinset_card_le _
  have heach : ∀ m ∈ (modules sources).toFinset,
      (order.iterate m (consumers sources m)).length ≤ (modules sources).length := by
    intro m _
    rw [← List.toFinset_card_of_nodup (order.nodup_iterate m _)]
    refine le_trans (Finset.card_le_card fun c hc => ?_) hcard
    rw [List.mem_toFinset, order.mem_iterate, mem_consumers] at hc
    exact List.mem_toFinset.mpr hc.mem_modules
  calc ∑ m ∈ (modules sources).toFinset, (order.iterate m (consumers sources m)).length
      ≤ (modules sources).toFinset.card • (modules sources).length :=
        Finset.sum_le_card_nsmul _ _ _ heach
    _ ≤ (modules sources).length * (modules sources).length := Nat.mul_le_mul_right _ hcard

theorem isKnown.mem_modules {sources : List Source} {path : String}
    (h : isKnown sources path = true) : moduleName path ∈ modules sources := by
  simp only [isKnown, Bool.and_eq_true, decide_eq_true_eq, List.mem_map] at h
  obtain ⟨⟨⟨source, hsource, rfl⟩, hpy⟩, -⟩ := h
  exact List.mem_map.mpr ⟨source, List.mem_filter.mpr ⟨hsource, hpy⟩, rfl⟩

/-- The worklist ends with what the changed module affects, whatever the orders of the sets. -/
theorem mem_reached {order : SetOrder} {sources : List Source} {path : String}
    (h : isKnown sources path = true) (m : String) :
    m ∈ reached order sources path ↔ Affects sources (moduleName path) m := by
  have hnext : ∀ a b, b ∈ order.iterate a (consumers sources a) ↔ Consumes sources a b :=
    fun a b => (order.mem_iterate a _ b).trans mem_consumers
  obtain ⟨result, hresult, hmem⟩ := explore_eq_some
    (fun m => order.iterate m (consumers sources m))
    (fun a _ b hb => List.mem_toFinset.mpr ((hnext a b).mp hb).mem_modules)
    (List.mem_toFinset.mpr (isKnown.mem_modules h))
    (Nat.add_le_add_left (sum_consumers_le order sources) 1)
  rw [reached, hresult, Option.getD_some, hmem m, Reaches, Affects]
  simp only [hnext]

/-! ### What is selected -/

section

variable (isIdentifier : String → Bool) (sources : List Source) (nativeModules : Finset String)

/-- A changed path that the selection can answer: it is skipped, or it is a known module whose
consumers include a test, but no script and no native test. -/
def Focused (path : String) : Prop :=
  isDocumentation path ∨
    (isKnown sources path ∧
      ((moduleName path).toList.splitOn '.').all (isIdentifier ∘ String.ofList) ∧
      ¬ endsWith "/__init__.py" path ∧
      (∀ m, Affects sources (moduleName path) m → ¬ startsWith "scripts." m) ∧
      (∀ m, Affects sources (moduleName path) m → isTest sources m → m ∉ nativeModules) ∧
      ∃ m, Affects sources (moduleName path) m ∧ isTest sources m)

/-- The tests that a changed path affects. -/
def affectedTests (order : SetOrder) (path : String) : Finset String :=
  if isDocumentation path then ∅
  else ((reached order sources path).filter (isTest sources)).toFinset

variable {isIdentifier sources nativeModules}

theorem mem_affectedTests {order : SetOrder} {path t : String}
    (h : Focused isIdentifier sources nativeModules path) :
    t ∈ affectedTests sources order path ↔
      isTest sources t ∧ ¬ isDocumentation path ∧ Affects sources (moduleName path) t := by
  rw [affectedTests]
  split_ifs with hdoc
  · simp [hdoc]
  · obtain h | ⟨hknown, -⟩ := h
    · exact absurd h hdoc
    · rw [List.mem_toFinset, List.mem_filter, mem_reached hknown]
      tauto

/-- One pass of the loop. -/
theorem selectPath_eq_some {order : SetOrder} {maxModules : Nat} {affected result : Finset String}
    {path : String} (hsmall : affected.card ≤ maxModules) :
    selectPath isIdentifier order sources maxModules nativeModules affected path = some result ↔
      Focused isIdentifier sources nativeModules path ∧
        result = affected ∪ affectedTests sources order path ∧ result.card ≤ maxModules := by
  by_cases hdoc : isDocumentation path
  · rw [selectPath, if_pos hdoc, affectedTests, if_pos hdoc, Finset.union_empty,
      Option.some.injEq, eq_comm]
    constructor
    · rintro rfl
      exact ⟨.inl hdoc, rfl, hsmall⟩
    · exact fun h => h.2.1
  by_cases hknown : isKnown sources path
  swap
  · simp [selectPath, hdoc, hknown, Focused]
  have hscripts : (reached order sources path).any (startsWith "scripts.") = true ↔
      ¬ ∀ m, Affects sources (moduleName path) m → ¬ startsWith "scripts." m := by
    simp [List.any_eq_true, mem_reached hknown]
  have hnative : ((reached order sources path).filter (isTest sources)).toFinset ∩ nativeModules
      ≠ ∅ ↔
        ¬ ∀ m, Affects sources (moduleName path) m → isTest sources m → m ∉ nativeModules := by
    rw [← Finset.nonempty_iff_ne_empty]
    simp only [Finset.Nonempty, Finset.mem_inter, List.mem_toFinset, List.mem_filter,
      mem_reached hknown, not_forall, not_not, exists_prop]
    simp only [and_assoc]
  have hempty : ((reached order sources path).filter (isTest sources)).toFinset = ∅ ↔
      ¬ ∃ m, Affects sources (moduleName path) m ∧ isTest sources m := by
    rw [Finset.eq_empty_iff_forall_notMem]
    simp [mem_reached hknown]
  -- Every refusal is a branch of its own, and the last answer is the union.
  rw [selectPath, if_neg hdoc, if_neg (not_not.mpr hknown), affectedTests, if_neg hdoc]
  simp only [Option.ite_none_left_eq_some, hscripts, hnative, hempty, not_not, Option.some.injEq,
    not_lt]
  constructor
  · rintro ⟨hnames, hinit, hscript, hnat, htests, hcard, rfl⟩
    exact ⟨.inr ⟨hknown, hnames, hinit, hscript, hnat, htests⟩, rfl, hcard⟩
  · rintro ⟨hfocused, rfl, hcard⟩
    obtain h | ⟨-, hnames, hinit, hscript, hnat, htests⟩ := hfocused
    · exact absurd h hdoc
    · exact ⟨hnames, hinit, hscript, hnat, htests, hcard, rfl⟩

/-- The loop over the changed paths. -/
theorem foldlM_selectPath_eq_some {order : SetOrder} {maxModules : Nat} (changed : List String)
    {affected result : Finset String} (hsmall : affected.card ≤ maxModules) :
    changed.foldlM (selectPath isIdentifier order sources maxModules nativeModules) affected =
        some result ↔
      (∀ path ∈ changed, Focused isIdentifier sources nativeModules path) ∧
        result = affected ∪ changed.toFinset.biUnion (affectedTests sources order) ∧
        result.card ≤ maxModules := by
  induction changed generalizing affected with
  | nil =>
      simp only [List.foldlM_nil, List.not_mem_nil, List.toFinset_nil, Finset.biUnion_empty,
        Finset.union_empty]
      constructor
      · intro h
        cases h
        exact ⟨by simp, rfl, hsmall⟩
      · rintro ⟨-, rfl, -⟩
        rfl
  | cons path rest ih =>
      have hunion : affected ∪ (path :: rest).toFinset.biUnion (affectedTests sources order) =
          affected ∪ affectedTests sources order path ∪
            rest.toFinset.biUnion (affectedTests sources order) := by
        rw [List.toFinset_cons, Finset.biUnion_insert, Finset.union_assoc]
      rw [List.foldlM_cons, hunion]
      simp only [Option.bind_eq_bind, Option.bind_eq_some_iff, List.forall_mem_cons]
      constructor
      · rintro ⟨middle, hpath, hrest⟩
        obtain ⟨hfocused, rfl, hcard⟩ := (selectPath_eq_some hsmall).mp hpath
        obtain ⟨hall, hresult, hfits⟩ := (ih hcard).mp hrest
        exact ⟨⟨hfocused, hall⟩, hresult, hfits⟩
      · rintro ⟨⟨hfocused, hall⟩, rfl, hfits⟩
        have hcard : (affected ∪ affectedTests sources order path).card ≤ maxModules :=
          (Finset.card_le_card Finset.subset_union_left).trans hfits
        exact ⟨_, (selectPath_eq_some hsmall).mpr ⟨hfocused, rfl, hcard⟩,
          (ih hcard).mpr ⟨hall, rfl, hfits⟩⟩

variable (isIdentifier sources nativeModules) in
/-- The answer without the orders: what it takes, and the tests that are in it. -/
structure Selected (maxModules : Nat) (changed tests : List String) : Prop where
  focused : ∀ path ∈ changed, Focused isIdentifier sources nativeModules path
  sorted : tests.Pairwise (· < ·)
  mem : ∀ t, t ∈ tests ↔ isTest sources t ∧
    ∃ path ∈ changed, ¬ isDocumentation path ∧ Affects sources (moduleName path) t
  fits : tests.length ≤ maxModules

theorem selectModules_eq_some {order : SetOrder} {maxModules : Nat}
    {changed tests : List String} :
    selectModules isIdentifier order sources maxModules nativeModules changed = some tests ↔
      Selected isIdentifier sources nativeModules maxModules changed tests := by
  rw [selectModules, Option.map_eq_some_iff]
  have hnone : (∅ : Finset String).card ≤ maxModules := by simp
  simp only [foldlM_selectPath_eq_some changed hnone, Finset.empty_union]
  have hmem : (∀ path ∈ changed, Focused isIdentifier sources nativeModules path) → ∀ t,
      t ∈ changed.toFinset.biUnion (affectedTests sources order) ↔ isTest sources t ∧
        ∃ path ∈ changed, ¬ isDocumentation path ∧ Affects sources (moduleName path) t := by
    intro hfocused t
    simp only [Finset.mem_biUnion, List.mem_toFinset]
    constructor
    · rintro ⟨path, hpath, ht⟩
      obtain ⟨htest, hdoc, haffects⟩ := (mem_affectedTests (hfocused path hpath)).mp ht
      exact ⟨htest, path, hpath, hdoc, haffects⟩
    · rintro ⟨htest, path, hpath, hdoc, haffects⟩
      exact ⟨path, hpath, (mem_affectedTests (hfocused path hpath)).mpr ⟨htest, hdoc, haffects⟩⟩
  constructor
  · rintro ⟨result, ⟨hfocused, rfl, hfits⟩, rfl⟩
    exact { focused := hfocused
            sorted := (Finset.sortedLT_sort _).pairwise
            mem := fun t => by rw [Finset.mem_sort, hmem hfocused]
            fits := by rwa [Finset.length_sort] }
  · rintro ⟨hfocused, hsorted, htests, hfits⟩
    have hset : changed.toFinset.biUnion (affectedTests sources order) = tests.toFinset := by
      ext t
      rw [hmem hfocused, List.mem_toFinset, htests]
    have hnodup : tests.Nodup := hsorted.imp fun h => h.ne
    refine ⟨_, ⟨hfocused, rfl, ?_⟩, ?_⟩
    · rwa [hset, List.toFinset_card_of_nodup hnodup]
    · rw [hset]
      exact (List.toFinset_sort _ hnodup).mpr (hsorted.imp fun h => h.le)

/-- The selection reads the sources only through the modules and the consumers among them. -/
theorem Focused.congr {sources' : List Source} {path : String}
    (hknown : isKnown sources' path = isKnown sources path)
    (htest : isTest sources' = isTest sources) (haffects : Affects sources' = Affects sources) :
    Focused isIdentifier sources' nativeModules path ↔
      Focused isIdentifier sources nativeModules path := by
  rw [Focused, Focused, hknown, htest, haffects]

end

/-- The same file read again: its names may come in another order. -/
structure Source.Same (a b : Source) : Prop where
  path : a.path = b.path
  imports : ∀ name, name ∈ a.imports ↔ name ∈ b.imports
  scansControlPlane : a.scansControlPlane = b.scansControlPlane

section

variable {sources sources' : List Source} (h : List.Forall₂ Source.Same sources sources')
include h

theorem map_path_of_same : sources'.map Source.path = sources.map Source.path := by
  induction h with
  | nil => rfl
  | cons hsame _ ih => rw [List.map_cons, List.map_cons, hsame.path, ih]

theorem modules_of_same : modules sources' = modules sources := by
  have hmap : ∀ l : List Source, modules l =
      ((l.map Source.path).filter (endsWith ".py")).map moduleName := by
    intro l
    rw [modules, List.filter_map, List.map_map]
    rfl
  rw [hmap, hmap, map_path_of_same h]

theorem exists_same {source : Source} (hsource : source ∈ sources) :
    ∃ source' ∈ sources', source.Same source' := by
  induction h with
  | nil => exact absurd hsource (List.not_mem_nil)
  | cons hsame _ ih =>
      obtain rfl | hsource := List.mem_cons.mp hsource
      · exact ⟨_, List.mem_cons_self, hsame⟩
      · obtain ⟨source', hmem, hsame⟩ := ih hsource
        exact ⟨source', List.mem_cons_of_mem _ hmem, hsame⟩

theorem Consumes.of_same {m c : String} (hc : Consumes sources m c) : Consumes sources' m c := by
  obtain ⟨hm, source, hsource, hpy, rfl, hwhy⟩ := hc
  obtain ⟨source', hsource', hsame⟩ := exists_same h hsource
  refine ⟨by rwa [modules_of_same h], source', hsource', by rwa [← hsame.path],
    by rw [hsame.path], ?_⟩
  rw [modules_of_same h, ← hsame.scansControlPlane]
  simpa only [hsame.imports] using hwhy

theorem affects_of_same : Affects sources' = Affects sources := by
  have hback : List.Forall₂ Source.Same sources' sources :=
    h.flip.imp fun a b hsame => ⟨hsame.path.symm, fun name => (hsame.imports name).symm,
      hsame.scansControlPlane.symm⟩
  have hconsumes : Consumes sources' = Consumes sources := by
    funext m c
    exact propext ⟨.of_same hback, .of_same h⟩
  rw [Affects, Affects, hconsumes]

end

theorem selectModules_congr {isIdentifier : String → Bool} {order order' : SetOrder}
    {sources sources' : List Source} {maxModules : Nat} {nativeModules : Finset String}
    {changed changed' : List String} (hsame : List.Forall₂ Source.Same sources sources')
    (hmem : ∀ path, path ∈ changed' ↔ path ∈ changed) :
    selectModules isIdentifier order' sources' maxModules nativeModules changed' =
      selectModules isIdentifier order sources maxModules nativeModules changed := by
  have hknown : ∀ path, isKnown sources' path = isKnown sources path := by
    intro path
    rw [isKnown, isKnown, map_path_of_same hsame]
  have htest : isTest sources' = isTest sources := by
    funext t
    rw [isTest, isTest, modules_of_same hsame]
  have haffects := affects_of_same hsame
  refine Option.ext fun tests => ?_
  rw [selectModules_eq_some, selectModules_eq_some]
  constructor
  · rintro ⟨hfocused, hsorted, htests, hfits⟩
    refine ⟨fun path hpath => ?_, hsorted, fun t => ?_, hfits⟩
    · exact (Focused.congr (hknown path) htest haffects).mp (hfocused path ((hmem path).mpr hpath))
    · rw [htests, htest, haffects]
      simp only [hmem]
  · rintro ⟨hfocused, hsorted, htests, hfits⟩
    refine ⟨fun path hpath => ?_, hsorted, fun t => ?_, hfits⟩
    · exact (Focused.congr (hknown path) htest haffects).mpr (hfocused path ((hmem path).mp hpath))
    · rw [htests, htest, haffects]
      simp only [hmem]

/-- **Focused checks never skip an affected test.** Whenever tests are selected, every changed path
is documentation or a known module; the tests are sorted without repetition and are exactly those
that some changed module affects; every changed module affects a test, and neither a script nor a
native test; and there are at most `maxModules`. No order of a set matters, and one more changed
path keeps the tests that were selected, unless it turns the answer into the full suite. -/
theorem selectModules_spec (isIdentifier : String → Bool) (order : SetOrder)
    (sources : List Source) (maxModules : Nat) (nativeModules : Finset String)
    (changed : List String) :
    (∀ tests,
      selectModules isIdentifier order sources maxModules nativeModules changed = some tests →
      (∀ path ∈ changed, isDocumentation path ∨ isKnown sources path) ∧
      tests.Pairwise (· < ·) ∧
      (∀ t, t ∈ tests ↔ isTest sources t ∧
        ∃ path ∈ changed, ¬ isDocumentation path ∧ Affects sources (moduleName path) t) ∧
      (∀ path ∈ changed, ¬ isDocumentation path →
        (∃ t, isTest sources t ∧ Affects sources (moduleName path) t) ∧
        ∀ m, Affects sources (moduleName path) m →
          ¬ startsWith "scripts." m ∧ ¬ (isTest sources m ∧ m ∈ nativeModules)) ∧
      tests.length ≤ maxModules) ∧
    (∀ order' sources' changed', List.Forall₂ Source.Same sources sources' →
      (∀ path, path ∈ changed' ↔ path ∈ changed) →
      selectModules isIdentifier order' sources' maxModules nativeModules changed' =
        selectModules isIdentifier order sources maxModules nativeModules changed) ∧
    ∀ tests path more,
      selectModules isIdentifier order sources maxModules nativeModules changed = some tests →
      selectModules isIdentifier order sources maxModules nativeModules (path :: changed) =
        some more → tests ⊆ more := by
  refine ⟨fun tests h => ?_, fun _ _ _ hsame hmem => selectModules_congr hsame hmem,
    fun tests path more h hmore t ht => ?_⟩
  · obtain ⟨hfocused, hsorted, hmem, hfits⟩ := selectModules_eq_some.mp h
    refine ⟨fun path hpath => ?_, hsorted, hmem, fun path hpath hdoc => ?_, hfits⟩
    · obtain hdoc | ⟨hknown, -⟩ := hfocused path hpath
      · exact .inl hdoc
      · exact .inr hknown
    · obtain h | ⟨-, -, -, hscript, hnative, t, haffects, htest⟩ := hfocused path hpath
      · exact absurd h hdoc
      · exact ⟨⟨t, htest, haffects⟩, fun m hm =>
          ⟨hscript m hm, fun hboth => hnative m hm hboth.1 hboth.2⟩⟩
  · obtain ⟨htest, changedPath, hpath, hwhy⟩ := ((selectModules_eq_some.mp h).mem t).mp ht
    exact ((selectModules_eq_some.mp hmore).mem t).mpr
      ⟨htest, changedPath, List.mem_cons_of_mem _ hpath, hwhy⟩

-- A change of the store reaches the test of the interface above it, and not the other one.
example : selectModules (fun _ => true)
    ⟨fun _ s => s.sort, fun _ _ _ => Finset.mem_sort _, fun _ s => s.sort_nodup _⟩
    [⟨"control_plane/store.py", [], false⟩,
      ⟨"control_plane/api.py", ["control_plane.store.Rows"], false⟩,
      ⟨"tests/test_api.py", ["control_plane.api"], false⟩, ⟨"tests/test_docs.py", [], false⟩]
    2 ∅ ["README.md", "control_plane/store.py"] = some ["tests.test_api"] := by
  decide +kernel

end Launchplane.CiSelection
