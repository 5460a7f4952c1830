import Runbook.Definition.Builtin
import Runbook.Proofs.Definition.Fields
import Runbook.Proofs.Glob.Matches
import Runbook.Proofs.Presets.Loading
import Runbook.Proofs.Presets.Registering

/-!
# Dump paths that are expanded twice

A listing of dumps is expanded when the presets are loaded, and again by the generator that it is
given to. The second time changes nothing exactly if each file that was found goes by a name which,
read as a pattern, matches that file alone or nothing (`Glob.NamesItself`); a name without
wildcards always does. A file may have a wildcard in its name, however, and then another one may
be taken in its place (`expandPaths_again_other`).

To say what the generators do with a listing, their reading of definitions is split into what they
read of the dump paths (`dumpPaths`) and what they read of the rest (`argumentsWith`, `planWith`).
-/

namespace Runbook.Psql

variable {files : FileTree}

/-! ### Reading dump paths -/

/-- The paths that a field holds, patterns replaced by the files they name. -/
def dumpPaths (fields : Fields) (i : Nat) (field : String) :
    Except DefinitionError (List (Option String)) := do
  expandPaths fields.scope.files (← fields.texts i field)

/-- The arguments of a generator of dumps, with the paths taken from elsewhere. -/
def argumentsWith (paths : Except DefinitionError (List (Option String))) (what : String)
    (scope : Scope) (args : List Value) :
    Except DefinitionError (Database × List (Option String) × String) := do
  let fields : Fields := ⟨scope, what, args⟩
  let database ← Database.ofValue scope (fields.value 0)
  let paths ← paths
  let options ← fields.text? 2 "options"
  return (database, paths, options.getD "")

/-- The plan of a replacement, with the paths taken from elsewhere. -/
def planWith (backupPaths applyPaths : Except DefinitionError (List (Option String)))
    (scope : Scope) (v : Value) : Except DefinitionError Replacement := do
  let fields := Fields.ofValue scope "psql_db_dump_replacer" v
  let target ← Database.ofValue scope (fields.value 0)
  let backupPaths ← backupPaths
  let applyPaths ← applyPaths
  let applyOptions ← fields.text? 3 "apply_options"
  let source ← Replacement.sourceOf scope target (fields.nested 4)
  return ⟨target, backupPaths, applyPaths, applyOptions.getD "", source⟩

/-- Generators of dumps read their paths out of the second argument. -/
theorem dumpArguments_eq_with {scope : Scope} {what : String} {args : List Value}
    (h : 1 < args.length) :
    Generator.dumpArguments what scope args =
      argumentsWith (dumpPaths ⟨scope, what, args⟩ 1 "db_dump_paths") what scope args := by
  have hmany : ¬args.length ≤ 1 := by omega
  simp only [Generator.dumpArguments, argumentsWith, dumpPaths, if_neg hmany, bind_assoc]

/-- A replacement reads its paths out of the second field and the third. -/
theorem ofValue_eq_with (scope : Scope) (v : Value) :
    Replacement.ofValue scope v =
      planWith (dumpPaths (.ofValue scope "psql_db_dump_replacer" v) 1 "backup_paths")
        (dumpPaths (.ofValue scope "psql_db_dump_replacer" v) 2 "apply_paths") scope v := by
  simp only [Replacement.ofValue, planWith, dumpPaths, bind_assoc]
  rfl

/-- Wherever the generators of dumps take a listing of paths, the value stands for these paths. -/
structure StandsForPaths (scope : Scope) (v : Value) (paths : List (Option String)) : Prop where
  /-- As the dumps that are applied or generated. -/
  arguments : ∀ what args, args[1]? = some v →
    Generator.dumpArguments what scope args = argumentsWith (.ok paths) what scope args
  /-- As the backups of a replacement. -/
  backups : ∀ d, (scope.resolve d)[1]? = some v → Replacement.ofValue scope d =
    planWith (.ok paths) (dumpPaths (.ofValue scope "psql_db_dump_replacer" d) 2 "apply_paths")
      scope d
  /-- As the dumps that a replacement applies. -/
  applied : ∀ d, (scope.resolve d)[2]? = some v → Replacement.ofValue scope d =
    planWith (dumpPaths (.ofValue scope "psql_db_dump_replacer" d) 1 "backup_paths") (.ok paths)
      scope d

/-- A value that resolves to names which are expanded to themselves stands for these names. -/
theorem standsForPaths_of_resolve {scope : Scope} {v : Value} {names : List String}
    (hresolve : scope.resolve v = names.map .str)
    (hexpand : expandPaths scope.files (names.map some) = .ok (names.map some)) :
    StandsForPaths scope v (names.map some) := by
  have hpaths : ∀ (what : String) (values : List Value) (i : Nat) (field : String),
      values[i]? = some v → dumpPaths ⟨scope, what, values⟩ i field = .ok (names.map some) := by
    intro what values i field hv
    have hnested : (Fields.mk scope what values).nested i = names.map .str := by
      simp only [Fields.nested, hv, hresolve]
    rw [dumpPaths, Fields.texts_of_nested hnested]
    exact hexpand
  refine ⟨fun what args hv => ?_, fun d hv => ?_, fun d hv => ?_⟩
  · obtain ⟨hlt, -⟩ := List.getElem?_eq_some_iff.mp hv
    rw [dumpArguments_eq_with hlt, hpaths what args 1 _ hv]
  · rw [ofValue_eq_with, Fields.ofValue, hpaths _ _ 1 _ hv]
  · rw [ofValue_eq_with, Fields.ofValue, hpaths _ _ 2 _ hv]

/-! ### Registered listings -/

/-- The name of a listing of dumps leads to it, unless queries, a definition or a generator go by
that name. -/
theorem resolve_register {p : Presets} {r : Registry} {name : String} {names : List String}
    (hdumps : p.dumps.find? name = some names) (hqueries : name ∉ p.queries.names)
    (hdefinitions : name ∉ p.definitions.names) (hgenerators : r.generators.contains name = false) :
    (p.register r).resolve (.ref name) = names.map .str := by
  have hentry : p.entryOf? name = some (.dumps names) := by
    simp only [Presets.entryOf?, Catalog.find?_eq_none_iff.mpr hdefinitions,
      Catalog.find?_eq_none_iff.mpr hqueries, hdumps]
    rfl
  exact (Presets.resolves_of_entryOf? hgenerators hentry).resolve_eq

/-! ### Expanding twice -/

/-- **Dump paths are expanded twice to what they are expanded to once exactly if every path that a
pattern found names itself.** A listing that was loaded then stands for the paths that were found,
under its name and in every registry that the presets are registered in. -/
theorem expandPaths_again (files : FileTree) :
    (∀ listing r, expandPaths files listing = .ok r →
      (expandPaths files r = .ok r ↔
        ∀ path, Glob.Finds files listing path → Glob.NamesItself files path)) ∧
    ∀ env text p, Presets.parse env files text = .ok p →
      ∀ name names, p.dumps.find? name = some names →
        ∃ w written listing, Presets.written? text = some w ∧
          w.dumps.find? name = some written ∧
          List.Forall₂ (fun path path' => env.expand path = .ok path') written listing ∧
          expandPaths files (listing.map some) = .ok (names.map some) ∧
          ((∀ path, Glob.Finds files (listing.map some) path → Glob.NamesItself files path) →
            ∀ r : Registry, name ∉ p.queries.names → name ∉ p.definitions.names →
              r.generators.contains name = false →
                StandsForPaths ((p.register r).scope files) (.ref name) (names.map some)) := by
  have hagain : ∀ listing r, expandPaths files listing = .ok r →
      (expandPaths files r = .ok r ↔
        ∀ path, Glob.Finds files listing path → Glob.NamesItself files path) := by
    intro listing r h
    rw [expandPaths_eq_ok_iff] at h ⊢
    exact Glob.expandAll_again_iff h
  refine ⟨hagain, fun env text p hp name names hnames => ?_⟩
  obtain ⟨w, hw, hexpands⟩ := Presets.parse_eq_ok_iff.mp hp
  obtain ⟨written, hwritten, listing, hlisting, hfound⟩ := hexpands.dumps.exists_of_find? hnames
  refine ⟨w, written, listing, hw, hwritten, hlisting, hfound, fun hself r hqueries hdefinitions
    hgenerators => ?_⟩
  exact standsForPaths_of_resolve (resolve_register hnames hqueries hdefinitions hgenerators)
    ((hagain _ _ hfound).mpr hself)

/-- Files without contents in the working directory. -/
def emptyFiles (names : List String) : FileTree := ⟨names.map fun n => ([n], .file .empty), []⟩

/-- Files in the working directory are found if their names match. -/
theorem matched_emptyFiles {names : List String} {pattern : String} {ts : List Glob.Token}
    (h : Glob.ComparesNames pattern ts) (hsorted : names.Pairwise (· ≤ ·)) :
    Glob.matched (emptyFiles names) pattern =
      .ok (names.filter fun name => Glob.matchesName ts name.toList) := by
  have hentries :
      (emptyFiles names).nodes.filterMap (fun e => FileTree.childName? [] e.1) = names := by
    simp [emptyFiles, List.filterMap_map, Function.comp_def, FileTree.childName?]
  have hchildren : (emptyFiles names).children [] = names := by
    rw [FileTree.children, hentries]
    exact List.mergeSort_of_pairwise (hsorted.imp decide_eq_true)
  rw [h.matched_eq rfl]
  exact congrArg _ (congrArg _ hchildren)

theorem expand_emptyFiles {names : List String} {pattern : String} {ts : List Glob.Token}
    (h : Glob.ComparesNames pattern ts) (hsorted : names.Pairwise (· ≤ ·)) :
    Glob.expand (emptyFiles names) pattern =
      .ok (names.filter fun name => Glob.matchesName ts name.toList) :=
  Glob.expand_of_matched (matched_emptyFiles h hsorted) (hsorted.filter _)

/-- The pattern for all names. -/
theorem comparesNames_all : Glob.ComparesNames "*" [.anySequence] := by
  constructor <;> decide +kernel

/-- The pattern for the name `1`. -/
theorem comparesNames_one : Glob.ComparesNames "[1]" [.within [.single '1']] := by
  constructor <;> decide +kernel

/-- Presets that hold a single listing of dumps. -/
def onlyDumps (paths : List String) : Presets :=
  { Presets.empty with dumps := .ofList [("l", paths)] }

/-- All files of the working directory as dumps. -/
def dumpsText : String := "[dumps]\nl=[\"*\"]\n"

/-- A single file whose name is a pattern that matches nothing is found and read as it is. -/
theorem expandPaths_again_alone :
    Presets.parse [] (emptyFiles ["[1]"]) dumpsText = .ok (onlyDumps ["[1]"]) ∧
      expandPaths (emptyFiles ["[1]"]) [some "[1]"] = .ok [some "[1]"] ∧
      StandsForPaths (((onlyDumps ["[1]"]).register .builtin).scope (emptyFiles ["[1]"]))
        (.ref "l") [some "[1]"] := by
  have hall : Glob.expand (emptyFiles ["[1]"]) "*" = .ok ["[1]"] := by
    rw [expand_emptyFiles comparesNames_all (by decide)]
    simp [Glob.matchesName, Glob.matchesSuffix]
  have hnone : Glob.expand (emptyFiles ["[1]"]) "[1]" = .ok [] := by
    rw [expand_emptyFiles comparesNames_one (by decide)]
    simp [Glob.matchesName, Glob.inSet]
  have hself : ∀ path, Glob.Finds (emptyFiles ["[1]"]) [some "*"] path →
      Glob.NamesItself (emptyFiles ["[1]"]) path := by
    rintro path ⟨pattern, found, hmem, -, hfound, hpath⟩
    obtain rfl : pattern = "*" := by simpa using hmem
    rw [hall] at hfound
    cases hfound
    obtain rfl := List.mem_singleton.mp hpath
    exact fun _ => .inl hnone
  have hpaths : expandPaths (emptyFiles ["[1]"]) [some "*"] = .ok [some "[1]"] :=
    expandPaths_eq_ok_iff.mpr (Glob.expandAll_eq_ok_iff.mpr
      ⟨[[some "[1]"]], .cons (.matched (by decide) hall (by decide)) .nil, rfl⟩)
  have hwritten : Presets.written? dumpsText = some (onlyDumps ["*"]) := by
    decide +kernel
  have hparse : Presets.parse [] (emptyFiles ["[1]"]) dumpsText = .ok (onlyDumps ["[1]"]) :=
    Presets.parse_eq_ok_iff.mpr ⟨_, hwritten, .nil, .nil,
      .cons ⟨rfl, ["*"], .cons rfl .nil, hpaths⟩ .nil, rfl, rfl, rfl⟩
  obtain ⟨hagain, hloaded⟩ := expandPaths_again (emptyFiles ["[1]"])
  obtain ⟨w, written, listing, hw, hlisted, hlisting, -, hstands⟩ :=
    hloaded [] dumpsText _ hparse "l" ["[1]"] rfl
  obtain rfl := Option.some.inj (hwritten.symm.trans hw)
  cases hlisted
  cases hlisting with
  | cons hpath hnil =>
    cases hpath
    cases hnil
    exact ⟨hparse, (hagain _ _ hpaths).mpr hself,
      hstands hself .builtin (by decide) (by decide) (by decide)⟩

/-- Of two files, one with a name that matches the other, the other is taken twice. -/
theorem expandPaths_again_other :
    expandPaths (emptyFiles ["1", "[1]"]) [some "*"] = .ok [some "1", some "[1]"] ∧
      expandPaths (emptyFiles ["1", "[1]"]) [some "1", some "[1]"] = .ok [some "1", some "1"] ∧
      [some "1", some "1"] ≠ [some "1", some "[1]"] := by
  have hall : Glob.expand (emptyFiles ["1", "[1]"]) "*" = .ok ["1", "[1]"] := by
    rw [expand_emptyFiles comparesNames_all (by decide)]
    simp [Glob.matchesName, Glob.matchesSuffix]
  have hother : Glob.expand (emptyFiles ["1", "[1]"]) "[1]" = .ok ["1"] := by
    rw [expand_emptyFiles comparesNames_one (by decide)]
    simp [Glob.matchesName, Glob.inSet]
  refine ⟨?_, ?_, by decide⟩ <;> rw [expandPaths_eq_ok_iff, Glob.expandAll_eq_ok_iff]
  · exact ⟨[[some "1", some "[1]"]], .cons (.matched (by decide) hall (by decide)) .nil, rfl⟩
  · exact ⟨[[some "1"], [some "1"]], .cons (.literal (by decide))
      (.cons (.matched (by decide) hother (by decide)) .nil), rfl⟩

end Runbook.Psql
