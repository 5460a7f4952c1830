import Runbook.Presets.Reading
import Runbook.Proofs.Glob.Listings

/-!
# What loaded presets hold

A presets file is read as it is written (`written?`), and then expanded. `Expands` relates the two
section by section: every text of a database, every bucket, region and path, and every dump path is
replaced by what it stands for in the environment, dump paths then by the files they name, and all
else stays. Loading succeeds exactly if every one of these texts stands for something and every dump
path is a pattern, and then gives what `Expands` says (`parse_eq_ok_iff`).

The patterns of a place, which say what to leave out and what to take, are texts too, but loading
passes over them. So `Expands` has what happens to them as a parameter: they stay as they are, where
the other texts are replaced by what they stand for (`Stands`).
-/

namespace Runbook

variable {env : Environment} {files : FileTree}

/-- Dump paths are expanded as any listing is. -/
theorem Psql.expandPaths_eq_ok_iff {paths found : List (Option String)} :
    expandPaths files paths = .ok found ↔ Glob.expandAll files paths = .ok found := by
  rw [expandPaths]
  cases Glob.expandAll files paths <;> simp

namespace Presets

/-- A text that may be left out is replaced by what it stands for. -/
def Stands (env : Environment) (text text' : Option String) : Prop :=
  text.map env.expand = text'.map .ok

/-! ### Entries -/

/-- A database entry with every text replaced by what it stands for. -/
structure ExpandsDatabase (env : Environment) (e e' : DatabaseEntry) : Prop where
  name : env.expand e.name = .ok e'.name
  user : env.expand e.user = .ok e'.user
  password : Stands env e.password e'.password
  host : env.expand e.host = .ok e'.host
  port : e'.port = e.port

/-- A place with bucket, region and path replaced by what they stand for; `patterns` says what
became of its patterns. -/
structure ExpandsPlace (env : Environment) (patterns : Option String → Option String → Prop)
    (e e' : S3.Path) : Prop where
  bucket : env.expand e.bucket = .ok e'.bucket
  region : Stands env e.region e'.region
  path : env.expand e.path = .ok e'.path
  isDirectory : e'.isDirectory = e.isDirectory
  excluded : patterns e.excluded e'.excluded
  included : patterns e.included e'.included

/-- The files that dump paths name once each is replaced by what it stands for. -/
def ExpandsDumps (env : Environment) (files : FileTree) (paths found : List String) : Prop :=
  ∃ expanded, List.Forall₂ (fun path path' => env.expand path = .ok path') paths expanded ∧
    Psql.expandPaths files (expanded.map some) = .ok (found.map some)

theorem expandText_eq_ok_iff {text text' : String} :
    expandText env text = .ok text' ↔ env.expand text = .ok text' := by
  rw [expandText]
  cases env.expand text <;> simp

theorem expandOptional_eq_ok_iff {text text' : Option String} :
    expandOptional env text = .ok text' ↔ Stands env text text' := by
  cases text with
  | none => cases text' <;> simp [expandOptional, Stands]
  | some s =>
    rw [expandOptional, bind_eq_ok_iff]
    constructor
    · rintro ⟨s', hs', h⟩
      cases h
      exact congrArg some (expandText_eq_ok_iff.mp hs')
    · intro h
      cases text' with
      | none => cases h
      | some s' => exact ⟨s', expandText_eq_ok_iff.mpr (Option.some.inj h), rfl⟩

theorem expandDatabase_eq_ok_iff {e e' : DatabaseEntry} :
    expandDatabase env e = .ok e' ↔ ExpandsDatabase env e e' := by
  simp only [expandDatabase, bind_eq_ok_iff, expandText_eq_ok_iff, expandOptional_eq_ok_iff]
  constructor
  · rintro ⟨name, hname, user, huser, host, hhost, password, hpassword, h⟩
    cases h
    exact ⟨hname, huser, hpassword, hhost, rfl⟩
  · rintro ⟨hname, huser, hpassword, hhost, hport⟩
    refine ⟨_, hname, _, huser, _, hhost, _, hpassword, ?_⟩
    rw [← hport]
    rfl

theorem expandPlace_eq_ok_iff {e e' : S3.Path} :
    expandPlace env e = .ok e' ↔ ExpandsPlace env Eq e e' := by
  simp only [expandPlace, bind_eq_ok_iff, expandText_eq_ok_iff, expandOptional_eq_ok_iff]
  constructor
  · rintro ⟨bucket, hbucket, path, hpath, region, hregion, h⟩
    cases h
    exact ⟨hbucket, hregion, hpath, rfl, rfl, rfl⟩
  · rintro ⟨hbucket, hregion, hpath, hdirectory, hexcluded, hincluded⟩
    refine ⟨_, hbucket, _, hpath, _, hregion, ?_⟩
    rw [← hdirectory, hexcluded, hincluded]
    rfl

theorem expandDumps_eq_ok_iff {paths found : List String} :
    expandDumps env files paths = .ok found ↔ ExpandsDumps env files paths found := by
  simp only [expandDumps, bind_eq_ok_iff, mapM_eq_ok_iff, expandText_eq_ok_iff]
  refine exists_congr fun expanded => and_congr_right fun _ => ?_
  cases hfiles : Psql.expandPaths files (expanded.map some) with
  | error e => simp [throw, throwThe, MonadExceptOf.throw]
  | ok r =>
    obtain ⟨names, rfl⟩ := Glob.exists_eq_map_some (Psql.expandPaths_eq_ok_iff.mp hfiles)
    have hinj : names.map some = found.map some ↔ names = found :=
      List.map_inj_right fun _ _ => Option.some.inj
    simp [pure, Except.pure, hinj]

/-! ### Sections -/

/-- The same names, each with a related thing. -/
def Related {α : Type} (R : α → α → Prop) (c d : Catalog α) : Prop :=
  List.Forall₂ (fun e e' => e'.1 = e.1 ∧ R e.2 e'.2) c.entries d.entries

/-- What is true of the first thing of a related pair is true of all things of a section. -/
theorem Related.forall_left {α : Type} {R : α → α → Prop} {P : α → Prop} {c d : Catalog α}
    (h : Related R c d) (hP : ∀ a a', R a a' → P a) : ∀ e ∈ c.entries, P e.2 :=
  ((List.forall₂_and_left (p := fun e => P e.2) c.entries d.entries).mp
    (List.Forall₂.imp (fun _ _ he => ⟨hP _ _ he.2, he⟩) h)).1

/-- What is found in the second of two related sections came from what the first has there. -/
theorem Related.exists_of_find? {α : Type} {R : α → α → Prop} {c d : Catalog α}
    (h : Related R c d) {name : String} {b : α} (hb : d.find? name = some b) :
    ∃ a, c.find? name = some a ∧ R a b := by
  rw [Related] at h
  rw [Catalog.find?] at hb ⊢
  generalize c.entries = es at h ⊢
  generalize d.entries = es' at h hb
  induction h with
  | nil => cases hb
  | @cons e e' es es' hentry _ ih =>
    by_cases hname : e.1 = name
    · obtain rfl : e'.2 = b := by simpa [Catalog.lookup?, hentry.1, hname] using hb
      exact ⟨e.2, by simp [Catalog.lookup?, hname], hentry.2⟩
    · have hrest : Catalog.lookup? name es' = some b := by
        simpa [Catalog.lookup?, hentry.1, hname] using hb
      obtain ⟨a, ha, hab⟩ := ih hrest
      exact ⟨a, by simpa [Catalog.lookup?, hname] using ha, hab⟩

/-- Two relations of entries agree on related sections if they agree entry by entry. -/
theorem Related.iff_forall {α : Type} {R S : α → α → Prop} {Q : α → Prop} {c d : Catalog α}
    (h : Related R c d) (hS : ∀ a a', R a a' → (S a a' ↔ Q a)) :
    Related S c d ↔ ∀ e ∈ c.entries, Q e.2 := by
  rw [Related] at h ⊢
  generalize c.entries = es at h ⊢
  generalize d.entries = es' at h ⊢
  induction h with
  | nil => simp
  | cons hentry _ ih =>
    rw [List.forall₂_cons, List.forall_mem_cons, ih, hS _ _ hentry.2]
    simp [hentry.1]

/-- Of two lists with the same names in order, one is in ascending order if the other is. -/
theorem pairwise_of_forall₂ {α : Type} {R : α → α → Prop} {es es' : List (String × α)}
    (h : List.Forall₂ (fun e e' => e'.1 = e.1 ∧ R e.2 e'.2) es es')
    (hes : es.Pairwise (·.1 < ·.1)) : es'.Pairwise (·.1 < ·.1) := by
  have hnames : es'.map (·.1) = es.map (·.1) := by
    clear hes
    induction h with
    | nil => rfl
    | cons hentry _ ih => rw [List.map_cons, List.map_cons, hentry.1, ih]
  rw [← List.pairwise_map] at hes ⊢
  rwa [hnames]

theorem mapEntries_eq_ok_iff {α : Type} {f : α → Except PresetsError α} {R : α → α → Prop}
    (hf : ∀ a a', f a = .ok a' ↔ R a a') {c d : Catalog α} :
    mapEntries f c = .ok d ↔ Related R c d := by
  have hentry : ∀ e e' : String × α,
      (do return (e.1, ← f e.2) : Except PresetsError (String × α)) = .ok e' ↔
        e'.1 = e.1 ∧ R e.2 e'.2 := by
    rintro ⟨name, a⟩ ⟨name', a'⟩
    rw [bind_eq_ok_iff]
    constructor
    · rintro ⟨b, hb, h⟩
      cases h
      exact ⟨rfl, (hf a _).mp hb⟩
    · rintro ⟨rfl, h⟩
      exact ⟨a', (hf a a').mpr h, rfl⟩
  rw [mapEntries, bind_eq_ok_iff]
  simp only [mapM_eq_ok_iff, hentry]
  constructor
  · rintro ⟨entries, hentries, h⟩
    cases h
    rw [Related, Catalog.entries_ofList (pairwise_of_forall₂ hentries c.ascending)]
    exact hentries
  · intro h
    exact ⟨d.entries, h, congrArg Except.ok d.ofList_entries⟩

/-- The presets with every text replaced by what it stands for and every dump path by the files it
names; `patterns` says what became of the patterns of places. -/
structure Expands (env : Environment) (files : FileTree)
    (patterns : Option String → Option String → Prop) (w p : Presets) : Prop where
  databases : Related (ExpandsDatabase env) w.databases p.databases
  places : Related (ExpandsPlace env patterns) w.places p.places
  dumps : Related (ExpandsDumps env files) w.dumps p.dumps
  queries : p.queries = w.queries
  definitions : p.definitions = w.definitions
  contexts : p.contexts = w.contexts

theorem expand_eq_ok_iff {w p : Presets} :
    w.expand env files = .ok p ↔ Expands env files Eq w p := by
  simp only [expand, bind_eq_ok_iff, mapEntries_eq_ok_iff fun _ _ => expandDatabase_eq_ok_iff,
    mapEntries_eq_ok_iff fun _ _ => expandPlace_eq_ok_iff,
    mapEntries_eq_ok_iff fun _ _ => expandDumps_eq_ok_iff]
  constructor
  · rintro ⟨databases, hdatabases, places, hplaces, dumps, hdumps, h⟩
    cases h
    exact ⟨hdatabases, hplaces, hdumps, rfl, rfl, rfl⟩
  · rintro ⟨hdatabases, hplaces, hdumps, hqueries, hdefinitions, hcontexts⟩
    refine ⟨_, hdatabases, _, hplaces, _, hdumps, ?_⟩
    rw [← hqueries, ← hdefinitions, ← hcontexts]
    rfl

/-! ### Loading -/

/-- The presets that a text writes down, before anything in it is expanded. -/
def written? (text : String) : Option Presets := (Toml.parse? text).bind ofJson?

/-- Loading gives the written presets expanded, with the patterns of places as they were. -/
theorem parse_eq_ok_iff {text : String} {p : Presets} :
    parse env files text = .ok p ↔ ∃ w, written? text = some w ∧ Expands env files Eq w p := by
  rw [parse, ← written?]
  cases written? text with
  | none => simp
  | some w => simp [expand_eq_ok_iff]

end Presets

end Runbook
