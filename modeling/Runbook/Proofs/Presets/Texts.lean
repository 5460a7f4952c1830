import Runbook.Proofs.Presets.Loading

/-!
# Texts of presets and what they stand for

Every text of presets is one of `Presets.texts`, which loading replaces by what they stand for, or
one of `Presets.patterns`, which it leaves as they are. So a text that stands for nothing makes
loading fail (`Expands.expandable`) while such a pattern does not, and what is loaded is what all
texts stand for exactly if every pattern stands for itself (`Expands.stands_iff`).
-/

namespace Runbook.Presets

variable {env : Environment} {files : FileTree}

/-! ### Texts -/

/-- The texts of a database entry. -/
def databaseTexts (e : DatabaseEntry) : List String :=
  [e.name, e.user, e.host] ++ e.password.toList

/-- The texts of a place, its patterns apart. -/
def placeTexts (e : S3.Path) : List String := [e.bucket, e.path] ++ e.region.toList

/-- The patterns of a place. -/
def placePatterns (e : S3.Path) : List String := e.excluded.toList ++ e.included.toList

/-- The texts of presets, the patterns of places apart. -/
def texts (w : Presets) : List String :=
  w.databases.entries.flatMap (fun e => databaseTexts e.2) ++
    w.places.entries.flatMap (fun e => placeTexts e.2) ++ w.dumps.entries.flatMap (·.2)

/-- The patterns of all places. -/
def patterns (w : Presets) : List String :=
  w.places.entries.flatMap fun e => placePatterns e.2

/-- Each of the texts stands for something. -/
def Expandable (env : Environment) (texts : List String) : Prop :=
  ∀ s ∈ texts, ∃ s', env.expand s = .ok s'

theorem expandable_append {xs ys : List String} :
    Expandable env (xs ++ ys) ↔ Expandable env xs ∧ Expandable env ys :=
  List.forall_mem_append

theorem expandable_cons {s : String} {rest : List String} :
    Expandable env (s :: rest) ↔ (∃ s', env.expand s = .ok s') ∧ Expandable env rest :=
  List.forall_mem_cons

theorem expandable_flatMap {α : Type} {xs : List α} {f : α → List String} :
    Expandable env (xs.flatMap f) ↔ ∀ x ∈ xs, Expandable env (f x) :=
  List.forall_mem_flatMap

theorem Stands.expandable {text text' : Option String} (h : Stands env text text') :
    Expandable env text.toList := by
  intro s hs
  obtain rfl := Option.mem_toList.mp hs
  cases text' with
  | none => cases h
  | some s' => exact ⟨s', Option.some.inj h⟩

theorem ExpandsDatabase.expandable {e e' : DatabaseEntry} (h : ExpandsDatabase env e e') :
    Expandable env (databaseTexts e) := by
  simp only [databaseTexts, expandable_append, expandable_cons]
  exact ⟨⟨⟨_, h.name⟩, ⟨_, h.user⟩, ⟨_, h.host⟩, List.forall_mem_nil _⟩, h.password.expandable⟩

theorem ExpandsPlace.expandable {rule : Option String → Option String → Prop} {e e' : S3.Path}
    (h : ExpandsPlace env rule e e') : Expandable env (placeTexts e) := by
  simp only [placeTexts, expandable_append, expandable_cons]
  exact ⟨⟨⟨_, h.bucket⟩, ⟨_, h.path⟩, List.forall_mem_nil _⟩, h.region.expandable⟩

theorem ExpandsDumps.expandable {paths found : List String}
    (h : ExpandsDumps env files paths found) : Expandable env paths := by
  obtain ⟨expanded, hexpanded, -⟩ := h
  have hall := (List.forall₂_and_left (p := fun path => ∃ s', env.expand path = .ok s')
    paths expanded).mp (hexpanded.imp fun _ path' h => ⟨⟨path', h⟩, h⟩)
  exact hall.1

/-- **What is loaded was written with texts that all stand for something.** -/
theorem Expands.expandable {rule : Option String → Option String → Prop} {w p : Presets}
    (h : Expands env files rule w p) : Expandable env w.texts := by
  simp only [texts, expandable_append, expandable_flatMap]
  exact ⟨⟨h.databases.forall_left fun _ _ h => h.expandable,
    h.places.forall_left fun _ _ h => h.expandable⟩,
    h.dumps.forall_left fun _ _ h => h.expandable⟩

/-! ### Patterns -/

/-- A text stands for itself if that is what it expands to. -/
theorem stands_self_iff {text : Option String} :
    Stands env text text ↔ ∀ s ∈ text.toList, env.expand s = .ok s := by
  cases text <;> simp [Stands]

/-- A place whose patterns stayed as they were is as if they had been expanded too, if that leaves
them as they are, and only then. -/
theorem ExpandsPlace.stands_iff {e e' : S3.Path} (h : ExpandsPlace env Eq e e') :
    ExpandsPlace env (Stands env) e e' ↔ ∀ s ∈ placePatterns e, env.expand s = .ok s := by
  have hpatterns : (∀ s ∈ placePatterns e, env.expand s = .ok s) ↔
      Stands env e.excluded e'.excluded ∧ Stands env e.included e'.included := by
    rw [← h.excluded, ← h.included, stands_self_iff, stands_self_iff]
    exact List.forall_mem_append
  rw [hpatterns]
  constructor
  · intro h'
    exact ⟨h'.excluded, h'.included⟩
  · rintro ⟨hexcluded, hincluded⟩
    exact { h with excluded := hexcluded, included := hincluded }

/-- Loaded presets are as if the patterns of places had been expanded too, if that leaves every
pattern as it is, and only then. -/
theorem Expands.stands_iff {w p : Presets} (h : Expands env files Eq w p) :
    Expands env files (Stands env) w p ↔ ∀ s ∈ w.patterns, env.expand s = .ok s := by
  have hplaces : Related (ExpandsPlace env (Stands env)) w.places p.places ↔
      ∀ e ∈ w.places.entries, ∀ s ∈ placePatterns e.2, env.expand s = .ok s :=
    h.places.iff_forall fun _ _ h => h.stands_iff
  rw [patterns, List.forall_mem_flatMap, ← hplaces]
  exact ⟨fun h' => h'.places, fun hplaces => { h with places := hplaces }⟩

/-- **Loading replaces every text but the patterns of places by what it stands for.** It succeeds
exactly if the text says presets whose texts all stand for something and whose dump paths can be
looked for, and then gives what `Expands` says, with patterns as they are written. Where one of the
texts stands for nothing, it fails. Patterns come out as what they stand for exactly if each of
them stands for itself. -/
theorem parse_expands_texts (env : Environment) (files : FileTree) (text : String) :
    (∀ p, parse env files text = .ok p ↔
      ∃ w, written? text = some w ∧ Expands env files Eq w p) ∧
    ∀ w, written? text = some w →
      (∀ s ∈ w.texts, ∀ e, env.expand s = .error e → ∃ e', parse env files text = .error e') ∧
      ∀ p, parse env files text = .ok p →
        (Expands env files (Stands env) w p ↔ ∀ s ∈ w.patterns, env.expand s = .ok s) := by
  have hparse : ∀ w, written? text = some w → ∀ p, parse env files text = .ok p →
      Expands env files Eq w p := by
    intro w hw p hp
    obtain ⟨w', hw', hexpands⟩ := parse_eq_ok_iff.mp hp
    obtain rfl := Option.some.inj (hw.symm.trans hw')
    exact hexpands
  refine ⟨fun p => parse_eq_ok_iff, fun w hw => ⟨fun s hs e he => ?_, fun p hp => ?_⟩⟩
  · cases hp : parse env files text with
    | error e' => exact ⟨e', rfl⟩
    | ok p =>
      obtain ⟨s', hs'⟩ := (hparse w hw p hp).expandable s hs
      rw [he] at hs'
      cases hs'
  · exact (hparse w hw p hp).stands_iff

/-- Presets that hold a single place. -/
def onlyPlace (bucket excluded : String) : Presets :=
  { empty with places := .ofList [("x", ⟨bucket, none, "p", false, some excluded, none⟩)] }

/-- A place in a bucket that a variable names, and a pattern without variables. -/
def bucketText : String := "[s3_path.x]\nbucket=\"$B\"\npath=\"p\"\nexclude=\"*.tmp\"\n"

/-- The bucket is replaced where its variable is set, and nothing is loaded where it is not. -/
theorem parse_expands_texts_bucket :
    written? bucketText = some (onlyPlace "$B" "*.tmp") ∧
      parse [("B", "b")] ⟨[], []⟩ bucketText = .ok (onlyPlace "b" "*.tmp") ∧
      Expands [("B", "b")] ⟨[], []⟩ (Stands [("B", "b")])
        (onlyPlace "$B" "*.tmp") (onlyPlace "b" "*.tmp") ∧
      ∃ e, parse [] ⟨[], []⟩ bucketText = .error e := by
  have hwritten : written? bucketText = some (onlyPlace "$B" "*.tmp") := by decide +kernel
  obtain ⟨-, hset⟩ := (parse_expands_texts [("B", "b")] ⟨[], []⟩ bucketText).2 _ hwritten
  obtain ⟨hunset, -⟩ := (parse_expands_texts [] ⟨[], []⟩ bucketText).2 _ hwritten
  have hparse : parse [("B", "b")] ⟨[], []⟩ bucketText = .ok (onlyPlace "b" "*.tmp") := by
    rw [parse, ← written?, hwritten]
    rfl
  exact ⟨hwritten, hparse, (hset _ hparse).mpr (by decide),
    hunset "$B" (by decide) (.notSet "B") (by decide)⟩

/-- A place with a pattern that a variable holds. -/
def excludedText : String := "[s3_path.x]\nbucket=\"b\"\npath=\"p\"\nexclude=\"$E\"\n"

/-- The pattern is loaded as it is written where its variable is set, and also where it is not. -/
theorem excluded_not_expanded :
    written? excludedText = some (onlyPlace "b" "$E") ∧
      parse [("E", "*.tmp")] ⟨[], []⟩ excludedText = .ok (onlyPlace "b" "$E") ∧
      Environment.expand [("E", "*.tmp")] "$E" = .ok "*.tmp" ∧
      ¬Expands [("E", "*.tmp")] ⟨[], []⟩ (Stands [("E", "*.tmp")])
        (onlyPlace "b" "$E") (onlyPlace "b" "$E") ∧
      parse [] ⟨[], []⟩ excludedText = .ok (onlyPlace "b" "$E") ∧
      Environment.expand [] "$E" = .error (.notSet "E") := by
  have hwritten : written? excludedText = some (onlyPlace "b" "$E") := by decide +kernel
  have hexpand : ∀ env, (onlyPlace "b" "$E").expand env ⟨[], []⟩ = .ok (onlyPlace "b" "$E") :=
    fun _ => rfl
  have hparse : ∀ env, parse env ⟨[], []⟩ excludedText = .ok (onlyPlace "b" "$E") := by
    intro env
    rw [parse, ← written?, hwritten]
    exact hexpand env
  refine ⟨hwritten, hparse _, rfl, ?_, hparse _, rfl⟩
  rw [(expand_eq_ok_iff.mp (hexpand _)).stands_iff]
  decide

end Runbook.Presets
