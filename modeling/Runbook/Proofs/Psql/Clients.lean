import Runbook.Definition.Builtin
import Runbook.Proofs.Definition.Fields
import Runbook.Proofs.Glob.Matches
import Runbook.Proofs.Psql.Replacing

/-!
# Generators that run a client for each entry

Four of the built-in generators take a database and a listing, and two of them options as well, and
run a client on the database for each entry of the listing. They differ in what an entry is, a query
or a dump, and in what they do without a listing.

Everything that can be wrong with the arguments can be listed without running the generator
(`Client.faults`): first what the database holds, then what the listing holds, then the paths that
are no patterns, then the options, and last the parts that a connection cannot do without. The
generator stops at the first of these (`Client.stopsAt_generator`), so it has a batch exactly if
there is none of them (`Client.faults_eq_nil_iff`).
-/

namespace Runbook.Psql

open Fields (isUnset isTextual textFaults)
open Shell (quote)

/-! ### The database -/

/-- What is wrong with the values of a definition of a database. -/
def Database.faults (values : List Value) : List DefinitionError :=
  textFaults databaseNoun "db_name" values[0]? ++ textFaults databaseNoun "db_user" values[1]? ++
    textFaults databaseNoun "db_password" values[2]? ++
    textFaults databaseNoun "db_host" values[3]? ++ textFaults databaseNoun "db_port" values[4]?

/-- A part that a connection cannot do without. -/
def Database.partFaults (field : String) (o : Option Value) : List DefinitionError :=
  if isTextual o then [] else [.missingField databaseNoun field]

/-- What keeps the database of a definition from being connected to. -/
def Database.connectionFaults (values : List Value) : List DefinitionError :=
  partFaults "db_name" values[0]? ++ partFaults "db_user" values[1]? ++
    partFaults "db_host" values[3]?

namespace Database

theorem stopsAt_ofValue (scope : Scope) (v : Value) :
    StopsAt (ofValue scope v) (faults (scope.resolve v)) := by
  have hfield := Fields.stopsAt_text? (Fields.ofValue scope databaseNoun v)
  unfold ofValue faults
  simp only [List.append_assoc]
  refine (hfield 0 "db_name").bind fun _ _ => (hfield 1 "db_user").bind fun _ _ =>
    (hfield 2 "db_password").bind fun _ _ => (hfield 3 "db_host").bind fun _ _ => ?_
  rw [← List.append_nil (textFaults _ "db_port" _)]
  exact (hfield 4 "db_port").bind fun _ _ => .ok _

theorem stopsAt_require (field : String) (o : Option Value) :
    StopsAt (require field (o.bind Value.text?)) (partFaults field o) := by
  have htext := Fields.isSome_text?_iff o
  unfold partFaults
  cases hvalue : o.bind Value.text? with
  | none =>
    have hnot : ¬ isTextual o = true := fun h => by simp [hvalue, h] at htext
    rw [if_neg hnot]
    rfl
  | some s =>
    have his : isTextual o = true := htext.mp (by rw [hvalue]; rfl)
    rw [if_pos his]
    exact .ok s

theorem stopsAt_required (values : List Value) :
    StopsAt (ofTexts values).required (connectionFaults values) := by
  unfold required connectionFaults
  rw [List.append_assoc]
  refine (stopsAt_require _ _).bind fun _ _ => (stopsAt_require _ _).bind fun _ _ => ?_
  rw [← List.append_nil (partFaults "db_host" _)]
  exact (stopsAt_require _ _).bind fun _ _ => .ok _

theorem canConnect_ofTexts {values : List Value} (h : connectionFaults values = []) :
    (ofTexts values).CanConnect := by
  by_contra hnot
  obtain ⟨e, he⟩ := required_error hnot
  obtain ⟨parts, hparts⟩ := (stopsAt_required values).exists_eq_ok_iff.mpr h
  rw [he] at hparts
  cases hparts

theorem programCommand_of_required {d : Database} {e : DefinitionError}
    (h : d.required = .error e) (program : String) : d.programCommand program = .error e := by
  rw [programCommand, h]
  rfl

theorem faults_eq_nil_iff {values : List Value} : faults values = [] ↔
    ∀ i < 5, isUnset values[i]? = true ∨ isTextual values[i]? = true := by
  simp only [faults, List.append_eq_nil_iff, Fields.textFaults_eq_nil_iff]
  constructor
  · rintro ⟨⟨⟨⟨hname, huser⟩, hpassword⟩, hhost⟩, hport⟩ i hi
    obtain rfl | rfl | rfl | rfl | rfl : i = 0 ∨ i = 1 ∨ i = 2 ∨ i = 3 ∨ i = 4 := by omega
    · exact hname
    · exact huser
    · exact hpassword
    · exact hhost
    · exact hport
  · intro h
    exact ⟨⟨⟨⟨h 0 (by decide), h 1 (by decide)⟩, h 2 (by decide)⟩, h 3 (by decide)⟩,
      h 4 (by decide)⟩

theorem connectionFaults_eq_nil_iff {values : List Value} : connectionFaults values = [] ↔
    isTextual values[0]? = true ∧ isTextual values[1]? = true ∧ isTextual values[3]? = true := by
  simp [connectionFaults, partFaults]

end Database

/-! ### The generators -/

/-- The generators that run a client for each entry of a listing. -/
inductive Client where
  /-- Queries, or the interactive client without a listing. -/
  | cliOrQueries
  /-- Queries. -/
  | queriesMethod
  /-- Dumps that are applied. -/
  | applyDumps
  /-- Dumps that are written. -/
  | generateDumps
deriving DecidableEq

namespace Client

/-- The name of the generator. -/
def name : Client → String
  | cliOrQueries => "psql-cli-or-queries"
  | queriesMethod => "psql-queries-method"
  | applyDumps => "psql-apply-dumps"
  | generateDumps => "psql-generate-dumps"

/-- The generator. -/
def generator : Client → Generator
  | cliOrQueries => Generator.cliOrQueries
  | queriesMethod => Generator.queriesMethod
  | applyDumps => Generator.applyDumps
  | generateDumps => Generator.generateDumps

/-- The entries are dumps. -/
def isDump : Client → Bool
  | cliOrQueries | queriesMethod => false
  | applyDumps | generateDumps => true

/-- What a message calls the listing. -/
def field (g : Client) : String := if g.isDump then "db_dump_paths" else "db_queries"

/-- The entries where no listing is given. -/
def withoutListing : Client → List (Option String)
  | queriesMethod => []
  | cliOrQueries | applyDumps | generateDumps => [none]

/-- The values of the listing. -/
def listing (scope : Scope) (args : List Value) : List Value :=
  (args[1]?.map scope.resolve).getD []

/-- The options of the arguments. -/
def options (args : List Value) : String := (args[2]?.bind Value.text?).getD ""

/-- The command for an entry: the bare interactive client where nothing is given. -/
def command (g : Client) (d : Database) (options : String) : Option String → Command
  | none => ⟨d.call "psql", []⟩
  | some entry =>
    match g with
    | cliOrQueries | queriesMethod => ⟨d.call "psql", ["-c " ++ quote entry]⟩
    | applyDumps =>
      ⟨d.call "psql", (if options = "" then [] else [options]) ++ ["-f", quote entry]⟩
    | generateDumps =>
      ⟨d.call "pg_dump", (if options = "" then [] else [options]) ++ ["-f", quote entry]⟩

/-- The entries that the second argument stands for. -/
inductive Entries (g : Client) (scope : Scope) : Option Value → List (Option String) → Prop where
  /-- There is no second argument. -/
  | absent : Entries g scope none g.withoutListing
  /-- One query for each value that the argument resolves to. -/
  | queries {v : Value} : g.isDump = false →
    Entries g scope (some v) ((scope.resolve v).map Value.text?)
  /-- One dump for each value, patterns replaced by the files they name. -/
  | dumps {v : Value} {found : List (Option String)} : g.isDump = true →
    expandPaths scope.files ((scope.resolve v).map Value.text?) = .ok found →
    Entries g scope (some v) found

/-- The arguments are as a generator needs them. -/
structure WellFormed (g : Client) (scope : Scope) (args : List Value) : Prop where
  /-- Every part of the database can be left out or has a text. -/
  database : ∀ i < 5, isUnset (scope.resolve (argument args 0))[i]? = true ∨
    isTextual (scope.resolve (argument args 0))[i]? = true
  /-- Name, user and host have one. -/
  connection : isTextual (scope.resolve (argument args 0))[0]? = true ∧
    isTextual (scope.resolve (argument args 0))[1]? = true ∧
    isTextual (scope.resolve (argument args 0))[3]? = true
  /-- Every value of the listing can be left out or has a text. -/
  listing : ∀ v ∈ listing scope args, isUnset (some v) = true ∨ isTextual (some v) = true
  /-- Every path with wildcards is a pattern. -/
  patterns : g.isDump = true → ∀ v ∈ Client.listing scope args, ∀ path, v.text? = some path →
    Glob.hasWildcard path = true → Glob.IsPattern path
  /-- The options can be left out or are a text. -/
  options : g.isDump = true → isUnset args[2]? = true ∨ isTextual args[2]? = true

/-- What is wrong with the arguments, in the order in which it is met. -/
def faults (g : Client) (scope : Scope) (args : List Value) : List DefinitionError :=
  Database.faults (scope.resolve (argument args 0)) ++
    (listing scope args).flatMap (fun v => textFaults g.name g.field (some v)) ++
    (if g.isDump then
      ((listing scope args).flatMap fun v => Glob.entryFaults v.text?).map .pattern ++
        textFaults g.name "options" args[2]?
    else []) ++
    Database.connectionFaults (scope.resolve (argument args 0))

theorem faults_eq_nil_iff {g : Client} {scope : Scope} {args : List Value} :
    g.faults scope args = [] ↔ g.WellFormed scope args := by
  simp only [faults, List.append_eq_nil_iff, Database.faults_eq_nil_iff,
    Database.connectionFaults_eq_nil_iff, List.flatMap_eq_nil_iff, Fields.textFaults_eq_nil_iff]
  constructor
  · rintro ⟨⟨⟨hdatabase, hlisting⟩, hdump⟩, hconnection⟩
    refine ⟨hdatabase, hconnection, hlisting, fun h v hv path hpath => ?_, fun h => ?_⟩
    · simp only [h, if_true, List.append_eq_nil_iff, List.map_eq_nil_iff,
        List.flatMap_eq_nil_iff] at hdump
      exact Glob.entryFaults_eq_nil_iff.mp (hdump.1 v hv) path hpath
    · simp only [h, if_true, List.append_eq_nil_iff] at hdump
      exact Fields.textFaults_eq_nil_iff.mp hdump.2
  · rintro ⟨hdatabase, hconnection, hlisting, hpatterns, hoptions⟩
    refine ⟨⟨⟨hdatabase, hlisting⟩, ?_⟩, hconnection⟩
    by_cases h : g.isDump = true
    · rw [if_pos h, List.append_eq_nil_iff, List.map_eq_nil_iff, List.flatMap_eq_nil_iff]
      exact ⟨fun v hv => Glob.entryFaults_eq_nil_iff.mpr fun path hpath =>
        hpatterns h v hv path hpath, Fields.textFaults_eq_nil_iff.mpr (hoptions h)⟩
    · rw [if_neg h]

/-! ### What the generators do -/

/-- Reads the entries out of the second argument. -/
def readEntries (g : Client) (fields : Fields) :
    Except DefinitionError (List (Option String)) :=
  if fields.values.length ≤ 1 then pure g.withoutListing
  else do
    let texts ← fields.texts 1 g.field
    if g.isDump then expandPaths fields.scope.files texts else return texts

/-- Reads the options out of the third argument. -/
def readOptions (g : Client) (fields : Fields) : Except DefinitionError String :=
  if g.isDump then do return (← fields.text? 2 "options").getD "" else pure ""

/-- Runs the client for each entry. -/
def run (g : Client) (d : Database) (entries : List (Option String)) (options : String) :
    Except DefinitionError Batch :=
  match g with
  | cliOrQueries | queriesMethod => Psql.queries d entries
  | applyDumps => Psql.applyDumps d entries options
  | generateDumps => Psql.generateDumps d entries options

/-- Reads a database, entries and options, and runs the client for each entry. -/
def readAndRun (g : Client) (scope : Scope) (args : List Value) :
    Except DefinitionError Batch := do
  let database ← Database.ofValue scope (argument args 0)
  let entries ← g.readEntries ⟨scope, g.name, args⟩
  let options ← g.readOptions ⟨scope, g.name, args⟩
  g.run database entries options

theorem generator_eq (g : Client) (scope : Scope) (args : List Value) :
    g.generator scope args = g.readAndRun scope args := by
  have hfirst (what : String) : (Fields.mk scope what args).value 0 = argument args 0 := rfl
  cases g with
  | cliOrQueries =>
    simp only [generator, Generator.cliOrQueries, readAndRun, readEntries, hfirst]
    by_cases hargs : args.length ≤ 1
    · simp only [if_pos hargs]
      rfl
    · simp only [if_neg hargs, bind_assoc]
      rfl
  | queriesMethod =>
    simp only [generator, Generator.queriesMethod, readAndRun, readEntries, hfirst]
    by_cases hargs : args.length ≤ 1
    · -- the listing is asked for all the same, and has nothing in it
      have htexts : (Fields.mk scope "psql-queries-method" args).texts 1 "db_queries" = .ok [] := by
        simp [Fields.texts, Fields.nested, hargs, pure, Except.pure]
      simp only [if_pos hargs, htexts]
      rfl
    · simp only [if_neg hargs, bind_assoc]
      rfl
  | applyDumps | generateDumps =>
    simp only [generator, Generator.applyDumps, Generator.generateDumps, Generator.dumpArguments,
      readAndRun, readEntries, readOptions, hfirst, bind_assoc, pure_bind]
    by_cases hargs : args.length ≤ 1
    · simp only [if_pos hargs, isDump, if_true, bind_assoc, pure_bind]
      rfl
    · simp only [if_neg hargs, isDump, if_true, bind_assoc, pure_bind]
      rfl

variable {g : Client} {scope : Scope} {args : List Value}

theorem nested_eq (what : String) : (Fields.mk scope what args).nested 1 = listing scope args := by
  unfold Fields.nested listing
  cases args[1]? <;> rfl

theorem stopsAt_expandPaths (files : FileTree) (paths : List (Option String)) :
    StopsAt (expandPaths files paths) ((paths.flatMap Glob.entryFaults).map .pattern) := by
  have hall := Glob.stopsAt_expandAll files paths
  unfold expandPaths
  cases hfaults : paths.flatMap Glob.entryFaults with
  | nil =>
    rw [hfaults] at hall
    obtain ⟨expanded, hexpanded⟩ := hall
    exact ⟨expanded, by rw [hexpanded]⟩
  | cons e faults =>
    rw [hfaults] at hall
    rw [show Glob.expandAll files paths = .error e from hall]
    rfl

/-- The entries that were read are those that the second argument stands for. -/
theorem entries_of_readEntries {what : String} {entries : List (Option String)}
    (h : g.readEntries ⟨scope, what, args⟩ = .ok entries) :
    g.Entries scope args[1]? entries := by
  unfold readEntries at h
  by_cases hargs : args.length ≤ 1
  · rw [if_pos hargs] at h
    cases h
    rw [List.getElem?_eq_none hargs]
    exact .absent
  · rw [if_neg hargs, bind_eq_ok_iff] at h
    obtain ⟨texts, htexts, h⟩ := h
    have hlt : 1 < args.length := by omega
    have hresolved : texts = (scope.resolve args[1]).map Value.text? := by
      rw [Fields.texts_eq_of_ok htexts]
      simp [Fields.nested, hlt]
    rw [List.getElem?_eq_getElem hlt]
    by_cases hdump : g.isDump = true
    · rw [if_pos hdump, hresolved] at h
      exact .dumps hdump h
    · rw [if_neg hdump] at h
      cases h
      rw [hresolved]
      exact .queries (by simpa using hdump)

theorem stopsAt_readEntries : StopsAt (g.readEntries ⟨scope, g.name, args⟩)
    ((listing scope args).flatMap (fun v => textFaults g.name g.field (some v)) ++
      if g.isDump then
        ((listing scope args).flatMap fun v => Glob.entryFaults v.text?).map .pattern
      else []) := by
  unfold readEntries
  by_cases hargs : args.length ≤ 1
  · have hempty : listing scope args = [] := by simp [listing, hargs]
    rw [if_pos hargs, hempty]
    cases g <;> exact .ok _
  · rw [if_neg hargs]
    have htexts := Fields.stopsAt_texts ⟨scope, g.name, args⟩ 1 g.field
    rw [nested_eq] at htexts
    refine htexts.bind fun texts hread => ?_
    have hresolved : texts = (listing scope args).map Value.text? := by
      rw [Fields.texts_eq_of_ok hread, nested_eq]
    by_cases hdump : g.isDump = true
    · rw [if_pos hdump, if_pos hdump, hresolved]
      have hpaths := stopsAt_expandPaths scope.files ((listing scope args).map Value.text?)
      rwa [List.flatMap_map] at hpaths
    · rw [if_neg hdump, if_neg hdump]
      exact .ok texts

theorem stopsAt_readOptions : StopsAt (g.readOptions ⟨scope, g.name, args⟩)
    (if g.isDump then textFaults g.name "options" args[2]? else []) := by
  unfold readOptions
  by_cases hdump : g.isDump = true
  · rw [if_pos hdump, if_pos hdump, ← List.append_nil (textFaults _ _ _)]
    exact (Fields.stopsAt_text? ⟨scope, g.name, args⟩ 2 "options").bind fun _ _ => .ok _
  · rw [if_neg hdump, if_neg hdump]
    exact .ok ""

/-- Where the entries are dumps, the options that were read are those of the arguments. -/
theorem eq_options_of_readOptions {what options : String} (hdump : g.isDump = true)
    (h : g.readOptions ⟨scope, what, args⟩ = .ok options) : options = Client.options args := by
  unfold readOptions at h
  rw [if_pos hdump, bind_eq_ok_iff] at h
  obtain ⟨text, htext, h⟩ := h
  rw [← Except.ok.inj h, Fields.text?_eq_of_ok htext]
  rfl

/-- Only dumps are run with options. -/
theorem command_eq_of_not_isDump (hdump : ¬ g.isDump = true) (d : Database)
    (options options' : String) : g.command d options = g.command d options' := by
  cases g with
  | cliOrQueries | queriesMethod => rfl
  | applyDumps | generateDumps => exact absurd rfl hdump

/-- With a database that can be connected to, there is one command for each entry. -/
theorem run_eq {d : Database} (h : d.CanConnect) (g : Client) (entries : List (Option String))
    (options : String) : g.run d entries options = .ok (entries.map (g.command d options)) := by
  have hpsql := h.programCommand_eq "psql"
  have hdump := h.programCommand_eq "pg_dump"
  cases g with
  | cliOrQueries | queriesMethod =>
    simp only [run, Psql.queries, Database.cliCommand, hpsql]
    refine congrArg Except.ok (List.map_congr_left fun entry _ => ?_)
    cases entry with
    | none => rfl
    | some query => exact query_eq _ query
  | applyDumps =>
    simp only [run, Psql.applyDumps, Database.cliCommand, hpsql]
    refine congrArg Except.ok (List.map_congr_left fun entry _ => ?_)
    cases entry with
    | none => rfl
    | some path => exact onFile_eq _ options path
  | generateDumps =>
    simp only [run, Psql.generateDumps, Database.cliCommand, Database.dumpCommand, hpsql, hdump]
    refine congrArg Except.ok (List.map_congr_left fun entry _ => ?_)
    cases entry with
    | none => rfl
    | some path => exact onFile_eq _ options path

theorem stopsAt_run (g : Client) (values : List Value) (entries : List (Option String))
    (options : String) :
    StopsAt (g.run (.ofTexts values) entries options) (Database.connectionFaults values) := by
  have hrequired := Database.stopsAt_required values
  cases hfaults : Database.connectionFaults values with
  | nil => exact ⟨_, run_eq (Database.canConnect_ofTexts hfaults) g entries options⟩
  | cons e faults =>
    rw [hfaults] at hrequired
    have hpsql := Database.programCommand_of_required hrequired "psql"
    show g.run _ entries options = .error e
    cases g <;>
      simp only [run, Psql.queries, Psql.applyDumps, Psql.generateDumps, Database.cliCommand,
        hpsql] <;>
      rfl

/-- A generator stops at the first fault of its arguments. -/
theorem stopsAt_generator (g : Client) (scope : Scope) (args : List Value) :
    StopsAt (g.generator scope args) (g.faults scope args) := by
  rw [generator_eq]
  unfold readAndRun faults
  have hsplit : ∀ patterns options : List DefinitionError,
      (if g.isDump then patterns ++ options else []) =
        (if g.isDump then patterns else []) ++ if g.isDump then options else [] := by
    intro patterns options
    cases g.isDump <;> simp
  rw [hsplit]
  simp only [List.append_assoc]
  refine (Database.stopsAt_ofValue scope _).bind fun d hd => ?_
  rw [Database.eq_ofTexts_of_ofValue hd, ← List.append_assoc]
  refine stopsAt_readEntries.bind fun entries _ => stopsAt_readOptions.bind fun options _ => ?_
  exact stopsAt_run g _ entries options

theorem find?_builtin (g : Client) :
    Registry.builtin.generators.find? g.name = some g.generator := by
  cases g <;> rfl

/-- A definition that starts with the name of a registered generator is the batch of that. -/
theorem batch_eq {r : Registry} (hregistered : r.generators.find? g.name = some g.generator)
    (files : FileTree) (args : List Value) :
    r.batch files (.list (.str g.name :: args)) = g.generator (r.scope files) args := by
  simp only [Registry.batch, Registry.resolve_list, Value.name?, hregistered]

/-- **The generators have a batch exactly for well-formed arguments**, with one command for each
entry of the listing; otherwise there is only the first error, what is wrong with the database
before what is wrong with the listing, and last what it lacks for a connection. -/
theorem client_outcome (g : Client) (r : Registry) (files : FileTree) (args : List Value) :
    Registry.builtin.generators.find? g.name = some g.generator ∧
    (r.generators.find? g.name = some g.generator →
      r.batch files (.list (.str g.name :: args)) = g.generator (r.scope files) args) ∧
    ((∃ batch, g.generator (r.scope files) args = .ok batch) ↔
      g.WellFormed (r.scope files) args) ∧
    (∀ batch, g.generator (r.scope files) args = .ok batch →
      ∃ entries, g.Entries (r.scope files) args[1]? entries ∧
        batch = entries.map
          (g.command (.ofTexts (r.resolve (argument args 0))) (options args))) ∧
    ∀ e, g.generator (r.scope files) args = .error e ↔
      (g.faults (r.scope files) args).head? = some e := by
  have hstops := stopsAt_generator g (r.scope files) args
  refine ⟨find?_builtin g, fun h => batch_eq h files args, ?_, fun batch hbatch => ?_,
    fun e => hstops.eq_error_iff⟩
  · rw [hstops.exists_eq_ok_iff, faults_eq_nil_iff]
  · rw [generator_eq] at hbatch
    simp only [readAndRun, bind_eq_ok_iff] at hbatch
    obtain ⟨d, hd, entries, hentries, opts, hopts, hrun⟩ := hbatch
    refine ⟨entries, entries_of_readEntries hentries, ?_⟩
    rw [Database.eq_ofTexts_of_ofValue hd] at hrun
    have hconnection : Database.connectionFaults (r.resolve (argument args 0)) = [] :=
      (stopsAt_run g _ entries opts).exists_eq_ok_iff.mp ⟨batch, hrun⟩
    have hcommands := run_eq (Database.canConnect_ofTexts hconnection) g entries opts
    rw [← Except.ok.inj (hcommands.symm.trans hrun)]
    by_cases hdump : g.isDump = true
    · rw [eq_options_of_readOptions hdump hopts]
    · rw [command_eq_of_not_isDump hdump]

end Client

end Runbook.Psql
