import Runbook.Proofs.Definition.Fields
import Runbook.Proofs.Definition.Resolution
import Runbook.Proofs.Psql.ClientLines
import Runbook.Psql.Replacement

/-!
# What a replacement runs

A replacement is a plan of steps, each on one database: the source is dumped into the files that
will be applied, the target is dumped into its backups, emptied between two counts, and filled from
the files. `Replacement.batch_eq` says that the batch is the plan whenever both databases can be
connected to, `Replacement.batch_error` that otherwise there is no batch at all, so no plan is ever
cut short. `Step.read_command` reads the command of a step as a shell does.
-/

namespace Runbook.Psql

open Shell (quote Line)

/-! ### Databases that can be connected to -/

namespace Database

/-- Name, user and host are set. -/
def CanConnect (d : Database) : Prop :=
  d.name.isSome = true ∧ d.user.isSome = true ∧ d.host.isSome = true

/-- The text that calls a client program on a database. -/
def call (d : Database) (program : String) : String :=
  " ".intercalate (clientTexts program (d.name.getD "") (d.user.getD "") (d.host.getD "")
    d.password d.port)

/-- The words of the call. -/
def callWords (d : Database) (program : String) : List String :=
  clientWords program (d.name.getD "") (d.user.getD "") (d.host.getD "") d.password d.port

variable {d : Database}

theorem CanConnect.exists_eq (h : d.CanConnect) :
    ∃ name user host, d = ⟨some name, some user, d.password, some host, d.port⟩ := by
  obtain ⟨name, user, password, host, port⟩ := d
  obtain ⟨hname, huser, hhost⟩ := h
  obtain ⟨name, rfl⟩ := Option.isSome_iff_exists.mp hname
  obtain ⟨user, rfl⟩ := Option.isSome_iff_exists.mp huser
  obtain ⟨host, rfl⟩ := Option.isSome_iff_exists.mp hhost
  exact ⟨name, user, host, rfl⟩

theorem CanConnect.programCommand_eq (h : d.CanConnect) (program : String) :
    d.programCommand program = .ok (d.call program) := by
  obtain ⟨name, user, host, hd⟩ := h.exists_eq
  rw [hd]
  exact Psql.programCommand_eq program name user host d.password d.port

theorem CanConnect.uri_eq (h : d.CanConnect) : ∃ uri, d.uri = .ok uri := by
  obtain ⟨name, user, host, hd⟩ := h.exists_eq
  rw [hd]
  exact ⟨_, rfl⟩

theorem isSome_of_require {field s : String} {text : Option String}
    (h : require field text = .ok s) : text.isSome = true := by
  cases text with
  | none => cases h
  | some s => rfl

theorem required_error (h : ¬ d.CanConnect) : ∃ e, d.required = .error e := by
  cases hrequired : d.required with
  | error e => exact ⟨e, rfl⟩
  | ok parts =>
    simp only [required, bind_eq_ok_iff] at hrequired
    obtain ⟨name, hname, user, huser, host, hhost, -⟩ := hrequired
    exact absurd ⟨isSome_of_require hname, isSome_of_require huser, isSome_of_require hhost⟩ h

theorem uri_error (h : ¬ d.CanConnect) : ∃ e, d.uri = .error e := by
  obtain ⟨e, he⟩ := required_error h
  exact ⟨e, by rw [uri, he]; rfl⟩

theorem programCommand_error (h : ¬ d.CanConnect) (program : String) :
    ∃ e, d.programCommand program = .error e := by
  obtain ⟨e, he⟩ := required_error h
  exact ⟨e, by rw [programCommand, he]; rfl⟩

theorem read_call (d : Database) (program : String)
    (hprogram : Line.read program = some ⟨[program], []⟩) :
    Line.read (d.call program) = some ⟨d.callWords program, []⟩ := by
  obtain ⟨text, htext, hread⟩ := exists_programCommand_eq program hprogram (d.name.getD "")
    (d.user.getD "") (d.host.getD "") d.password d.port
  rw [Psql.programCommand_eq] at htext
  cases htext
  exact hread

end Database

/-! ### Steps -/

/-- What is done with a database. -/
inductive Step where
  /-- It is written to a file. -/
  | dump (path : Option String)
  /-- A query runs on it. -/
  | query (text : String)
  /-- A file runs on it. -/
  | load (path : Option String)
deriving DecidableEq

namespace Step

/-- The command of a step, with the options that files are applied with. Where there is no path,
it is the interactive client. -/
def command (options : String) (d : Database) : Step → Command
  | .dump (some path) => ⟨d.call "pg_dump", ["-f", quote path]⟩
  | .query text => ⟨d.call "psql", ["-c " ++ quote text]⟩
  | .load (some path) =>
    ⟨d.call "psql", (if options = "" then [] else [options]) ++ ["-f", quote path]⟩
  | .dump none | .load none => ⟨d.call "psql", []⟩

/-- How a shell reads the command of a step. -/
def line (options : Line) (d : Database) : Step → Line
  | .dump (some path) => ⟨d.callWords "pg_dump" ++ ["-f", path], []⟩
  | .query text => ⟨d.callWords "psql" ++ ["-c", text], []⟩
  | .load (some path) => ⟨d.callWords "psql" ++ options.words ++ ["-f", path], options.active⟩
  | .dump none | .load none => ⟨d.callWords "psql", []⟩

/-- Databases are dumped before anything is asked of them, and files run on them last. -/
def phase : Step → Nat
  | .dump _ => 0
  | .query _ => 1
  | .load _ => 2

/-- A shell reads the command of a step as the words of the step. -/
theorem read_command {options : String} {o : Line} (ho : Line.read options = some o) (d : Database)
    (s : Step) : Line.read (s.command options d).render = some (s.line o d) := by
  have hcli := d.read_call "psql" (by decide)
  have hdump := d.read_call "pg_dump" (by decide)
  cases s with
  | dump path =>
    cases path with
    | none => exact read_new hcli
    | some path =>
      have hread := read_onFile hdump Line.read_empty path
      rw [onFile_eq] at hread
      simpa [line, command] using hread
  | query text =>
    have hread := read_query hcli text
    rwa [query_eq] at hread
  | load path =>
    cases path with
    | none => exact read_new hcli
    | some path =>
      have hread := read_onFile hcli ho path
      rwa [onFile_eq] at hread

/-- A command has the arguments of a query only if it is that of the query. -/
theorem args_command_iff {options : String} {d : Database} {s : Step} {q : String} :
    (s.command options d).args = ["-c " ++ quote q] ↔ s = .query q := by
  cases s with
  | dump path => cases path <;> simp [command]
  | load path => cases path <;> by_cases ho : options = "" <;> simp [command, ho]
  | query text =>
    refine ⟨fun h => ?_, fun h => h ▸ rfl⟩
    have hquote : quote text = quote q := by simpa [command] using h
    have hread := Line.read_quote text
    rw [hquote, Line.read_quote] at hread
    simpa using hread.symm

end Step

/-! ### Batches -/

variable {d : Database}

theorem queries_eq (h : d.CanConnect) (options : String) (qs : List String) :
    queries d (qs.map some) = .ok (qs.map fun q => Step.command options d (.query q)) := by
  rw [queries, Database.cliCommand, h.programCommand_eq]
  simp only [bind, Except.bind, pure, Except.pure, List.map_map]
  refine congrArg Except.ok (List.map_congr_left fun q _ => ?_)
  exact query_eq _ q

theorem generateDumps_eq (h : d.CanConnect) (options : String) (paths : List (Option String)) :
    generateDumps d paths "" = .ok (paths.map fun path => Step.command options d (.dump path)) := by
  rw [generateDumps, Database.cliCommand, Database.dumpCommand, h.programCommand_eq,
    h.programCommand_eq]
  simp only [bind, Except.bind, pure, Except.pure]
  refine congrArg Except.ok (List.map_congr_left fun path _ => ?_)
  cases path with
  | none => rfl
  | some path => exact onFile_eq _ "" path

theorem applyDumps_eq (h : d.CanConnect) (options : String) (paths : List (Option String)) :
    applyDumps d paths options =
      .ok (paths.map fun path => Step.command options d (.load path)) := by
  rw [applyDumps, Database.cliCommand, h.programCommand_eq]
  simp only [bind, Except.bind, pure, Except.pure]
  refine congrArg Except.ok (List.map_congr_left fun path _ => ?_)
  cases path with
  | none => rfl
  | some path => exact onFile_eq _ options path

theorem generateDumps_error (h : ¬ d.CanConnect) (paths : List (Option String)) (options : String) :
    ∃ e, generateDumps d paths options = .error e := by
  obtain ⟨e, he⟩ := Database.programCommand_error h "psql"
  exact ⟨e, by rw [generateDumps, Database.cliCommand, he]; rfl⟩

namespace Replacement

/-- The dumps: of the source into the files that will be applied, then of the target. -/
def dumps (p : Replacement) : List (Database × Step) :=
  (p.source.toList.flatMap fun source => p.applyPaths.map fun path => (source, .dump path)) ++
    p.backupPaths.map fun path => (p.target, .dump path)

/-- What is asked of the target: its tables are counted before and after the drop. -/
def drops (p : Replacement) : List (Database × Step) :=
  Sql.dropOwnedQueries.map fun q => (p.target, .query q)

/-- The files that run on the target. -/
def loads (p : Replacement) : List (Database × Step) :=
  p.applyPaths.map fun path => (p.target, .load path)

/-- The steps of a replacement, each with the database that it is done with. -/
def plan (p : Replacement) : List (Database × Step) := p.dumps ++ p.drops ++ p.loads

/-- The commands of the plan. -/
def commands (p : Replacement) : Batch :=
  p.plan.map fun (d, s) => s.command p.applyOptions d

variable {p : Replacement}

/-- Both ends can be connected to. -/
def CanRun (p : Replacement) : Prop :=
  p.target.CanConnect ∧ ∀ s, p.source = some s → s.CanConnect

theorem CanRun.batch_eq (h : p.CanRun) : p.batch = .ok p.commands := by
  obtain ⟨htarget, hsource⟩ := h
  have hfilled : p.sourceBatch = .ok (p.source.toList.flatMap fun source =>
      p.applyPaths.map fun path => Step.command p.applyOptions source (.dump path)) := by
    unfold sourceBatch
    cases hs : p.source with
    | none => rfl
    | some source =>
      have hconnect := hsource source hs
      obtain ⟨uri, huri⟩ := hconnect.uri_eq
      obtain ⟨uri', huri'⟩ := htarget.uri_eq
      simp only [dumpsItself, huri, huri', generateDumps_eq hconnect p.applyOptions]
      simp [bind, Except.bind, pure, Except.pure]
  rw [batch, hfilled, generateDumps_eq htarget p.applyOptions, dropOwned,
    queries_eq htarget p.applyOptions, applyDumps_eq htarget]
  simp [bind, Except.bind, pure, Except.pure, commands, plan, dumps, drops, loads,
    List.map_flatMap, Function.comp_def]

theorem batch_error (h : ¬ p.CanRun) : ∃ e, p.batch = .error e := by
  have hfirst {e : DefinitionError} (he : p.sourceBatch = .error e) : p.batch = .error e := by
    rw [batch, he]
    rfl
  cases hs : p.source with
  | none =>
    have htarget : ¬ p.target.CanConnect := by simpa [CanRun, hs] using h
    obtain ⟨e, he⟩ := generateDumps_error htarget p.backupPaths ""
    exact ⟨e, by rw [batch, sourceBatch, hs, he]; rfl⟩
  | some source =>
    by_cases hsource : source.CanConnect
    · have htarget : ¬ p.target.CanConnect := by simpa [CanRun, hs, hsource] using h
      obtain ⟨uri, huri⟩ := hsource.uri_eq
      obtain ⟨e, he⟩ := Database.uri_error htarget
      exact ⟨e, hfirst (by rw [sourceBatch, hs]; simp only [dumpsItself, huri, he]; rfl)⟩
    · obtain ⟨e, he⟩ := Database.uri_error hsource
      exact ⟨e, hfirst (by rw [sourceBatch, hs]; simp only [dumpsItself, he]; rfl)⟩

/-! ### The source of a definition -/

/-- What the fifth field of a definition resolves to. -/
def sourceValues (r : Registry) (v : Value) : List Value :=
  ((r.resolve v)[4]?.map r.resolve).getD []

/-- The text that is given at a place, or that of the target. -/
def completed (given : List Value) (target : Database) : Database :=
  let text := fun i : Nat => given[i]?.bind Value.text?
  ⟨(text 0).or target.name, (text 1).or target.user, (text 2).or target.password,
    (text 3).or target.host, (text 4).or target.port⟩

end Replacement

/-- The database of which each part has the text at its place. -/
def Database.ofTexts (values : List Value) : Database :=
  let text := fun i : Nat => values[i]?.bind Value.text?
  ⟨text 0, text 1, text 2, text 3, text 4⟩

theorem Database.eq_ofTexts_of_ofValue {scope : Scope} {v : Value} {d : Database}
    (h : Database.ofValue scope v = .ok d) : d = .ofTexts (scope.resolve v) := by
  simp only [Database.ofValue, bind_eq_ok_iff, pure, Except.pure] at h
  obtain ⟨name, hname, user, huser, password, hpassword, host, hhost, port, hport, hd⟩ := h
  rw [← Except.ok.inj hd, Fields.text?_eq_of_ok hname, Fields.text?_eq_of_ok huser,
    Fields.text?_eq_of_ok hpassword, Fields.text?_eq_of_ok hhost, Fields.text?_eq_of_ok hport]
  rfl

/-- The parts of a database that was read from a listing. -/
theorem database_ofValue_list {r : Registry} {files : FileTree} {given : List Value} {d : Database}
    (h : Database.ofValue (r.scope files) (.list given) = .ok d) (other : Database) :
    d.merge other = Replacement.completed given other := by
  have hvalues : (r.scope files).resolve (.list given) = given := Registry.resolve_list given
  rw [Database.eq_ofTexts_of_ofValue h, hvalues]
  simp only [Database.merge, Database.ofTexts, Replacement.completed, Option.orElse_eq_orElse,
    Option.orElse_eq_or]

namespace Replacement

variable {r : Registry} {files : FileTree} {v : Value} {p : Replacement}

theorem sourceOf_of_ofValue (h : ofValue (r.scope files) v = .ok p) :
    sourceOf (r.scope files) p.target (sourceValues r v) = .ok p.source := by
  simp only [ofValue, bind_eq_ok_iff, pure, Except.pure] at h
  obtain ⟨target, -, backups, -, backupPaths, -, applies, -, applyPaths, -, options, -, source,
    hsource, hp⟩ := h
  have hnested : (Fields.ofValue (r.scope files) "psql_db_dump_replacer" v).nested 4 =
      sourceValues r v := by
    unfold Fields.nested sourceValues Fields.ofValue
    cases hfifth : (r.resolve v)[4]? with
    | none => simp [Registry.scope, hfifth]
    | some w => simp [Registry.scope, hfifth]
  rw [hnested] at hsource
  cases hp
  exact hsource

/-- There is a source if something in its definition is given, and what is not given is that of
the target. -/
theorem source_eq (h : ofValue (r.scope files) v = .ok p) :
    p.source = if (sourceValues r v).any Value.isTruthy then
      some (completed (sourceValues r v) p.target) else none := by
  have hsource := sourceOf_of_ofValue h
  unfold sourceOf at hsource
  split at hsource
  · next hgiven =>
    simp only [bind_eq_ok_iff, pure, Except.pure] at hsource
    obtain ⟨own, hown, hmerge⟩ := hsource
    rw [if_pos hgiven, ← database_ofValue_list hown]
    exact (Except.ok.inj hmerge).symm
  · next hgiven =>
    rw [if_neg hgiven]
    exact (Except.ok.inj hsource).symm

/-! ### The plan -/

theorem phase_dumps {e : Database × Step} (h : e ∈ p.dumps) : e.2.phase = 0 := by
  simp only [dumps, List.mem_append, List.mem_flatMap, List.mem_map] at h
  obtain ⟨_, -, _, -, rfl⟩ | ⟨_, -, rfl⟩ := h <;> rfl

theorem phase_drops {e : Database × Step} (h : e ∈ p.drops) : e.2.phase = 1 := by
  obtain ⟨_, -, rfl⟩ := List.mem_map.mp h
  rfl

theorem phase_loads {e : Database × Step} (h : e ∈ p.loads) : e.2.phase = 2 := by
  obtain ⟨_, -, rfl⟩ := List.mem_map.mp h
  rfl

theorem plan_length : p.plan.length =
    (if p.source.isSome then p.applyPaths.length else 0) + p.backupPaths.length + 3 +
      p.applyPaths.length := by
  cases hs : p.source <;> simp [plan, dumps, drops, loads, hs, Sql.dropOwnedQueries] <;> omega

/-- The plan goes through the phases in order. -/
theorem plan_phases : p.plan.Pairwise fun a b => a.2.phase ≤ b.2.phase := by
  have hpart {steps : List (Database × Step)} {n : Nat} (h : ∀ e ∈ steps, e.2.phase = n) :
      steps.Pairwise fun a b => a.2.phase ≤ b.2.phase :=
    List.pairwise_of_forall_mem_list fun a ha b hb => by rw [h a ha, h b hb]
  refine List.pairwise_append.mpr ⟨List.pairwise_append.mpr ⟨hpart fun _ => phase_dumps,
    hpart fun _ => phase_drops, fun a ha b hb => ?_⟩, hpart fun _ => phase_loads,
    fun a ha b hb => ?_⟩
  · rw [phase_dumps ha]
    exact Nat.zero_le _
  · rw [phase_loads hb]
    obtain hdump | hdrop := List.mem_append.mp ha
    · rw [phase_dumps hdump]
      exact Nat.zero_le _
    · rw [phase_drops hdrop]
      exact Nat.le_succ _

theorem plan_order {i j : Nat} {a b : Database × Step} (ha : p.plan[i]? = some a)
    (hb : p.plan[j]? = some b) (hphase : a.2.phase < b.2.phase) : i < j := by
  obtain ⟨hi, rfl⟩ := List.getElem?_eq_some_iff.mp ha
  obtain ⟨hj, rfl⟩ := List.getElem?_eq_some_iff.mp hb
  rcases Nat.lt_trichotomy i j with hlt | rfl | hgt
  · exact hlt
  · omega
  · have hle := List.pairwise_iff_getElem.mp plan_phases j i hj hi hgt
    omega

/-- Only one step of the plan drops anything. -/
theorem filter_plan : p.plan.filter (·.2 = .query Sql.dropOwned) =
    [(p.target, .query Sql.dropOwned)] := by
  have hnone {steps : List (Database × Step)} {n : Nat} (hn : n ≠ 1)
      (h : ∀ e ∈ steps, e.2.phase = n) : steps.filter (·.2 = .query Sql.dropOwned) = [] := by
    refine List.filter_eq_nil_iff.mpr fun e he hquery => hn ?_
    rw [← h e he, of_decide_eq_true hquery]
    rfl
  have hcount : Sql.showTablesCount ≠ Sql.dropOwned := by decide +kernel
  have hdrops : p.drops.filter (·.2 = .query Sql.dropOwned) =
      [(p.target, .query Sql.dropOwned)] := by
    simp [drops, Sql.dropOwnedQueries, hcount]
  rw [plan, List.filter_append, List.filter_append, hnone (by decide) fun _ => phase_dumps, hdrops,
    hnone (by decide) fun _ => phase_loads, List.nil_append, List.append_nil]

/-- Only one command of the batch drops anything. -/
theorem filter_commands : p.commands.filter (·.args = ["-c " ++ quote Sql.dropOwned]) =
    [Step.command p.applyOptions p.target (.query Sql.dropOwned)] := by
  rw [commands, List.filter_map]
  simp only [Function.comp_def, Step.args_command_iff, filter_plan]
  rfl

/-- The batch is the plan of the replacement. -/
structure Performs (p : Replacement) (b : Batch) : Prop where
  /-- Source dumps, backups, the queries around the drop, and what is applied. -/
  eq_commands : b = p.commands
  length_eq : b.length = (if p.source.isSome then p.applyPaths.length else 0) +
    p.backupPaths.length + 3 + p.applyPaths.length
  /-- One command drops what the user owns, on the target. -/
  drops_once : b.filter (·.args = ["-c " ++ quote Sql.dropOwned]) =
    [Step.command p.applyOptions p.target (.query Sql.dropOwned)]
  /-- Every dump stands before the queries around the drop, which only the target is asked. -/
  dumps_first : ∀ (i j : Nat) (a b : Database) (path : Option String) (q : String),
    p.plan[i]? = some (a, .dump path) → p.plan[j]? = some (b, .query q) → i < j
  /-- Every file is applied after them. -/
  loads_last : ∀ (i j : Nat) (a b : Database) (q : String) (path : Option String),
    p.plan[i]? = some (a, .query q) → p.plan[j]? = some (b, .load path) → i < j
  /-- A shell reads the commands as the steps of the plan. -/
  read_eq : ∀ o, Line.read p.applyOptions = some o →
    b.render.map Line.read = p.plan.map fun e => some (e.2.line o e.1)

theorem performs_commands (p : Replacement) : p.Performs p.commands where
  eq_commands := rfl
  length_eq := by rw [commands, List.length_map, plan_length]
  drops_once := filter_commands
  dumps_first _ _ _ _ _ _ hi hj := plan_order hi hj Nat.zero_lt_one
  loads_last _ _ _ _ _ _ hi hj := plan_order hi hj (Nat.lt_succ_self 1)
  read_eq _ ho := Line.map_read_render (fun e => e.2.read_command ho e.1) p.plan

/-- The definition of a replacement by another database of the same server. -/
def moving : Value := .list [Database.sample.toValue, .strings ["/b.sql"],
  .list [.str "/a.sql", .nil], .nil, .list [.str "live"]]

/-- What the definition is read as. -/
def moved : Replacement :=
  ⟨.sample, [some "/b.sql"], [some "/a.sql", none], "",
    some { Database.sample with name := some "live" }⟩

end Replacement

end Runbook.Psql
