import Runbook.Proofs.Shell.Line
import Runbook.Psql.Batches

/-!
# The command lines of client programs

Queries, dumps and what runs dumps, read as a shell reads them. Every part of a database, every
query and every path comes back as one word, whatever characters are in it, and no character of
them is active. The options of a dump stand in the line as they are: they bring their own words and
their own active characters.
-/

namespace Runbook.Psql

open Shell (quote Line)

/-! ### Calls of a client program -/

/-- The words that call a client program on a database. -/
def clientWords (program name user host : String) (password port : Option String) :
    List String :=
  ["PGPASSWORD=" ++ password.getD "", program, "-h", host] ++
    (match port with
      | some port => ["-p", port]
      | none => []) ++
    ["-U", user, name]

/-- The texts that a call of a client program joins. -/
def clientTexts (program name user host : String) (password port : Option String) :
    List String :=
  ["PGPASSWORD=" ++ quote (password.getD ""), program, "-h", quote host] ++
    (match port with
      | some port => ["-p", quote port]
      | none => []) ++
    ["-U", quote user, quote name]

theorem programCommand_eq (program name user host : String) (password port : Option String) :
    (Database.mk (some name) (some user) password (some host) port).programCommand program =
      .ok (" ".intercalate (clientTexts program name user host password port)) := by
  cases port <;>
    simp [Database.programCommand, Database.required, Database.require, clientTexts, bind,
      Except.bind, pure, Except.pure, ← String.toList_inj]

/-- A client program is called by its words, one for every part that is set. -/
theorem exists_programCommand_eq (program : String)
    (hprogram : Line.read program = some ⟨[program], []⟩) (name user host : String)
    (password port : Option String) :
    ∃ text, (Database.mk (some name) (some user) password (some host) port).programCommand
        program = .ok text ∧
      Line.read text = some ⟨clientWords program name user host password port, []⟩ := by
  have hpassword : Line.read ("PGPASSWORD=" ++ quote (password.getD "")) =
      some ⟨["PGPASSWORD=" ++ password.getD ""], []⟩ :=
    Line.read_plain_quote (by decide) (List.all_eq_true.mp (by decide)) _
  have hhost : Line.read "-h" = some ⟨["-h"], []⟩ := by decide
  have hport : Line.read "-p" = some ⟨["-p"], []⟩ := by decide
  have huser : Line.read "-U" = some ⟨["-U"], []⟩ := by decide
  refine ⟨_, programCommand_eq program name user host password port,
    Line.read_intercalate_words ?_⟩
  cases port with
  | none =>
    exact .cons hpassword (.cons hprogram (.cons hhost (.cons (Line.read_quote host)
      (.cons huser (.cons (Line.read_quote user) (.cons (Line.read_quote name) .nil))))))
  | some port =>
    exact .cons hpassword (.cons hprogram (.cons hhost (.cons (Line.read_quote host)
      (.cons hport (.cons (Line.read_quote port)
        (.cons huser (.cons (Line.read_quote user) (.cons (Line.read_quote name) .nil))))))))

/-! ### Queries and dumps -/

/-- A client without further arguments. -/
theorem read_new {call : String} {words : List String} (h : Line.read call = some ⟨words, []⟩) :
    Line.read (Command.new call).render = some ⟨words, []⟩ := by
  rw [Command.new, Line.read_render h .nil]
  simp

theorem onFile_eq (call options path : String) : onFile call (some path) options =
    ⟨call, (if options = "" then [] else [options]) ++ ["-f", quote path]⟩ := by
  have hquote : quote path ≠ "" := by simp [quote, ← String.toList_inj]
  by_cases hoptions : options = "" <;> simp [onFile, Command.arg, Command.new, hoptions, hquote]

theorem query_eq (call text : String) :
    (Command.new call).arg ("-c " ++ quote text) = ⟨call, ["-c " ++ quote text]⟩ := by
  simp [Command.arg, Command.new]

theorem read_query {call : String} {words : List String}
    (h : Line.read call = some ⟨words, []⟩) (q : String) :
    Line.read ((Command.new call).arg ("-c " ++ quote q)).render =
      some ⟨words ++ ["-c", q], []⟩ := by
  have hq : Line.read ("-c " ++ quote q) = some ⟨["-c", q], []⟩ := by
    have hc : Line.read "-c" = some ⟨["-c"], []⟩ := by decide
    rw [show "-c " = "-c" ++ " " from rfl, Line.read_append_blank hc, Line.read_quote]
    rfl
  rw [query_eq, Line.read_render h (.cons hq .nil)]
  simp

/-- A program on a file: behind its own words come those of the options, and the path is one
word. -/
theorem read_onFile {call : String} {words : List String}
    (h : Line.read call = some ⟨words, []⟩) {options : String} {o : Line}
    (ho : Line.read options = some o) (path : String) :
    Line.read (onFile call (some path) options).render =
      some ⟨words ++ o.words ++ ["-f", path], o.active⟩ := by
  have hf : Line.read "-f" = some ⟨["-f"], []⟩ := by decide
  rw [onFile_eq]
  by_cases hoptions : options = ""
  · rw [hoptions, Line.read_empty] at ho
    cases ho
    rw [if_pos hoptions, List.nil_append,
      Line.read_render h (.cons hf (.cons (Line.read_quote path) .nil))]
    simp
  · rw [if_neg hoptions, List.singleton_append,
      Line.read_render h (.cons ho (.cons hf (.cons (Line.read_quote path) .nil)))]
    simp

/-- **No part of a database, query or path leaves its word.** The options of a dump are read as
they are. -/
theorem client_lines_read (name user host : String) (password port : Option String)
    (qs paths : List (Option String)) {options : String} {o : Line}
    (ho : Line.read options = some o) :
    let d : Database := ⟨some name, some user, password, some host, port⟩
    let call := fun program => clientWords program name user host password port
    (∃ b, queries d qs = .ok b ∧
      b.render.map Line.read = qs.map fun
        | some q => some ⟨call "psql" ++ ["-c", q], []⟩
        | none => some ⟨call "psql", []⟩) ∧
    (∃ b, applyDumps d paths options = .ok b ∧
      b.render.map Line.read = paths.map fun
        | some path => some ⟨call "psql" ++ o.words ++ ["-f", path], o.active⟩
        | none => some ⟨call "psql", []⟩) ∧
    (∃ b, generateDumps d paths options = .ok b ∧
      b.render.map Line.read = paths.map fun
        | some path => some ⟨call "pg_dump" ++ o.words ++ ["-f", path], o.active⟩
        | none => some ⟨call "psql", []⟩) := by
  intro d call
  obtain ⟨cli, hcli, hcliwords⟩ :=
    exists_programCommand_eq "psql" (by decide) name user host password port
  obtain ⟨dump, hdump, hdumpwords⟩ :=
    exists_programCommand_eq "pg_dump" (by decide) name user host password port
  refine ⟨?_, ?_, ?_⟩
  · rw [queries, Database.cliCommand, hcli]
    refine ⟨_, rfl, Line.map_read_render (fun q => ?_) qs⟩
    cases q with
    | none => exact read_new hcliwords
    | some q => exact read_query hcliwords q
  · rw [applyDumps, Database.cliCommand, hcli]
    refine ⟨_, rfl, Line.map_read_render (fun path => ?_) paths⟩
    cases path with
    | none => exact read_new hcliwords
    | some path => exact read_onFile hcliwords ho path
  · rw [generateDumps, Database.cliCommand, Database.dumpCommand, hcli, hdump]
    refine ⟨_, rfl, Line.map_read_render (fun path => ?_) paths⟩
    cases path with
    | none => exact read_new hcliwords
    | some path => exact read_onFile hdumpwords ho path

/-- A dump that brings an option, onto a database whose parts are full of quotes and expansions. -/
theorem client_lines_read_dump :
    Line.read "-v x=1" = some ⟨["-v", "x=1"], []⟩ ∧
    ∃ b, applyDumps ⟨some "a\" -c \"b", some "", none, some "$(id)", some "1;2"⟩
        [some "it's a \\.sql", none] "-v x=1" = .ok b ∧
      b.render.map Line.read =
        [some ⟨["PGPASSWORD=", "psql", "-h", "$(id)", "-p", "1;2", "-U", "", "a\" -c \"b",
            "-v", "x=1", "-f", "it's a \\.sql"], []⟩,
          some ⟨["PGPASSWORD=", "psql", "-h", "$(id)", "-p", "1;2", "-U", "",
            "a\" -c \"b"], []⟩] := by
  have hoptions : Line.read "-v x=1" = some ⟨["-v", "x=1"], []⟩ := by decide
  have hdump := (client_lines_read "a\" -c \"b" "" "$(id)" none (some "1;2") []
    [some "it's a \\.sql", none] hoptions).2.1
  exact ⟨hoptions, hdump⟩

end Runbook.Psql
