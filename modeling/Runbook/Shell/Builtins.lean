import Runbook.Shell.Expansion
import Runbook.Shell.Parser
import Runbook.Shell.Utilities.Table

/-!
# Commands of the shell itself

Commands that change the shell that runs them. Those that run further commands are given a way to
do so.
-/

namespace Runbook.Shell

/-- How commands run further commands. -/
structure Interpreter where
  /-- Runs a script; a failure in it may be `tested` by what is around it. -/
  run : (tested : Bool) → Script → Action Unit
  /-- Repeats a round while it says so. -/
  rounds : Action Bool → Action Unit

/-- Calls a utility: it reads the input of the shell and writes to its streams. -/
def callUtility (utility : Utility) (args : List String) : Action Unit := modify fun m =>
  let r := utility ⟨args, m.readable 0, m.files, m.environment⟩
  let m := { m.leave 0 r.input with files := r.files, status := r.status }
  r.written.foldl (fun m (stream, bytes) =>
    m.write (match stream with
      | .output => 1
      | .error => 2) bytes) m

/-- Prints a text. -/
def printText (text : String) : Action Unit := do
  modify fun m => m.write 1 (Text.encode text)
  setStatus 0

/-- Runs the lines of a text. -/
def Interpreter.text (i : Interpreter) (text : String) : Action Unit := do
  let (lines, error) := parse text
  let tested := (← get).tested
  lines.forM (i.run tested)
  match error with
  | none => return
  | some e =>
    modify fun m => { m with line := e.line }
    abort ("Syntax error: " ++ e.message)

/-- The output of a text, without the line ends at its end. -/
def Interpreter.output (i : Interpreter) (text : String) : Action String := do
  let n := (← get).freePipe
  modify fun m => m.setPipe n []
  nestedShell do
    modify fun m => { m.connect 1 (.pipe n) with onExit := none, status := 0, tested := false }
    i.text text
  let bytes := ((← get).pipe n).filter (· ≠ 0)
  return Text.decode (bytes.reverse.dropWhile (· == 10)).reverse

/-! ### Variables -/

/-- Assigns what words of the form `name=value` say, and does something with every name. -/
def assignWords (act : String → Machine → Machine) (words : List String) : Action Unit := do
  for w in words do
    let name := String.ofList (w.toList.takeWhile (· ≠ '='))
    if !Parser.isName name.toList then abort (name ++ ": bad variable name")
    modify fun m =>
      act name (if name.length < w.length then m.assign name (w.drop (name.length + 1)).toString
        else m)
  setStatus 0

/-- Reads a line from the input into variables; the last takes what is left. -/
def readLine (args : List String) : Action Unit := do
  let names := args.filter fun a => !a.startsWith "-"
  let m ← get
  let input := m.readable 0
  let line := input.takeWhile (· ≠ 10)
  set (m.leave 0 (input.drop (line.length + 1)))
  let text := Text.decode line
  let text := if args.contains "-r" then text.toList else unescaped text.toList
  let ifs := ((m.values.get? "IFS").getD " \t\n").toList
  assignFields ifs names (text.dropWhile (isSplitBlank ifs))
  setStatus (if line.length < input.length then 0 else 1)
where
  /-- The characters behind backslashes stand for themselves. -/
  unescaped : List Char → List Char
    | '\\' :: c :: rest => c :: unescaped rest
    | c :: rest => c :: unescaped rest
    | [] => []
  /-- Gives each variable a field. -/
  assignFields (ifs : List Char) : List String → List Char → Action Unit
    | [], _ => return
    | [name], cs => modify fun m =>
      m.assign name (String.ofList (cs.reverse.dropWhile (isSplitBlank ifs)).reverse)
    | name :: names, cs => do
      let field := cs.takeWhile (!ifs.contains ·)
      modify fun m => m.assign name (String.ofList field)
      let rest := (cs.drop field.length).dropWhile (isSplitBlank ifs)
      let rest := match rest with
        | d :: more =>
          if ifs.contains d ∧ field.length < cs.length then more.dropWhile (isSplitBlank ifs)
          else d :: more
        | [] => []
      assignFields ifs names rest

/-- Sets options and parameters. -/
def setOptions : List String → Action Unit
  | [] => setStatus 0
  | "--" :: params => modify fun m => { m with parameters := params, status := 0 }
  | a :: rest => do
    match a.toList with
    | sign :: flags =>
      if (sign = '-' ∨ sign = '+') ∧ !flags.isEmpty then
        for f in flags do
          match f with
          | 'e' => modify fun m => { m with stopOnFailure := sign == '-' }
          | 'u' => modify fun m => { m with refuseUnset := sign == '-' }
          | 'x' => modify fun m => { m with trace := sign == '-' }
          | 'a' | 'b' | 'C' | 'f' | 'm' | 'n' | 'v' | 'h' => pure ()
          | f => abort ("set: Illegal option " ++ sign.toString ++ f.toString)
        setOptions rest
      else modify fun m => { m with parameters := a :: rest, status := 0 }
    | [] => modify fun m => { m with parameters := a :: rest, status := 0 }

/-! ### Places -/

/-- Goes to another directory. -/
def changeDirectory (args : List String) : Action Unit := do
  let m ← get
  let back := args.head? = some "-"
  let target := match args.filter (· ≠ "--") with
    | [] => (m.values.get? "HOME").getD ""
    | "-" :: _ => (m.values.get? "OLDPWD").getD ""
    | p :: _ => p
  match m.files.locate? target with
  | some loc =>
    if m.files.at? loc = some .directory then
      let path := "/" ++ "/".intercalate loc
      modify fun m =>
        { ((m.assign "OLDPWD" ((m.values.get? "PWD").getD "")).assign "PWD" path) with
          files := { m.files with here := loc }, status := 0 }
      if back then printText (path ++ "\n")
    else
      complain ("cd: can't cd to " ++ target)
      setStatus 2
  | none =>
    complain ("cd: can't cd to " ++ target)
    setStatus 2

/-! ### Ends -/

/-- A status that an argument writes. -/
def statusOf (name : String) (args : List String) : Action Nat := do
  match args with
  | [] => return (← get).status
  | a :: _ =>
    match natural? a with
    | some n => return n % 256
    | none => abort (name ++ ": Illegal number: " ++ a)

/-- A number of loops that an argument writes. -/
def levelsOf (name : String) (args : List String) : Action Nat := do
  match args with
  | [] => return 1
  | a :: _ =>
    match natural? a with
    | some n => if n = 0 then abort (name ++ ": Illegal number: " ++ a) else return n
    | none => abort (name ++ ": Illegal number: " ++ a)

/-- Signals that end no process. -/
def harmlessSignals : List String := ["0", "CHLD", "17", "CONT", "18", "URG", "23", "WINCH", "28"]

/-- Sends a signal to processes, of which there is only the shell. -/
def kill (args : List String) : Action Unit := do
  let (signal, targets) := match args with
    | "-s" :: s :: rest => (s, rest)
    | a :: rest => if a.startsWith "-" then ((a.drop 1).toString, rest) else ("TERM", a :: rest)
    | [] => ("TERM", [])
  let targets := targets.filter (· ≠ "--")
  if targets.isEmpty then
    abort ("kill: Usage: kill [-s sigspec | -signum | -sigspec] [pid | job]... or\n" ++
      "kill -l [exitstatus]")
  setStatus 0
  for t in targets do
    if t = Machine.processNumber then
      if !harmlessSignals.contains signal then throw .killed
    else
      complain "kill: No such process"
      setStatus 1

/-! ### The table -/

/-- Commands whose faults end the shell, and whose assignments stay. -/
def specialNames : List String :=
  [":", ".", "break", "continue", "eval", "exec", "exit", "export", "readonly", "return", "set",
    "shift", "trap", "unset"]

/-- What `command -v` and `type` know about a name. -/
def isKnown (m : Machine) (name : String) : Bool :=
  m.functions.any (·.1 == name) || specialNames.contains name || (program? "" name).isSome ||
    shellNames.contains name || ["cd", "read", "command", "kill", "wait", "type"].contains name

/-- The commands of the shell by name. -/
def builtin? (i : Interpreter) (call : List String → Action Unit) (name : String) :
    Option (List String → Action Unit) :=
  match name with
  | ":" => some fun _ => setStatus 0
  | "." => some fun args => do
    match args with
    | p :: _ =>
      match (← get).files.content? p with
      | some content => i.text (Text.decode content.toList)
      | none => abort (".: " ++ p ++ ": not found")
    | [] => setStatus 0
  | "break" => some fun args => do
    let levels ← levelsOf "break" args
    setStatus 0
    if (← get).loops > 0 then throw (.leaveLoop levels)
  | "continue" => some fun args => do
    let levels ← levelsOf "continue" args
    setStatus 0
    if (← get).loops > 0 then throw (.nextRound levels)
  | "cd" => some changeDirectory
  | "command" => some fun args => do
    match args with
    | "-v" :: name :: _ =>
      if isKnown (← get) name then printText (name ++ "\n") else setStatus 127
    | [] => setStatus 0
    | args => call args
  | "eval" => some fun args => do
    setStatus 0
    i.text (" ".intercalate args)
  | "exec" => some fun args => do
    if args.isEmpty then setStatus 0
    else
      call args
      throw (.exit (← get).status)
  | "exit" => some fun args => do throw (.exit (← statusOf "exit" args))
  | "export" => some fun args =>
    if args.contains "-p" then setStatus 0
    else assignWords (fun n m => { m with exported := n :: m.exported }) args
  | "kill" => some kill
  | "local" => some fun args => do
    if (← get).outerValues.isNone then abort "local: not in a function"
    let names := args.map fun w => String.ofList (w.toList.takeWhile (· ≠ '='))
    modify fun m => { m with
      outerValues := m.outerValues.map ((names.map fun n => (n, m.values.get? n)) ++ ·) }
    assignWords (fun _ m => m) args
  | "readonly" => some (assignWords fun _ m => m)
  | "read" => some readLine
  | "return" => some fun args => do throw (.leaveFunction (← statusOf "return" args))
  | "set" => some setOptions
  | "shift" => some fun args => do
    let n := (args.head?.bind natural?).getD 1
    if n > (← get).parameters.length then abort "shift: can't shift that many"
    modify fun m => { m with parameters := m.parameters.drop n, status := 0 }
  | "trap" => some fun args => modify fun m =>
    match args with
    | action :: signals =>
      if signals.any fun s => s = "EXIT" ∨ s = "0" then
        { m with onExit := if action = "-" then none else some action, status := 0 }
      else { m with status := 0 }
    | [] => { m with status := 0 }
  | "type" => some fun args => do
    setStatus 0
    for name in args do
      if isKnown (← get) name then printText (name ++ " is a shell builtin\n")
      else
        modify fun m => m.write 1 (Text.encode (name ++ ": not found\n"))
        setStatus 127
  | "umask" => some fun _ => printText "0022\n"
  | "unset" => some fun args => do
    let names := args.filter fun a => !a.startsWith "-"
    modify fun m => { m with
      values := m.values.filter fun v => !names.contains v.1
      functions := if args.contains "-f" then m.functions.filter fun f => !names.contains f.1
        else m.functions
      status := 0 }
  | "wait" => some fun _ => setStatus 0
  | _ => none

end Runbook.Shell
