import Runbook.Shell.Builtins

/-!
# Running scripts

One step of the evaluator runs a script by means of an evaluator for what is inside it. Evaluators
are made from each other, each with one step less to go, so that a script that runs for ever ends
as exhausted.

A command line is run for a status and for what it writes; both streams of the shell lead into the
same pipe, so that what is written stays in order.
-/

namespace Runbook.Shell

/-- Lets a descriptor lead where a redirection says; the answer is whether it can. -/
def redirect (i : Interpreter) (r : Redirect) : Action Bool := do
  let target ← expandText i.output r.target
  let m ← get
  let toDescriptor (text : String) : Action Bool := do
    match natural? text with
    | some n =>
      if m.descriptors.any (·.1 == n) ∨ n = 0 then
        set (m.connect r.descriptor (m.channel n))
        return true
      else
        complain (text ++ ": Bad file descriptor")
        return false
    | none =>
      if text = "-" then
        set { m with descriptors := m.descriptors.filter (·.1 != r.descriptor) }
        return true
      else abort "Syntax error: Bad fd number"
  let toFile (loc : Location) (content : ByteArray) : Action Bool := do
    set { m.connect r.descriptor (.file loc) with files := m.files.set loc (.file content) }
    return true
  let refuse (verb reason : String) : Action Bool := do
    complain ("cannot " ++ verb ++ " " ++ target ++ ": " ++ reason)
    return false
  match target with
  | "/dev/null" =>
    set (m.connect r.descriptor .nowhere)
    return true
  | "/dev/stdin" => toDescriptor "0"
  | "/dev/stdout" => toDescriptor "1"
  | "/dev/stderr" => toDescriptor "2"
  | target =>
    match r.kind with
    | .duplicate => toDescriptor target
    | .input =>
      match m.files.lookup target with
      | .ok (_, .file content) =>
        let n := m.freePipe
        set ((m.setPipe n content.toList).connect r.descriptor (.pipe n))
        return true
      | .ok (_, .directory) =>
        set (m.connect r.descriptor .nowhere)
        return true
      | .error _ => refuse "open" "No such file"
    | kind =>
      match m.files.lookup target with
      | .ok (_, .directory) => refuse "create" "Is a directory"
      | .ok (loc, .file content) => toFile loc (if kind = .output then .empty else content)
      | .error _ =>
        match m.files.place? target with
        | some loc => toFile loc .empty
        | none => refuse "create" "Directory nonexistent"

/-- Makes redirections in order, up to the first that cannot be made. -/
def redirectAll (i : Interpreter) : List Redirect → Action Bool
  | [] => return true
  | r :: rest => do if ← redirect i r then redirectAll i rest else return false

/-- Runs a computation with redirections of its own. -/
def withRedirects (i : Interpreter) (rs : List Redirect) (body : Action Unit) : Action Unit :=
  if rs.isEmpty then body
  else keepingDescriptors do if ← redirectAll i rs then body else setStatus 2

/-! ### Calls -/

/-- Calls a function. -/
def callFunction (i : Interpreter) (body : Script) (args : List String) : Action Unit := do
  let before ← get
  modify fun m => { m with parameters := args, loops := 0, outerValues := some [] }
  let restore : Action Unit := modify fun m =>
    let values := (m.outerValues.getD []).foldl (fun vs (name, value) =>
      match value with
      | some v => Environment.set vs name v
      | none => vs.filter (·.1 != name)) m.values
    { m with
      parameters := before.parameters, loops := before.loops, outerValues := before.outerValues
      values := values }
  tryCatch (i.run before.tested body) fun
    | .leaveFunction status => setStatus status
    | stop => do
      restore
      throw stop
  restore

/-- Runs a shell as a program. -/
def callShell (i : Interpreter) (name : String) (args : List String) : Action Unit :=
  nestedShell do
    modify fun m => { m with
      name := name
      values := m.values.filter fun v => m.exported.contains v.1 || v.1 == "IFS"
      functions := [], parameters := [], status := 0, line := 1
      stopOnFailure := false, tested := false, refuseUnset := false, trace := false
      onExit := none }
    match args with
    | "-c" :: script :: name :: params => do
      modify fun m => { m with name := name, parameters := params }
      i.text script
    | ["-c", script] => i.text script
    | ["-c"] => abort "-c requires an argument"
    | path :: params =>
      match (← get).files.content? path with
      | some content =>
        modify fun m => { m with name := path, parameters := params }
        i.text (Text.decode content.toList)
      | none =>
        modify fun m => { m with line := 0 }
        abort ("cannot open " ++ path ++ ": No such file")
    | [] =>
      let m ← get
      let script := Text.decode (m.readable 0)
      set (m.leave 0 [])
      i.text script

/-- Calls a program that is not part of the shell. -/
def callProgram (i : Interpreter) (name : String) (args : List String) : Action Unit := do
  let m ← get
  let title := m.name ++ ": " ++ toString m.line ++ ": "
  let program := programName name
  let missing (reason : String) (status : Nat) : Action Unit := do
    complain (name ++ ": " ++ reason)
    setStatus status
  if shellNames.contains program then callShell i name args
  else match program? title program with
    | some utility => callUtility utility args
    | none =>
      if name.toList.contains '/' then
        match m.files.lookup name with
        | .ok _ => missing "Permission denied" 126
        | .error _ => missing "not found" 127
      else if name = "" then missing "Permission denied" 127
      else missing "not found" 127

/-- Runs a program with variables set in its environment. -/
def callWithEnvironment (call : List String → Action Unit) : List String → Action Unit
  | [] => callUtility printenv []
  | w :: rest =>
    let name := String.ofList (w.toList.takeWhile (· ≠ '='))
    if name.length < w.length then do
      modify fun m =>
        { m.assign name (w.drop (name.length + 1)).toString with exported := name :: m.exported }
      callWithEnvironment call rest
    else call (w :: rest)

/-- Calls a command of the shell or a program by its words. -/
def callPlain (i : Interpreter) (fuel : Nat) (words : List String) : Action Unit :=
  match fuel, words with
  | _, [] => setStatus 0
  | 0, _ => throw .exhausted
  | fuel + 1, name :: args =>
    match builtin? i (callPlain i fuel) name with
    | some run => run args
    | none =>
      if name = "env" then nestedShell (callWithEnvironment (callPlain i fuel) args)
      else callProgram i name args

/-- Calls a command by its words. -/
def callWords (i : Interpreter) (words : List String) : Action Unit := do
  match words with
  | [] => setStatus 0
  | name :: args =>
    if specialNames.contains name then callPlain i (words.length + 1) words
    else match (← get).functions.find? (·.1 == name) with
      | some (_, body) => callFunction i body args
      | none => callPlain i (words.length + 1) words

/-! ### Simple commands -/

/-- The marks have the output of a script in them. -/
def hasOutput (w : Word) : Bool :=
  w.any fun
    | .opens .command _ | .opens .backquote _ => true
    | _ => false

/-- Assigns values to variables, one after the other. -/
def assignAll (i : Interpreter) : List (String × Word) → Action Unit
  | [] => return
  | (name, w) :: rest => do
    let value ← expandText i.output w
    modify fun m => m.assign name value
    assignAll i rest

/-- Runs a computation with variables of its own, which programs are given. -/
def withVariables (i : Interpreter) (assigned : List (String × Word)) (body : Action Unit) :
    Action Unit := do
  let before ← get
  let names := assigned.map (·.1)
  assignAll i assigned
  modify fun m => { m with exported := names ++ m.exported }
  let restore : Action Unit := modify fun m => { m with
    exported := before.exported
    values := (before.values.filter fun v => names.contains v.1) ++
      m.values.filter fun v => !names.contains v.1 }
  tryCatch body fun stop => do
    restore
    throw stop
  restore

/-- Runs a simple command. -/
def runSimple (i : Interpreter) (assigned : List (String × Word)) (words : List Word)
    (redirects : List Redirect) : Action Unit := do
  let fields ← words.mapM (expandFields i.output)
  let fields := fields.flatten
  if (← get).trace ∧ !fields.isEmpty then
    modify fun m => m.write 2 (Text.encode ("+ " ++ " ".intercalate fields ++ "\n"))
  match fields with
  | [] =>
    if !(assigned.any fun a => hasOutput a.2) ∧ !words.any hasOutput then setStatus 0
    assignAll i assigned
    keepingDescriptors do if !(← redirectAll i redirects) then setStatus 2
  | "exec" :: [] =>
    assignAll i assigned
    if ← redirectAll i redirects then setStatus 0 else throw (.exit 2)
  | name :: args =>
    if specialNames.contains name then
      assignAll i assigned
      keepingDescriptors do
        if ← redirectAll i redirects then callWords i (name :: args) else throw (.exit 2)
    else withRedirects i redirects (withVariables i assigned (callWords i (name :: args)))

/-! ### Scripts -/

/-- Runs the body of a loop; the answer is whether the loop goes on. A word that leaves more loops
than there are leaves all of them. -/
def runRound (body : Action Unit) : Action Bool := do
  let depth := (← get).loops
  modify fun m => { m with loops := depth + 1 }
  let goesOn ← tryCatch (do
      body
      return true) fun
    | .leaveLoop levels =>
      if levels ≤ 1 ∨ depth = 0 then return false else throw (.leaveLoop (levels - 1))
    | .nextRound levels =>
      if levels ≤ 1 ∨ depth = 0 then return true else throw (.nextRound (levels - 1))
    | stop => throw stop
  modify fun m => { m with loops := depth }
  return goesOn

/-- Runs the body of a loop for each item. -/
def runItems (name : String) (body : Action Unit) : List String → Action Unit
  | [] => return
  | item :: rest => do
    modify fun m => m.assign name item
    if ← runRound body then runItems name body rest

/-- A failure that is not tested ends a shell that is told so. -/
def afterCommand (tested : Bool) : Action Unit := do
  let m ← get
  if m.stopOnFailure && !tested && m.status != 0 then throw (.exit m.status)

/-- Runs a script, what is inside it by the interpreter. -/
def step (i : Interpreter) (tested : Bool) : Script → Action Unit
  | .nothing => return
  | .simple line assigned words redirects => do
    modify fun m => { m with line := line, tested := tested }
    runSimple i assigned words redirects
    afterCommand tested
  | .pipe a b => do
    let n := (← get).freePipe
    modify fun m => m.setPipe n []
    nestedShell do
      modify fun m => { m.connect 1 (.pipe n) with onExit := none }
      i.run true a
    nestedShell do
      modify fun m => { m.connect 0 (.pipe n) with onExit := none }
      i.run true b
    afterCommand tested
  | .negate a => do
    i.run true a
    setStatus (if (← get).status = 0 then 1 else 0)
  | .both a b => do
    i.run true a
    if (← get).status = 0 then i.run tested b
  | .either a b => do
    i.run true a
    if (← get).status ≠ 0 then i.run tested b
  | .sequence a b => do
    i.run tested a
    i.run tested b
  | .background a => do
    nestedShell do
      modify fun m => { m.connect 0 .nowhere with onExit := none }
      i.run tested a
    setStatus 0
  | .nested a redirects => do
    withRedirects i redirects (nestedShell do
      modify fun m => { m with onExit := none }
      i.run tested a)
    afterCommand tested
  | .group a redirects => withRedirects i redirects (i.run tested a)
  | .choose condition yes no redirects => withRedirects i redirects do
    i.run true condition
    if (← get).status = 0 then i.run tested yes
    else
      setStatus 0
      i.run tested no
  | .loop untilSuccess condition body redirects => withRedirects i redirects do
    setStatus 0
    i.rounds <| runRound do
      let before := (← get).status
      i.run true condition
      if ((← get).status == 0) == untilSuccess then
        setStatus before
        throw (.leaveLoop 1)
      i.run tested body
  | .each name items body redirects => withRedirects i redirects do
    let items ← match items with
      | some words => do
        let fields ← words.mapM (expandFields i.output)
        pure fields.flatten
      | none => do pure (← get).parameters
    setStatus 0
    runItems name (i.run tested body) items
  | .branch subject patterns body otherwise => do
    let text ← expandText i.output subject
    let matched ← patterns.anyM fun p => do
      return matchesPattern (← expandGlyphs i.output p) text.toList
    if matched then
      setStatus 0
      i.run tested body
    else i.run tested otherwise
  | .define name body => modify fun m => { m with
      functions := (name, body) :: m.functions.filter (·.1 != name), status := 0 }

/-- Repeats a round while it says so, up to a number of times. -/
def repeatRounds : (limit : Nat) → Action Bool → Action Unit
  | 0, _ => throw .exhausted
  | limit + 1, round => do if ← round then repeatRounds limit round

/-- An interpreter with steps to go. -/
def interpreter : (steps : Nat) → Interpreter
  | 0 => ⟨fun _ _ => throw .exhausted, fun _ => throw .exhausted⟩
  | steps + 1 => ⟨step (interpreter steps), repeatRounds steps⟩

/-- The steps that a command line is given. -/
def stepLimit : Nat := 10000

/-- What came of a command line. -/
structure Outcome where
  success : Bool
  output : List UInt8
  files : FileTree

/-- Runs a command line in a shell of its own. -/
def runLine (name script : String) (files : FileTree) (env : Environment) : Outcome :=
  let i := interpreter stepLimit
  let whole : Action Unit := do
    nestedText i script
    match (← get).onExit with
    | some action => do
      let status := (← get).status
      i.text action
      setStatus status
    | none => return
  let (stop, m) := whole.run (Machine.new name files env)
  let success := match stop with
    | .ok _ => m.status == 0
    | .error (.exit status) | .error (.leaveFunction status) => status == 0
    | .error (.leaveLoop _) | .error (.nextRound _) => true
    | .error .killed | .error .exhausted => false
  ⟨success, m.pipe Machine.outputPipe, { m.files with here := files.here }⟩
where
  /-- Runs a text to its end, however it ends. -/
  nestedText (i : Interpreter) (script : String) : Action Unit :=
    tryCatch (i.text script) fun
      | .exit status | .leaveFunction status => setStatus status
      | .leaveLoop _ | .nextRound _ => return
      | stop => throw stop

end Runbook.Shell
