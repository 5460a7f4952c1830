/-!
# Options and words

The arguments of a program, told apart: options by their names or letters, the values behind them,
words, and the word that opens another level with options of its own. Arguments are read from left
to right, and the first that cannot be understood, or that asks for help, decides.
-/

namespace Runbook.Invocation

/-- What stands behind an option. -/
inductive Operand where
  /-- Nothing: it is there or not. -/
  | none
  /-- A value, in the same argument or as the next one, which is then no option itself. -/
  | value
  /-- A value, which is the next argument also if that looks like an option. -/
  | anyValue
  /-- Nothing is read behind it: it asks for help. -/
  | help
  /-- Nothing is read behind it: it asks for the version. -/
  | version
deriving DecidableEq, Repr

/-- An option: its long name, its letter and what stands behind it. -/
structure Opt where
  name : String
  letter : Char
  operand : Operand
  /-- It may be given more than once. -/
  repeats : Bool
  /-- The values it takes. -/
  accepts : String → Bool

/-- What is understood at a level. -/
structure Level where
  options : List Opt
  /-- The words that open another level. -/
  openers : List String
  /-- How many words there may be; any number if it is not said. -/
  wordsMax : Option Nat

/-- Why arguments are not carried out. -/
inductive Refusal where
  | help
  | version
  /-- They cannot be understood. -/
  | usage
deriving DecidableEq, Repr

/-- What the arguments of a level say. -/
structure Reading where
  /-- The options by name, with their values, in order. -/
  given : List (String × String)
  words : List String
  /-- The word that opens another level, and the arguments of that. -/
  opened : Option (String × List String)
deriving DecidableEq, Repr

namespace Reading

/-- Nothing was given. -/
def empty : Reading := ⟨[], [], none⟩

/-- The option was given. -/
def has (r : Reading) (name : String) : Bool := (r.given.lookup name).isSome

/-- The value of an option. -/
def value? (r : Reading) (name : String) : Option String := r.given.lookup name

/-- The values of an option, in order. -/
def values (r : Reading) (name : String) : List String :=
  r.given.filterMap fun (n, v) => if n = name then some v else none

/-- Adds an option. -/
def give (r : Reading) (o : Opt) (value : String) : Except Refusal Reading :=
  match o.operand with
  | .help => .error .help
  | .version => .error .version
  | _ =>
    if (r.has o.name && !o.repeats) || !o.accepts value then .error .usage
    else .ok { r with given := r.given ++ [(o.name, value)] }

/-- Adds words, as many as the level takes. -/
def say (r : Reading) (level : Level) (words : List String) : Except Refusal Reading :=
  let words := r.words ++ words
  if level.wordsMax.any (· < words.length) then .error .usage else .ok { r with words := words }

end Reading

/-- The option takes a value. -/
def Opt.hasValue (o : Opt) : Bool := o.operand == .value || o.operand == .anyValue

/-- A text before its first equals sign, and behind it. -/
def cutEquals (cs : List Char) : List Char × Option (List Char) :=
  match cs.dropWhile (· != '=') with
  | [] => (cs, none)
  | _ :: value => (cs.takeWhile (· != '='), some value)

namespace Level

/-- What has been read, and the option that waits for its value as the next argument. -/
abbrev Progress := Reading × Option Opt

/-- Reads letters behind a dash. The first that takes a value takes the rest of the argument, from
behind an equals sign if there is one. -/
def letters (level : Level) (r : Reading) : List Char → Except Refusal Progress
  | [] => .ok (r, none)
  | c :: rest =>
    match level.options.find? (·.letter == c) with
    | none => .error .usage
    | some o =>
      if o.hasValue then
        match rest with
        | [] => .ok (r, some o)
        | '=' :: value => (r.give o (String.ofList value)).map (·, none)
        | value => (r.give o (String.ofList value)).map (·, none)
      else do letters level (← r.give o "") rest

/-- Reads a name behind two dashes, with or without a value behind an equals sign. -/
def long (level : Level) (r : Reading) (cs : List Char) : Except Refusal Progress :=
  let (name, value) := cutEquals cs
  match level.options.find? (·.name == String.ofList name) with
  | none => .error .usage
  | some o =>
    match value, o.hasValue with
    | some v, true => (r.give o (String.ofList v)).map (·, none)
    | some _, false => .error .usage
    | none, true => .ok (r, some o)
    | none, false => (r.give o "").map (·, none)

/-- An argument that is no value of an option before it: options begin with a dash, which alone is
a word. -/
def looksLikeOption (arg : String) : Bool := arg.startsWith "-" && arg != "-"

/-- Reads arguments on from what has been read; two dashes alone make words of all that follows. -/
def readFrom (level : Level) : Progress → List String → Except Refusal Reading
  | (r, none), [] => .ok r
  | (_, some _), [] => .error .usage
  | (r, some o), arg :: rest =>
    if looksLikeOption arg && o.operand != .anyValue then .error .usage
    else do readFrom level (← r.give o arg, none) rest
  | (r, none), arg :: rest =>
    if level.openers.contains arg then .ok { r with opened := some (arg, rest) }
    else if arg = "--" then r.say level rest
    else match arg.toList with
      | '-' :: '-' :: name => do readFrom level (← level.long r name) rest
      | '-' :: c :: cs => do readFrom level (← level.letters r (c :: cs)) rest
      | _ => do readFrom level (← r.say level [arg], none) rest

/-- Reads the arguments of a level. -/
def read (level : Level) (args : List String) : Except Refusal Reading :=
  level.readFrom (.empty, none) args

/-- Two dashes protect any words. -/
theorem read_protected (level : Level) (words : List String)
    (h : "--" ∉ level.openers) :
    level.read ("--" :: words) = Reading.empty.say level words := by
  simp [read, readFrom, h]

end Level

end Runbook.Invocation
