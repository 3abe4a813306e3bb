import Nearest.Number.Numeral

/-!
# Command-line arguments

The arguments of a run name an action, with options before it that hold for all actions and options
after it of its own. `Arguments.parse` reads them to an `Invocation`, or stops because help is asked
for or because they cannot be used.

An option with a value has it behind an equals sign or in the next argument, which then cannot begin
with a hyphen; a short option may also have it right behind its letter. No option may come twice. A
value in an argument of its own is checked when the next option comes or all arguments are read.
-/

namespace Nearest.CommandLine

/-- What a run is to do. -/
inductive Action
  /-- Insert `count` random vectors under the keys `stem0`, `stem1`, …; progress is due after each
  `batch`. -/
  | seed (count batch : UInt64) (stem : String)
  /-- Search for the best `k`; without a vector, for those of a random one. -/
  | query (k : Int) (filter vector : Option String)
  | count
  | del (keys : List String)
  | flush

/-- What the arguments of a run ask for. -/
structure Invocation where
  config : Option String
  dataDir : Option String
  dimension : Option UInt64
  verbose : Bool
  action : Action

/-- What help can be asked about. -/
inductive Topic
  | program
  | seed
  | query
  | count
  | del
  | flush
  | help
  deriving DecidableEq

/-- Why arguments are not read to their end. -/
inductive Stop
  | help (topic : Topic)
  | unusable

namespace Arguments

/-! ## Options -/

/-- What values an option takes. -/
inductive ValueKind
  | none
  | text
  | path
  | word
  | integer
  deriving DecidableEq

/-- An option. -/
structure Spec where
  name : String
  short : Option Char
  kind : ValueKind

/-- Whether an option takes this value. -/
def Spec.allows (o : Spec) (value : String) : Bool :=
  match o.kind with
  | .none | .text => true
  | .path => value != ""
  | .word => (Numeral.word64? value.toList).isSome
  | .integer => (Numeral.int64? value.toList).isSome

/-- The arguments that may stand at one level. -/
structure Level where
  topic : Topic
  options : List Spec
  /-- The names that begin the next level. -/
  actions : List String := []
  /-- Whether arguments that are no options may stand here. -/
  takesWords : Bool := false

/-- The options and words read at one level. -/
structure Gathered where
  /-- The options found, with their values. -/
  found : List (String × String) := []
  words : List String := []
  /-- An option whose value is still to come. -/
  awaiting : Option Spec := none
  /-- An option and a value that are not yet checked. -/
  unchecked : Option (Spec × String) := none

namespace Gathered

/-- Adds an option with its value. -/
def add (g : Gathered) (o : Spec) (value : String) : Except Stop Gathered :=
  if (g.found.lookup o.name).isSome || !o.allows value then .error .unusable
  else .ok { g with found := (o.name, value) :: g.found }

/-- Adds the option that is not yet checked. -/
def settle (g : Gathered) : Except Stop Gathered :=
  match g.awaiting, g.unchecked with
  | some _, _ => .error .unusable
  | none, some (o, value) => { g with unchecked := none }.add o value
  | none, none => .ok g

/-- The value of an option. -/
def value? (g : Gathered) (name : String) : Option String :=
  g.found.lookup name

end Gathered

/-- The option with this name at a level. -/
def Level.named? (l : Level) (name : String) : Option Spec :=
  l.options.find? (·.name == name)

/-- The option with this letter at a level. -/
def Level.lettered? (l : Level) (letter : Char) : Option Spec :=
  l.options.find? (·.short == some letter)

/-- Takes an option that has been recognised, with a value if one came with it. -/
def takeOption (g : Gathered) (o : Spec) (attached : Option String) : Except Stop Gathered :=
  match o.kind, attached with
  | .none, none => do (← g.settle).add o ""
  | .none, some _ => .error .unusable
  | _, some value => do (← g.settle).add o value
  | _, none => do return { (← g.settle) with awaiting := some o }

/-- Takes an option by its name, with the value behind its equals sign. -/
def takeLong (l : Level) (g : Gathered) (text : List Char) : Except Stop Gathered :=
  let name := String.ofList (text.takeWhile (· ≠ '='))
  let attached := match text.dropWhile (· ≠ '=') with
    | [] => none
    | _ :: value => some (String.ofList value)
  if name = "help" && attached.isNone then do
    let _ ← g.settle
    throw (.help l.topic)
  else
    match l.named? name with
    | some o => takeOption g o attached
    | none => .error .unusable

/-- Takes options by their letters; one that takes a value ends the row. -/
def takeShort (l : Level) (g : Gathered) : List Char → Except Stop Gathered
  | [] => .ok g
  | letter :: rest =>
    if letter = 'h' then do
      let _ ← g.settle
      throw (.help l.topic)
    else
      match l.lettered? letter with
      | none => .error .unusable
      | some o =>
        if o.kind = .none then do takeShort l (← takeOption g o none) rest
        else
          match rest with
          | [] => takeOption g o none
          | '=' :: value | value => takeOption g o (some (String.ofList value))

/-- Reads the arguments of one level. Where the name of an action comes, answers it with the
arguments after it. -/
def gather (l : Level) (g : Gathered) (onlyWords : Bool) :
    List String → Except Stop (Gathered × Option (String × List String))
  | [] => .ok (g, none)
  | arg :: rest =>
    if onlyWords then
      if l.takesWords then gather l { g with words := arg :: g.words } true rest
      else .error .unusable
    else if g.awaiting.isNone && l.actions.contains arg then .ok (g, some (arg, rest))
    else
      match arg.toList with
      | ['-', '-'] => if g.awaiting.isSome then .error .unusable else gather l g true rest
      | '-' :: '-' :: text => do gather l (← takeLong l g text) false rest
      | '-' :: letter :: letters => do gather l (← takeShort l g (letter :: letters)) false rest
      | _ =>
        match g.awaiting with
        | some o =>
          gather l { g with awaiting := none, unchecked := some (o, arg) } false rest
        | none =>
          if l.takesWords then gather l { g with words := arg :: g.words } false rest
          else .error .unusable

/-! ## The levels of this program -/

/-- The options for all actions. -/
def program : Level where
  topic := .program
  options := [⟨"config", none, .path⟩, ⟨"data-dir", none, .path⟩, ⟨"dimension", none, .word⟩,
    ⟨"verbose", some 'v', .none⟩]
  actions := ["seed", "query", "count", "del", "flush", "help"]

def seedLevel : Level where
  topic := .seed
  options := [⟨"count", some 'c', .word⟩, ⟨"batch", some 'b', .word⟩, ⟨"prefix", some 'p', .text⟩]

def queryLevel : Level where
  topic := .query
  options := [⟨"k", some 'k', .integer⟩, ⟨"filter", some 'f', .text⟩,
    ⟨"vector", some 'v', .text⟩]

def countLevel : Level where
  topic := .count
  options := []

def delLevel : Level where
  topic := .del
  options := []
  takesWords := true

def flushLevel : Level where
  topic := .flush
  options := []

/-- The topic that an action's name stands for. -/
def topic? : String → Option Topic
  | "seed" => some .seed
  | "query" => some .query
  | "count" => some .count
  | "del" => some .del
  | "flush" => some .flush
  | "help" => some .help
  | _ => none

/-- Reads the arguments of an action to their end. -/
def gatherAll (l : Level) (args : List String) : Except Stop Gathered := do
  (← gather l {} false args).1.settle

/-- A word among the options, or what stands for it. -/
def wordOr (g : Gathered) (name : String) (otherwise : UInt64) : UInt64 :=
  ((g.value? name).bind fun value => Numeral.word64? value.toList).getD otherwise

/-- Reads an action with its arguments. -/
def action (name : String) (args : List String) : Except Stop Action := do
  match topic? name with
  | some .seed =>
    let g ← gatherAll seedLevel args
    return .seed (wordOr g "count" 1000) (wordOr g "batch" 1000) ((g.value? "prefix").getD "key")
  | some .query =>
    let g ← gatherAll queryLevel args
    let k := ((g.value? "k").bind fun value => Numeral.int64? value.toList).getD 5
    return .query k (g.value? "filter") (g.value? "vector")
  | some .count =>
    let _ ← gatherAll countLevel args
    return .count
  | some .del => return .del (← gatherAll delLevel args).words.reverse
  | some .flush =>
    let _ ← gatherAll flushLevel args
    return .flush
  | some .help =>
    match args with
    | [] => throw (.help .program)
    | [name] =>
      match topic? name with
      | some topic => throw (.help topic)
      | none => throw .unusable
    | _ => throw .unusable
  | some .program | none => throw .unusable

/-- An option's value from the environment, where the option itself is not given. -/
def fromEnvironment (env : List (String × String)) (g : Gathered) (name variableName : String) :
    Except Stop Gathered :=
  match g.value? name, env.lookup variableName, program.named? name with
  | none, some value, some o => g.add o value
  | _, _, _ => .ok g

/-- Reads the arguments of a run, with the environment for the options that may come from there. -/
def parse (env : List (String × String)) (args : List String) : Except Stop Invocation := do
  match ← gather program {} false args with
  | (_, none) => throw .unusable
  | (g, some (name, rest)) =>
    let action ← action name rest
    let g ← g.settle
    let g ← fromEnvironment env g "data-dir" "VECSIM_DATA_DIR"
    let g ← fromEnvironment env g "dimension" "VECSIM_DIMENSION"
    return {
      config := g.value? "config"
      dataDir := g.value? "data-dir"
      dimension := (g.value? "dimension").bind fun value => Numeral.word64? value.toList
      verbose := (g.value? "verbose").isSome
      action }

end Arguments

end Nearest.CommandLine
