import RecordFilter.Command.Compile
import RecordFilter.Calendar.Reading
/-!
# Command lines

An option is given as `--name value`, `--name=value`, `-n value`, `-nvalue` or `-n=value`, once at
most. The options of the program may stand before the subcommand and behind it; where they stand at
both places, the ones behind it count. A variable stands for an option that is not given.

## Main definitions

* `Invocation` — what a command line asks for.
* `Invocation.ofArgs?` — its meaning; `none` for a command line that has none.
-/
namespace RecordFilter

inductive OptionName where
  | config | timezone | dialect | schemas | entity | filter | adapter | now
  deriving DecidableEq, Repr

namespace OptionName

def long : OptionName → String
  | config => "config"
  | timezone => "timezone"
  | dialect => "dialect"
  | schemas => "schemas"
  | entity => "entity"
  | filter => "filter"
  | adapter => "adapter"
  | now => "now"

def short? : OptionName → Option Char
  | config => some 'c'
  | timezone => some 't'
  | dialect => some 'd'
  | schemas => some 's'
  | entity => some 'e'
  | filter => some 'f'
  | adapter => some 'a'
  | now => none

/-- The options of the program itself. -/
def shared : List OptionName := [config, timezone, dialect]

/-- The options behind the subcommand that compiles. -/
def compiling : List OptionName := shared ++ [schemas, entity, filter, adapter, now]

/-- The variable that stands for an option. -/
def environmentName? : OptionName → Option String
  | config => some "SIEVE_CONFIG"
  | timezone => some "SIEVE_TIMEZONE"
  | dialect => some "SIEVE_DIALECT"
  | _ => none

end OptionName

def Adapter.ofName? (s : String) : Option Adapter :=
  let s := Text.lowerCase s
  if s = "document" || s = "doc" then some .document
  else if s = "relational" || s = "sql" then some .relational
  else none

/-- Whether an option can have that value. -/
def OptionName.accepts (o : OptionName) (value : String) : Bool :=
  match o with
  | .config => value ≠ ""
  | .schemas => value ≠ ""
  | .filter => value ≠ ""
  | .dialect => (Dialect.ofName? value).isSome
  | .adapter => (Adapter.ofName? value).isSome
  | .now => (Moment.ofText? value).isSome
  | .timezone => true
  | .entity => true

structure CompileArgs where
  schemas : String
  entity : String
  filter : String
  adapter : Adapter
  /-- The moment that stands for the present. -/
  now : Option Instant
  deriving DecidableEq, Repr

inductive Invocation where
  | version
  | help
  | operators
  | compile (overrides : Overrides) (args : CompileArgs)
  deriving DecidableEq, Repr

namespace Invocation

/-- The options given so far with their values. -/
abbrev Given := List (OptionName × String)

def valueOf (given : Given) (o : OptionName) : Option String :=
  (given.find? (·.1 = o)).map (·.2)

/-- An option given a value it can have, for the first time. -/
def give? (given : Given) (o : OptionName) (value : String) : Option Given :=
  if o.accepts value && (valueOf given o).isNone then some (given ++ [(o, value)]) else none

/-- What a single argument is. -/
inductive Token where
  | optionNeedingValue (o : OptionName)
  | optionWithValue (o : OptionName) (value : String)
  | version
  | help
  /-- Nothing behind it is an option. -/
  | escape
  | word (s : String)
  | unknown
  deriving DecidableEq, Repr

def longToken (allowed : List OptionName) (name : String) (value : Option String) : Token :=
  match allowed.find? (·.long = name), value with
  | some o, some value => .optionWithValue o value
  | some o, none => .optionNeedingValue o
  | none, none => if name = "version" then .version else if name = "help" then .help else .unknown
  | none, some _ => .unknown

def shortToken (allowed : List OptionName) (letter : Char) (rest : List Char) : Token :=
  match allowed.find? (·.short? = some letter), rest with
  | some o, [] => .optionNeedingValue o
  | some o, '=' :: rest => .optionWithValue o (String.ofList rest)
  | some o, rest => .optionWithValue o (String.ofList rest)
  | none, _ => if letter = 'V' then .version else if letter = 'h' then .help else .unknown

def token (allowed : List OptionName) (arg : String) : Token :=
  match arg.toList with
  | ['-', '-'] => .escape
  | '-' :: '-' :: rest =>
    let name := String.ofList (rest.takeWhile (· ≠ '='))
    match rest.dropWhile (· ≠ '=') with
    | '=' :: value => longToken allowed name (some (String.ofList value))
    | _ => longToken allowed name none
  | '-' :: letter :: rest => shortToken allowed letter rest
  | _ => .word arg

/-- An argument that can be the value of an option before it. -/
def isValue (arg : String) : Bool :=
  match arg.toList with
  | '-' :: _ :: _ => false
  | _ => true

/-- What a row of arguments comes to. -/
inductive Row where
  | options (given : Given)
  /-- A word with the options before it and the arguments behind it. -/
  | word (given : Given) (s : String) (rest : List String)
  | version
  | help
  deriving DecidableEq, Repr

/-- Reads options up to the first word. -/
def readRow (allowed : List OptionName) (given : Given) : List String → Option Row
  | [] => some (.options given)
  | arg :: rest =>
    match token allowed arg with
    | .optionWithValue o value =>
      match give? given o value with
      | some given => readRow allowed given rest
      | none => none
    | .optionNeedingValue o =>
      match rest with
      | [] => none
      | value :: rest =>
        if isValue value then
          match give? given o value with
          | some given => readRow allowed given rest
          | none => none
        else none
    | .version => some .version
    | .help => some .help
    | .escape => if rest = [] then some (.options given) else none
    | .word s => some (.word given s rest)
    | .unknown => none

/-- The options of one place, with variables for those that are not given. A variable has to have a
value that the option can have. -/
def withVariables? (vars : String → Option String) (given : Given) : Option Given :=
  OptionName.shared.foldlM (fun given o =>
    if (valueOf given o).isSome then some given
    else
      match o.environmentName?.bind vars with
      | none => some given
      | some value => if o.accepts value then some (given ++ [(o, value)]) else none) given

/-- An option of the program: given behind the subcommand, given before it, or by a variable. -/
def sharedValue (outer inner all : Given) (o : OptionName) : Option String :=
  ((valueOf inner o).or (valueOf outer o)).or (valueOf all o)

def overridesOf (outer inner all : Given) : Overrides where
  config := sharedValue outer inner all .config
  timezone := sharedValue outer inner all .timezone
  dialect := (sharedValue outer inner all .dialect).bind Dialect.ofName?

def compileArgs? (given : Given) : Option CompileArgs := do
  let schemas ← valueOf given .schemas
  let entity ← valueOf given .entity
  let filter ← valueOf given .filter
  let adapter ← match valueOf given .adapter with
    | some name => Adapter.ofName? name
    | none => some .document
  return ⟨schemas, entity, filter, adapter, (valueOf given .now).bind Moment.ofText?⟩

/-- What the arguments behind a subcommand come to; there is no version behind one. -/
def readSubcommand (allowed : List OptionName) (args : List String) : Option (Option Given) :=
  match readRow allowed [] args with
  | some (.options given) => some (some given)
  | some .help => some none
  | _ => none

/-- What a command line asks for, given the variables. -/
def ofArgs? (vars : String → Option String) (args : List String) : Option Invocation :=
  match readRow OptionName.shared [] args with
  | some .version => some .version
  | some .help => some .help
  | some (.word outer "operators" rest) => do
    match ← readSubcommand OptionName.shared rest with
    | none => some .help
    | some inner =>
      let _ ← withVariables? vars inner
      let _ ← withVariables? vars outer
      some .operators
  | some (.word outer "compile" rest) => do
    match ← readSubcommand OptionName.compiling rest with
    | none => some .help
    | some inner =>
      let all ← withVariables? vars inner
      let _ ← withVariables? vars outer
      let args ← compileArgs? inner
      some (.compile (overridesOf outer inner all) args)
  | some (.word _ "help" _) => some .help
  | _ => none

end Invocation
end RecordFilter
