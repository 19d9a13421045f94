/-!
# The command line

The command line names a command, `check`, `list-rules` or `init`, with options in
front of it and behind it. An option has a long name, and most have a letter too.
Letters may be run together, and a value may follow its option in the next
argument, behind an equals sign, or right behind the letter. Behind two hyphens
everything is taken as it stands.

Options other than those for patterns are given once. Two of them, `--verbose` and
`--config`, are understood both in front of the command and behind it, once in
each place; the place behind the command counts.

Reading the arguments (`Invocation.read`) gives what to do, or says why there is
nothing to do (`Halt`).
-/

namespace TerraLint

/-- How a report is printed. -/
inductive Format where
  | text
  | json
  | compact
  | pretty
  deriving DecidableEq, Repr

/-- The format that a word stands for. -/
def Format.ofWord? : String → Option Format
  | "text" => some text
  | "json" => some json
  | "compact" => some compact
  | "pretty" => some pretty
  | _ => none

/-- What is asked of a check. -/
structure CheckOptions where
  path : String := "."
  format : Format := .text
  /-- Names and codes of the rules to run, separated by commas. -/
  rules : Option String := none
  exclude : List String := []
  recursive : Bool := false
  deriving DecidableEq, Repr

/-- What to do. -/
inductive Command where
  | check (options : CheckOptions)
  | listRules
  | init (force : Bool)
  deriving DecidableEq, Repr

/-- A command, and the path of a settings file if one is given. -/
structure Invocation where
  settingsPath : Option String
  command : Command
  deriving DecidableEq, Repr

/-- Why there is nothing to do. -/
inductive Halt where
  | usage
  | help
  | version
  deriving DecidableEq, Repr

/-- The options. -/
inductive OptionKey where
  | verbose
  | config
  | help
  | version
  | format
  | rules
  | exclude
  | recursive
  | force
  deriving DecidableEq, Repr

namespace OptionKey

/-- The long name of an option. -/
def long : OptionKey → String
  | verbose => "verbose"
  | config => "config"
  | help => "help"
  | version => "version"
  | format => "format"
  | rules => "rules"
  | exclude => "exclude"
  | recursive => "recursive"
  | force => "force"

/-- The letter of an option, if it has one. -/
def letter? : OptionKey → Option Char
  | verbose => some 'v'
  | config => some 'c'
  | help => some 'h'
  | version => some 'V'
  | format => some 'f'
  | rules => none
  | exclude => some 'e'
  | recursive => some 'r'
  | force => none

/-- The option has a value. -/
def takesValue : OptionKey → Bool
  | config | format | rules | exclude => true
  | _ => false

/-- The option may be given several times. -/
def isRepeatable : OptionKey → Bool
  | exclude => true
  | _ => false

/-- The option may have the value. -/
def accepts (key : OptionKey) (value : String) : Bool :=
  match key with
  | config => value != ""
  | format => (Format.ofWord? value).isSome
  | _ => true

end OptionKey

/-- What has been read of arguments: options with their values, and arguments that are
neither options nor values. -/
structure Arguments where
  options : List (OptionKey × String) := []
  plain : List String := []
  deriving DecidableEq, Repr

namespace Arguments

/-- The option has been given. -/
def has (a : Arguments) (key : OptionKey) : Bool := a.options.any fun option => option.1 == key

/-- The value of an option. -/
def value? (a : Arguments) (key : OptionKey) : Option String := a.options.lookup key

/-- The values of an option, in order. -/
def values (a : Arguments) (key : OptionKey) : List String :=
  (a.options.filter fun option => option.1 == key).map Prod.snd

/-- Takes an option. -/
def add (a : Arguments) (key : OptionKey) (value : String) : Except Halt Arguments :=
  match key with
  | .help => .error .help
  | .version => .error .version
  | _ =>
    if (a.has key && !key.isRepeatable) || !key.accepts value then .error .usage
    else .ok { a with options := a.options ++ [(key, value)] }

/-- Reads letters that are run together. An option with a value takes what is left of them,
and waits for the next argument if nothing is left. -/
def addLetters (keys : List OptionKey) (a : Arguments) :
    List Char → Except Halt (Arguments × Option OptionKey)
  | [] => .ok (a, none)
  | letter :: rest =>
    match keys.find? fun key => key.letter? == some letter with
    | none => .error .usage
    | some key =>
      if key.takesValue then
        match rest with
        | [] => .ok (a, some key)
        | '=' :: value => do return (← a.add key (String.ofList value), none)
        | value => do return (← a.add key (String.ofList value), none)
      else do
        addLetters keys (← a.add key "") rest

/-- Reads a long option behind its hyphens. -/
def addLong (keys : List OptionKey) (a : Arguments) (text : List Char) :
    Except Halt (Arguments × Option OptionKey) :=
  let name := text.takeWhile (· != '=')
  let value := text.drop name.length
  match keys.find? fun key => key.long.toList == name with
  | none => .error .usage
  | some key =>
    match key.takesValue, value with
    | true, [] => .ok (a, some key)
    | true, _ :: value => do return (← a.add key (String.ofList value), none)
    | false, [] => do return (← a.add key "", none)
    | false, _ :: _ => .error .usage

/-- Takes an argument that is neither an option nor a value, if there is room for it. -/
def addPlain (room : Nat) (a : Arguments) (argument : String) : Except Halt Arguments :=
  if a.plain.length < room && argument != "" then
    .ok { a with plain := a.plain ++ [argument] }
  else .error .usage

/-- The arguments that are understood in a place: the options, the names of commands, and
the number of plain arguments. -/
structure Grammar where
  keys : List OptionKey
  commands : List String := []
  room : Nat := 0
  deriving DecidableEq, Repr

/-- Reads arguments up to the end or up to the name of a command, which is given back with
the arguments behind it. `waiting` is an option whose value comes next, and `verbatim`
says that two hyphens have been read. -/
def read (g : Grammar) (waiting : Option OptionKey) (verbatim : Bool) (a : Arguments) :
    List String → Except Halt (Arguments × Option (String × List String))
  | [] => if waiting.isSome then .error .usage else .ok (a, none)
  | argument :: rest =>
    if verbatim then do read g waiting true (← a.addPlain g.room argument) rest
    else
      match argument.toList with
      | ['-', '-'] => read g waiting true a rest
      | '-' :: '-' :: text =>
        if waiting.isSome then .error .usage
        else do
          let (a, waiting) ← a.addLong g.keys text
          read g waiting false a rest
      | '-' :: letter :: letters =>
        if waiting.isSome then .error .usage
        else do
          let (a, waiting) ← a.addLetters g.keys (letter :: letters)
          read g waiting false a rest
      | _ =>
        match waiting with
        | some key => do read g none false (← a.add key argument) rest
        | none =>
          if g.commands.contains argument then .ok (a, some (argument, rest))
          else do read g none false (← a.addPlain g.room argument) rest

end Arguments

/-- The options of a check that its arguments give. -/
def CheckOptions.ofArguments (a : Arguments) : CheckOptions where
  path := a.plain.headD "."
  format := ((a.value? .format).bind Format.ofWord?).getD .text
  rules := a.value? .rules
  exclude := a.values .exclude
  recursive := a.has .recursive

namespace Command

/-- The names of the commands. -/
def names : List String := ["check", "list-rules", "init", "help"]

/-- What is understood in front of a command. -/
def outerGrammar : Arguments.Grammar where
  keys := [.verbose, .config, .help, .version]
  commands := names

/-- What is understood behind the name of a command. Only a check has a plain argument, its
path. -/
def grammar : String → Arguments.Grammar
  | "check" =>
    { keys := [.verbose, .config, .help, .format, .rules, .exclude, .recursive], room := 1 }
  | "init" => { keys := [.verbose, .config, .help, .force] }
  | _ => { keys := [.verbose, .config, .help] }

/-- The command with a name and arguments. -/
def ofArguments (name : String) (a : Arguments) : Except Halt Command :=
  match name with
  | "check" => .ok (.check (.ofArguments a))
  | "list-rules" => .ok .listRules
  | "init" => .ok (.init (a.has .force))
  | _ => .error .help

end Command

namespace Invocation

/-- Reads the arguments of the program, given the path of a settings file that the
environment names. An empty path there is refused wherever the option is not given. -/
def read (environment : Option String) (arguments : List String) : Except Halt Invocation := do
  let (outer, found) ← Arguments.read Command.outerGrammar none false {} arguments
  match found with
  | none => .error .usage
  | some (name, rest) =>
    let (inner, _) ← Arguments.read (Command.grammar name) none false {} rest
    let command ← Command.ofArguments name inner
    if environment = some "" ∧ !(outer.has .config && inner.has .config) then .error .usage
    else
      return ⟨((inner.value? .config).or (outer.value? .config)).or environment, command⟩

end Invocation

end TerraLint
