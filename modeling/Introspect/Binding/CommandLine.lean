import Introspect.Binding.Run

/-!
# The command line

The words of a command line, read as the files of a run. An option is followed by its value, in the
same word after an equals sign or in the next one; the value of a short option may also follow at
once. Every option stands at most once. The namespace a run comes after is only asked about together
with the file of counters.
-/

namespace Introspect.Binding

/-- The options that take a value. -/
inductive CommandOption
  | input | output | config | state | after
deriving Repr, DecidableEq

namespace CommandOption

/-- In the order of the help text. -/
def all : List CommandOption := [.input, .output, .config, .state, .after]

/-- The name behind two dashes. -/
def long : CommandOption → String
  | .input => "input"
  | .output => "output"
  | .config => "config"
  | .state => "state"
  | .after => "after"

/-- The letter behind one dash, where there is one. -/
def short? : CommandOption → Option Char
  | .input => some 'i'
  | .output => some 'o'
  | .config => some 'c'
  | .state | .after => none

/-- How messages write the option. -/
def usage (o : CommandOption) : String := s!"--{o.long} <{Text.upper o.long}>"

/-- What the help text says about the option. -/
def explanation : CommandOption → String
  | .input => "Namespace descriptor (JSON)"
  | .output => "Generated Rust source file"
  | .config => "Generator config (JSON); a missing file means defaults"
  | .state => "State file carrying id counters between namespaces"
  | .after => "Namespace generated right before this one, checked against the state"

/-- The line of the help text for an option. -/
def helpLine (o : CommandOption) : String :=
  let short := match o.short? with
    | some c => s!"-{c}, "
    | none => "    "
  s!"{short}{o.usage}  {o.explanation}"

end CommandOption

/-- Why the words of a command line are refused. -/
inductive CommandError
  | unexpected (word : String)
  | noValue (o : CommandOption)
  | repeated (o : CommandOption)
  | required (os : List CommandOption)
deriving Repr, DecidableEq

/-- The text of the error, without the hint that follows it. -/
def CommandError.message : CommandError → String
  | .unexpected word => s!"unexpected argument '{word}' found"
  | .noValue o => s!"a value is required for '{o.usage}' but none was supplied"
  | .repeated o => s!"the argument '{o.usage}' cannot be used multiple times"
  | .required os =>
      "the following required arguments were not provided:" ++
        String.join (os.map fun o => s!"\n  {o.usage}")

/-- What a command line asks for. -/
inductive Command
  | run (o : Options)
  | help
  | version
deriving Repr, DecidableEq

namespace Command

/-- A word as an option with the value in the same word, if there is one. -/
def option? (word : List Char) : Option (CommandOption × Option (List Char)) :=
  match word with
  | '-' :: '-' :: rest => do
      let name := rest.takeWhile (· ≠ '=')
      let o ← CommandOption.all.find? (·.long.toList = name)
      return (o, if name.length < rest.length then some (rest.drop (name.length + 1)) else none)
  | '-' :: c :: rest => do
      let o ← CommandOption.all.find? (·.short? = some c)
      return (o, match rest with
        | [] => none
        | '=' :: value => some value
        | value => some value)
  | _ => none

/-- The options of a command line with their values, after those already read. -/
def values (read : List (CommandOption × String)) :
    List String → Except CommandError (List (CommandOption × String))
  | [] => .ok read
  | word :: rest =>
      match option? word.toList with
      | none => .error (.unexpected word)
      | some (o, value) =>
          if (read.lookup o).isSome then .error (.repeated o)
          else
            match value, rest with
            | some v, rest => values (read ++ [(o, String.ofList v)]) rest
            | none, v :: rest => values (read ++ [(o, v)]) rest
            | none, [] => .error (.noValue o)

/-- Reads a command line. -/
def parse (words : List String) : Except CommandError Command :=
  if words.any fun w => w = "-h" || w = "--help" then .ok .help
  else if words.any fun w => w = "-V" || w = "--version" then .ok .version
  else do
    let read ← values [] words
    match read.lookup .input, read.lookup .output with
    | some input, some output =>
        let state := read.lookup .state
        let after := read.lookup .after
        if after.isSome && state.isNone then .error (.required [.state])
        else .ok (.run { input, output, config := read.lookup .config, state, after })
    | input, output =>
        .error (.required ((if input.isNone then [.input] else []) ++
          (if output.isNone then [.output] else [])))

/-- The line that errors and the help text have in common. -/
def usageText : String := "Usage: girgen [OPTIONS] --input <INPUT> --output <OUTPUT>"

/-- What `--help` prints. -/
def helpText : String :=
  "Generate Rust bindings for a GObject-Introspection namespace\n\n" ++ usageText ++
    "\n\nOptions:" ++ String.join (CommandOption.all.map fun o => s!"\n  {o.helpLine}") ++
    "\n  -h, --help\n  -V, --version"

/-- What `--version` prints. -/
def versionText : String := "girgen 0.2.0"

end Command

end Introspect.Binding
