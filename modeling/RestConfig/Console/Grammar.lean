import RestConfig.Text.Case

/-!
# Command-line grammars

A program's command line is a list of words. The program has options and a set of
commands; the first plain word names a command, and the words after it belong to that
command, which has options of its own. An option is given by one of its names: a short
name is a dash and a letter (`-h`), a long name starts with two dashes (`--format`).

An option either takes no value (a switch, or the help option) or exactly one (stored, the
last one given winning, or collected, every one kept in order). A value may be limited to
a list of choices. Help pages and usage lines show a value by its placeholder: the one
given, else the choices between braces, else the destination's name in capitals.
-/

namespace RestConfig.Console

/-- What an option does when it is given. -/
inductive OptionKind where
  | help
  | store
  | switch
  | collect
  deriving DecidableEq, Inhabited

def OptionKind.arity : OptionKind → Nat
  | .help | .switch => 0
  | .store | .collect => 1

/-- A value given to an option that takes one. The marker `--` is dropped from an option's
values, so an option whose attached value is the marker alone is given an empty list of
words instead of a word. -/
inductive Given where
  | word (text : String)
  | emptyList
  deriving DecidableEq, Inhabited

/-- What a destination holds once the words are read. -/
inductive Answer where
  | absent
  | given (value : Given)
  | switch (on : Bool)
  | collected (values : List Given)
  deriving DecidableEq, Inhabited

/-- An option: its names in order, the destination of its value, what it does, the values
it allows, the placeholder shown for its value, its help line and its value when it is not
given. -/
structure OptionSpec where
  names : List String
  dest : String
  kind : OptionKind
  choices : Option (List String) := none
  metavar : Option String := none
  help : String
  default : Answer := .absent
  deriving Inhabited

namespace OptionSpec

def label (o : OptionSpec) : String := "/".intercalate o.names

def placeholder (o : OptionSpec) : String :=
  match o.metavar, o.choices with
  | some m, _ => m
  | none, some cs => "\x7b" ++ ",".intercalate cs ++ "\x7d"
  | none, none => Text.upper o.dest

/-- The option in a usage line: its first name, with the placeholder if it takes a value,
in brackets. -/
def usagePart (o : OptionSpec) : String :=
  let first := o.names.headD ""
  if o.kind.arity = 0 then "[" ++ first ++ "]" else "[" ++ first ++ " " ++ o.placeholder ++ "]"

/-- The option in a help page: every name, each with the placeholder if it takes a value. -/
def invocation (o : OptionSpec) : String :=
  if o.kind.arity = 0 then ", ".intercalate o.names
  else ", ".intercalate (o.names.map (· ++ " " ++ o.placeholder))

end OptionSpec

def helpOption : OptionSpec :=
  { names := ["-h", "--help"], dest := "help", kind := .help,
    help := "show this help message and exit" }

/-- A command: its name, the line that sums it up in the program's help, the description
at the head of its own help page, and its options. -/
structure Command where
  name : String
  summary : String
  description : String
  options : List OptionSpec
  deriving Inhabited

/-- A program: its name, its description, its options, where the chosen command's name is
kept, and its commands. -/
structure Program where
  name : String
  description : String
  options : List OptionSpec
  commandDest : String
  commands : List Command
  deriving Inhabited

def Program.commandChoice (p : Program) : String :=
  "\x7b" ++ ",".intercalate (p.commands.map (·.name)) ++ "\x7d"

def Program.commandName (p : Program) (c : Command) : String := p.name ++ " " ++ c.name

end RestConfig.Console
