import RestConfig.Console.Help
import RestConfig.Text.Quoted
import RestConfig.Text.Digit

/-!
# Reading a command line

The words are read in two levels: the program's, then the chosen command's. Each level
first sorts its words: `--` is a marker after which every word is plain; a word that
starts with a dash is an option when it names one of the level's options (exactly, or
by a long name before `=`, or by an unambiguous start of a long name, or as a short name
with its value attached), or when it names none but looks like one (no blank, not a
negative number); any other word is plain. A start of a name that fits several options
is refused at once.

Then the level walks the words from the left. Plain words before an option go to the
level's positional slot if it can take them, and are left over otherwise; an option takes
its value from the next word when that is plain, or from what is attached to it (an
attached marker is dropped, which leaves an empty list); what is attached to a short name
that takes no value is read as more short names, and a letter that names no option is
refused; an option the level does not know is left over. The program's positional slot is the
command: it takes its first plain word (or the marker followed by a plain word) and
every word after it, and the first must name a command. Words left over on either level
are refused by the program together, after the command's level has read its own.

Asking for help shows the page of the level where it is asked and ends the run; any
refusal shows the level's usage line and a message.
-/

namespace RestConfig.Console

open RestConfig.Text

/-- How a run ends before its command runs. -/
inductive Stop where
  | help (page : String)
  | refused (usage name message : String)
  deriving Inhabited

/-- One level of reading: the name its messages begin with, its usage line and help page,
its options, and the commands its positional slot must name (with the destination of the
chosen name), if it has that slot. -/
structure Level where
  name : String
  usage : String
  page : String
  options : List OptionSpec
  commands : Option (String × List String)
  deriving Inhabited

/-- How one word is read on a level. -/
inductive Word where
  | plain
  | marker
  | option (spec : Option OptionSpec) (name : String) (attached : Option String)
  deriving Inhabited

namespace Level

def find? (l : Level) (name : String) : Option OptionSpec :=
  l.options.find? (·.names.contains name)

/-- Every name of the level's options with its option, in the order they were declared. -/
def named (l : Level) : List (String × OptionSpec) :=
  l.options.flatMap fun o => o.names.map (·, o)

/-- The options a word may name by a start of their name: for a word with two leading
dashes, every name that starts with the word's part before `=`; for a word with one, the
short name of its first two characters (the rest attached) and every name that starts
with the whole word. -/
def candidates (l : Level) (w : String) : List (OptionSpec × String × Option String) :=
  let cs := w.toList
  if cs.take 2 = ['-', '-'] then
    let before := String.ofList (cs.takeWhile (· ≠ '='))
    let attached := if cs.contains '=' then some (String.ofList ((cs.dropWhile (· ≠ '=')).drop 1))
      else none
    (l.named.filter fun (n, _) => n.startsWith before).map fun (n, o) => (o, n, attached)
  else
    let short := String.ofList (cs.take 2)
    l.named.filterMap fun (n, o) =>
      if n = short then some (o, n, some (String.ofList (cs.drop 2)))
      else if n.startsWith w then some (o, n, none)
      else none

/-- Whether a word reads as a negative number: a dash, then digits, or digits around a point
with at least one after it (a final line feed allowed). -/
def negativeNumber (w : String) : Bool :=
  let isDigit (c : Char) : Bool := (digitValue? c).isSome
  let body := match w.toList with
    | '-' :: rest => some (if rest.getLast? = some '\n' then rest.dropLast else rest)
    | _ => none
  match body with
  | some ds =>
    (!ds.isEmpty && ds.all isDigit) ||
      (match ds.dropWhile isDigit with
       | '.' :: frac => !frac.isEmpty && frac.all isDigit
       | _ => false)
  | none => false

def classify (l : Level) (w : String) : Except Stop Word :=
  if w.isEmpty || w.front ≠ '-' then pure .plain
  else match l.find? w with
    | some o => pure (.option (some o) w none)
    | none =>
      if w.length = 1 then pure .plain
      else
        let cs := w.toList
        let before := String.ofList (cs.takeWhile (· ≠ '='))
        let after := String.ofList ((cs.dropWhile (· ≠ '=')).drop 1)
        match (if cs.contains '=' then l.find? before else none) with
        | some o => pure (.option (some o) before (some after))
        | none =>
          match l.candidates w with
          | [(o, n, attached)] => pure (.option (some o) n attached)
          | _ :: _ :: _ =>
            throw (.refused l.usage l.name ("ambiguous option: " ++ w ++ " could match " ++
              ", ".intercalate ((l.candidates w).map (·.2.1))))
          | [] =>
            if negativeNumber w || cs.contains ' ' then pure .plain
            else pure (.option none w none)

def classifyAll (l : Level) : List String → Except Stop (List Word)
  | [] => pure []
  | w :: ws =>
    if w = "--" then pure (.marker :: ws.map fun _ => .plain)
    else do
      let k ← l.classify w
      let ks ← l.classifyAll ws
      pure (k :: ks)

def refuseArgument (l : Level) (label message : String) : Stop :=
  .refused l.usage l.name ("argument " ++ label ++ ": " ++ message)

end Level

/-- What a level has read so far: the answers by destination, the words left over, and the
chosen command with its words (once the positional slot has taken them). -/
structure Progress where
  answers : List (String × Answer)
  leftover : List String
  command : Option (String × List String)
  deriving Inhabited

def setAnswer (answers : List (String × Answer)) (dest : String) (a : Answer) :
    List (String × Answer) :=
  if answers.any (·.1 == dest) then answers.map fun p => if p.1 == dest then (dest, a) else p
  else answers ++ [(dest, a)]

namespace Level

def take (l : Level) (o : OptionSpec) (values : List String) (st : Progress) :
    Except Stop Progress := do
  match o.kind with
  | .help => throw (.help l.page)
  | .switch => pure { st with answers := setAnswer st.answers o.dest (.switch true) }
  | .store | .collect =>
    let v : Given := match values.erase "--" with
      | w :: _ => .word w
      | [] => .emptyList
    if let (some cs, .word w) := (o.choices, v) then
      if !cs.contains w then
        throw (l.refuseArgument o.label ("invalid choice: " ++ quote w ++ " (choose from " ++
          ", ".intercalate (cs.map quote) ++ ")"))
    match o.kind with
    | .collect =>
      let before := match st.answers.lookup o.dest with
        | some (.collected vs) => vs
        | _ => match o.default with
          | .collected vs => vs
          | _ => []
      pure { st with answers := setAnswer st.answers o.dest (.collected (before ++ [v])) }
    | _ => pure { st with answers := setAnswer st.answers o.dest (.given v) }

/-- What an option given at position `i` by `name`, with what is attached to it, leads to:
the options to take with their values, and where reading goes on. A value attached to a
short name of an option that takes none is read as more short names written together (as
in `-ab`), each letter naming an option; a letter that names none refuses the rest of the
run. `fuel` bounds the letters followed. -/
def gather (l : Level) (words : List String) (kinds : List Word) (i : Nat) :
    Nat → OptionSpec → String → Option String →
    Except Stop (List (OptionSpec × List String) × Nat)
  | 0, o, _, _ => pure ([(o, [])], i + 1)
  | fuel + 1, o, name, attached =>
    let ignored (text : String) : Stop :=
      l.refuseArgument o.label ("ignored explicit argument " ++ quote text)
    match attached with
    | none =>
      if o.kind.arity = 0 then pure ([(o, [])], i + 1)
      else match kinds[i + 1]? with
        | some .plain => pure ([(o, (words[i + 1]?).toList)], i + 2)
        | _ => throw (l.refuseArgument o.label "expected one argument")
    | some text =>
      if o.kind.arity = 1 then pure ([(o, [text])], i + 1)
      else if (name.toList[1]?).getD '-' ≠ '-' ∧ text ≠ "" then
        let next := "-" ++ String.singleton text.front
        let rest := String.ofList (text.toList.drop 1)
        match l.find? next with
        | some o' => do
          let (more, stop) ← l.gather words kinds i fuel o' next
            (if rest.isEmpty then none else some rest)
          pure ((o, []) :: more, stop)
        | none => throw (ignored text)
      else throw (ignored text)

def consumeOption (l : Level) (words : List String) (kinds : List Word) (i : Nat)
    (st : Progress) : Except Stop (Nat × Progress) := do
  match kinds[i]? with
  | some (.option (some o) name attached) =>
    let fuel := ((words[i]?).map String.length).getD 0 + 1
    let (taken, stop) ← l.gather words kinds i fuel o name attached
    let st ← taken.foldlM (fun st (o, vs) => l.take o vs st) st
    pure (stop, st)
  | _ => pure (i + 1, { st with leftover := st.leftover ++ (words[i]?).toList })

/-- Lets the positional slot take the words from position `i`, if it is still open and
they start with a plain word (after markers): answers where reading goes on. -/
def consumePlain (l : Level) (words : List String) (kinds : List Word) (i : Nat)
    (st : Progress) : Except Stop (Nat × Progress) :=
  match l.commands, st.command with
  | some (dest, names), none =>
    match (kinds.drop i).dropWhile (fun k => match k with | .marker => true | _ => false) with
    | .plain :: _ =>
      let taken := words.drop i
      let first := taken.headD ""
      if names.contains first then
        pure (words.length, { st with command := some (first, taken.drop 1),
                                      answers := setAnswer st.answers dest (.given (.word first)) })
      else
        throw (l.refuseArgument dest ("invalid choice: " ++ quote first ++ " (choose from " ++
          ", ".intercalate (names.map quote) ++ ")"))
    | _ => pure (i, st)
  | _, _ => pure (i, st)

def nextOption (kinds : List Word) (i : Nat) : Option Nat :=
  ((List.range kinds.length).filter fun j =>
    i ≤ j && match kinds[j]? with
      | some (.option _ _ _) => true
      | _ => false).head?

/-- Walks the words from position `i` while an option lies ahead, with `fuel` steps. -/
def walk (l : Level) (words : List String) (kinds : List Word) :
    Nat → Nat → Progress → Except Stop (Nat × Progress)
  | 0, i, st => pure (i, st)
  | fuel + 1, i, st =>
    match nextOption kinds i with
    | none => pure (i, st)
    | some j =>
      if i ≠ j then do
        let (stop, st) ← l.consumePlain words kinds i st
        if stop > i then l.walk words kinds fuel stop st
        else
          let st := { st with leftover := st.leftover ++ (words.drop i).take (j - i) }
          let (stop, st) ← l.consumeOption words kinds j st
          l.walk words kinds fuel stop st
      else do
        let (stop, st) ← l.consumeOption words kinds j st
        l.walk words kinds fuel stop st

def read (l : Level) (words : List String) : Except Stop Progress := do
  let kinds ← l.classifyAll words
  let (i, st) ← l.walk words kinds (words.length + 1) 0 ⟨[], [], none⟩
  let (stop, st) ← l.consumePlain words kinds i st
  let st := { st with leftover := st.leftover ++ words.drop stop }
  if let some (dest, _) := l.commands then
    if st.command.isNone then
      throw (.refused l.usage l.name ("the following arguments are required: " ++ dest))
  pure st

end Level

def optionParts (options : List OptionSpec) : List String := options.map (·.usagePart)

def optionsSection (options : List OptionSpec) : Section :=
  ⟨"options", options.map fun o => ⟨o.invocation, some o.help, []⟩⟩

namespace Program

def usage (p : Program) (width : Nat) : String :=
  usageText width p.name (optionParts p.options) [p.commandChoice, "..."]

def helpPage (p : Program) (width : Nat) : String :=
  page width (p.usage width) p.description
    [⟨"positional arguments", [⟨p.commandChoice, none, p.commands.map fun c => (c.name, c.summary)⟩]⟩,
     optionsSection p.options]

def level (p : Program) (width : Nat) : Level :=
  { name := p.name, usage := "usage: " ++ p.usage width ++ "\n", page := p.helpPage width,
    options := p.options, commands := some (p.commandDest, p.commands.map (·.name)) }

def commandUsage (p : Program) (c : Command) (width : Nat) : String :=
  usageText width (p.commandName c) (optionParts c.options) []

def commandLevel (p : Program) (c : Command) (width : Nat) : Level :=
  { name := p.commandName c, usage := "usage: " ++ p.commandUsage c width ++ "\n",
    page := page width (p.commandUsage c width) c.description
      [⟨"positional arguments", []⟩, optionsSection c.options],
    options := c.options, commands := none }

end Program

/-- A command line read in full: the chosen command and an answer for every destination
of its options (their defaults where they were not given). -/
structure Invocation where
  command : Command
  answers : List (String × Answer)
  deriving Inhabited

namespace Invocation

def answer (inv : Invocation) (dest : String) : Answer :=
  (inv.answers.lookup dest).getD .absent

def given? (inv : Invocation) (dest : String) : Option Given :=
  match inv.answer dest with
  | .given v => some v
  | _ => none

def word? (inv : Invocation) (dest : String) : Option String :=
  match inv.given? dest with
  | some (.word w) => some w
  | _ => none

def isOn (inv : Invocation) (dest : String) : Bool :=
  match inv.answer dest with
  | .switch b => b
  | _ => false

def collected (inv : Invocation) (dest : String) : List Given :=
  match inv.answer dest with
  | .collected vs => vs
  | _ => []

end Invocation

def Program.read (p : Program) (width : Nat) (words : List String) : Except Stop Invocation := do
  let top ← (p.level width).read words
  let (name, rest) := top.command.getD ("", [])
  let c := (p.commands.find? (·.name == name)).getD default
  let sub ← (p.commandLevel c width).read rest
  let leftover := top.leftover ++ sub.leftover
  if !leftover.isEmpty then
    throw (.refused (p.level width).usage p.name
      ("unrecognized arguments: " ++ " ".intercalate leftover))
  let answers := (c.options.filter (·.kind ≠ .help)).map fun o =>
    (o.dest, (sub.answers.lookup o.dest).getD o.default)
  pure ⟨c, answers⟩

end RestConfig.Console
