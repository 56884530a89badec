import RestConfig.Console.Commands

/-!
# The `kafka-rest-config` program

Gathers what a run needs from the process (its words, its environment, the width of the
terminal, the file named by `--config` and the time it started), runs the command line,
and writes what the run answers to standard output and standard error.
-/

open RestConfig RestConfig.Console

/-- The process environment, as the kernel records it (none where there is no record). -/
def processEnvironment : IO (List (String × String)) := do
  let data ← try IO.FS.readBinFile "/proc/self/environ" catch _ => pure ByteArray.empty
  let text := (String.fromUTF8? data).getD ""
  return (text.splitOn (String.singleton (Char.ofNat 0))).filterMap fun entry =>
    match entry.splitOn "=" with
    | name :: rest => if name.isEmpty then none else some (name, "=".intercalate rest)
    | [] => none

/-- The terminal's width in columns: `COLUMNS` when it is a positive number, else 80. -/
def terminalColumns : IO Nat := do
  match (← IO.getEnv "COLUMNS").bind String.toNat? with
  | some n => pure (if n > 0 then n else 80)
  | none => pure 80

/-- The second since the epoch at which the process started: the boot time plus the
start of the process in clock ticks of a hundredth of a second. -/
def startSecond : IO Int := do
  try
    let stat ← IO.FS.readFile "/proc/stat"
    let boot := ((stat.splitOn "\n").findSome? fun line =>
      if line.startsWith "btime " then (String.ofList (line.toList.drop 6)).toNat? else none).getD 0
    let own ← IO.FS.readFile "/proc/self/stat"
    let fields := (own.splitOn ") ").getLast?.map (·.splitOn " ")
    let ticks := ((fields.bind (·[19]?)).bind String.toNat?).getD 0
    return (boot + ticks / 100 : Nat)
  catch _ => return 0

def accountHome : IO String := do
  return (← IO.getEnv "HOME").getD "/"

/-- Whether a path names a directory that can be opened: reading it as a file then fails
with the system's "is a directory" error (code 21). -/
def isDirectory (path : String) : IO Bool := do
  try
    let _ ← IO.FS.readBinFile path
    pure false
  catch e =>
    match e with
    | .inappropriateType _ 21 _ => pure true
    | _ => pure false

/-- The files a command line can read: the one it names with `--config`, when that is a
file that can be read, together with the directories its path passes through. -/
def configFiles (width : Nat) (home : String) (words : List String) : IO Files.Tree := do
  match restConfigProgram.read width words with
  | .ok inv =>
    match inv.word? "config_path" with
    | some given =>
      match Files.expandHome home given with
      | .ok path =>
        let root := Files.rootOf path
        let names := Files.parts path
        let dirs ← ((List.range names.length).map fun n =>
          root ++ "/".intercalate (names.take n)).filterM fun d =>
            if d.isEmpty then pure false else isDirectory d
        let file ← try
            let data ← IO.FS.readBinFile path
            pure [(path, Files.Entry.bytes data.toList)]
          catch _ => pure []
        pure (dirs.map (·, Files.Entry.directory) ++ file)
      | .error _ => pure []
    | none => pure []
  | .error _ => pure []

def main (args : List String) : IO UInt32 := do
  let columns ← terminalColumns
  let environ ← processEnvironment
  let home ← accountHome
  let files ← configFiles (layoutWidth columns) ((environ.lookup "HOME").getD home) args
  let now ← startSecond
  let o := run { words := args, files, environ, accountHome := home, room := callLimit - 2,
                 columns, now := .int now }
  IO.print o.out
  IO.eprint o.err
  return o.status.code.toUInt32
