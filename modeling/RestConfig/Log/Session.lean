import RestConfig.Log.Record
import RestConfig.Text.Blank

/-!
# Logging sessions

Loggers form a tree by their dotted names under the root logger. Each logger has a level
(0 means "inherit from the parent"), a flag that says whether events go on to the parent's
handlers, and a list of handlers; the root starts at level 30, every other logger at 0
with the flag set and no handlers.

A *setup* attaches one handler, with a level and a line format, to a named logger: it
first shuts down the active handle, then reads the level and the format, saves the
logger's level and flag, gives the logger the new level, stops it from passing events on,
and returns a new handle, which becomes the active one. *Shutting down* a handle detaches
its handler and restores the saved level and flag; it takes effect once, and later calls
change nothing.

An event logged through a logger is kept when its level is positive and at least the
logger's effective level (the first non-zero level on the way to the root). It then goes
to the handlers of the logger and of its ancestors, nearest first, until a logger that
does not pass events on; each handler whose level the event reaches writes the event's
line. A line that cannot be formatted is dropped.
-/

namespace RestConfig.Log

/-- The state of a logger that setups change. -/
structure LoggerState where
  level : Int
  propagate : Bool
  handlers : List Nat
  deriving DecidableEq, Inhabited

/-- What a setup asks for. -/
structure Setup where
  loggerName : String
  level : Value
  format : Value
  deriving Inhabited

/-- A handle returned by a setup: the logger it configured, its handler's level and
format, and what it restores when shut down. -/
structure Handle where
  logger : String
  level : Int
  format : LineFormat
  previousLevel : Int
  previousPropagate : Bool
  isShutdown : Bool
  deriving DecidableEq, Inhabited

/-- Every logger whose state differs from its start, every handle returned so far (a
handle's number is its position), and the active handle. -/
structure Registry where
  loggers : List (String × LoggerState)
  handles : List Handle
  active : Option Nat
  deriving Inhabited

def rootName : String := "root"

def canonical (name : String) : String := if name.isEmpty then rootName else name

def initialState (name : String) : LoggerState :=
  if name == rootName then ⟨30, true, []⟩ else ⟨0, true, []⟩

def Registry.empty : Registry := ⟨[], [], none⟩

namespace Registry

def state (reg : Registry) (name : String) : LoggerState :=
  match reg.loggers.find? (·.1 == name) with
  | some (_, s) => s
  | none => initialState name

def setState (reg : Registry) (name : String) (s : LoggerState) : Registry :=
  if reg.loggers.any (·.1 == name) then
    { reg with loggers := reg.loggers.map fun (n, old) => if n == name then (n, s) else (n, old) }
  else { reg with loggers := reg.loggers ++ [(name, s)] }

/-- Shuts down a handle; a handle already shut down, or one that does not exist, is left
as it is. -/
def shutdown (reg : Registry) (h : Nat) : Registry :=
  match reg.handles[h]? with
  | none => reg
  | some handle =>
    if handle.isShutdown then reg
    else
      let s := reg.state handle.logger
      let s := { s with handlers := s.handlers.filter (· != h), level := handle.previousLevel,
                        propagate := handle.previousPropagate }
      let reg := reg.setState handle.logger s
      { reg with handles := reg.handles.set h { handle with isShutdown := true } }

/-- Shuts down the given handle, or the active one when none is given; the active handle
is no longer active afterwards. -/
def shutdownHandle (reg : Registry) (h : Option Nat) : Registry :=
  match h.orElse fun _ => reg.active with
  | none => reg
  | some target =>
    let reg := if reg.active == some target then { reg with active := none } else reg
    reg.shutdown target

/-- Runs a setup: the active handle is shut down first, then the level and the format are
read, and the logger gets its new handler. Answers the new handle's number. -/
def setup (reg : Registry) (cfg : Setup) : Registry × Except Failure Nat :=
  let reg := reg.shutdownHandle none
  match Level.parse cfg.level, LineFormat.ofValue cfg.format with
  | .error f, _ => (reg, .error f)
  | .ok _, .error f => (reg, .error f)
  | .ok level, .ok format =>
    let name := canonical cfg.loggerName
    let before := reg.state name
    let h := reg.handles.length
    let handle : Handle :=
      { logger := name, level := Level.number level, format,
        previousLevel := before.level, previousPropagate := before.propagate,
        isShutdown := false }
    let reg := reg.setState name
      { level := Level.number level, propagate := false, handlers := before.handlers ++ [h] }
    ({ reg with handles := reg.handles ++ [handle], active := some h }, .ok h)

/-- The loggers an event passes on its way up: the logger itself, then every logger with
a changed state whose name is a dotted prefix of its name, nearest first, then the root. -/
def chain (reg : Registry) (name : String) : List String :=
  if name == rootName then [rootName]
  else
    let above := reg.loggers.filter fun (n, _) => n != rootName && (name.startsWith (n ++ "."))
    let above := (above.map (·.1)).mergeSort fun a b => decide (b.length ≤ a.length)
    name :: above ++ [rootName]

def effectiveLevel (reg : Registry) (name : String) : Int :=
  match (reg.chain name).find? fun n => (reg.state n).level != 0 with
  | some n => (reg.state n).level
  | none => 0

/-- The handlers an event reaches: those of each logger on the chain, up to the first
logger that does not pass events on. -/
def reached : Registry → List String → List Nat
  | _, [] => []
  | reg, n :: rest =>
    let s := reg.state n
    s.handlers ++ (if s.propagate then reached reg rest else [])

end Registry

/-- One call that logs an event through a named logger. -/
structure Event where
  logger : String
  level : Value
  msg : Value
  args : List Value
  extra : List (String × Value)
  created : Value
  deriving Inhabited

def overwrite (key : String) : Failure :=
  .unknownName ("Attempt to overwrite " ++ (Value.str key).literal ++ " in LogRecord")

/-- The creation time as the text line shows it: local calendar time to the millisecond,
with a comma before the milliseconds. -/
def asctime (created : Value) : String :=
  match Instant.ofValue created with
  | .ok t =>
    match t.iso with
    | .ok iso =>
      let cs := iso.toList
      String.ofList ((cs.take 10) ++ [' '] ++ (cs.drop 11).take 8 ++ [','] ++ (cs.drop 20).take 3)
    | .error _ => ""
  | .error _ => ""

def Handle.line (h : Handle) (r : Record) : Option String :=
  let line := match h.format with
    | .json => r.jsonLine
    | .text => r.textLine (asctime r.created)
  match line with
  | .ok s => some s
  | .error _ => none

/-- Logs an event: answers the text written by every handler that the event reaches. -/
def Registry.emit (reg : Registry) (e : Event) : Except Failure String := do
  let level ← match e.level with
    | .int n => pure n
    | .bool b => pure (if b then 1 else 0)
    | _ => throw (.wrongType "level must be an integer")
  let name := canonical e.logger
  if level ≤ 0 ∨ level < reg.effectiveLevel name then return ""
  match e.extra.find? fun (k, _) => k == "message" || k == "asctime" || standardAttributes.contains k with
  | some (k, _) => throw (overwrite k)
  | none => pure ()
  let record := (Record.make (.str name) e.level e.msg e.args e.created).setAll e.extra
  let handlers := reg.reached (reg.chain name)
  let lines := handlers.filterMap fun h =>
    match reg.handles[h]? with
    | some handle => if level ≥ handle.level then handle.line record else none
    | none => none
  pure (String.join (lines.map (· ++ "\n")))

def Registry.emitAll (reg : Registry) (events : List Event) : List (Except Failure Unit) × String :=
  events.foldl (fun (outcomes, written) e =>
    match reg.emit e with
    | .ok text => (outcomes ++ [.ok ()], written ++ text)
    | .error f => (outcomes ++ [.error f], written)) ([], "")

end RestConfig.Log
