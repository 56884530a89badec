/-!
# Exit statuses

A run of the command line ends with status 0 (success), 2 (a configuration error: the
configuration could not be loaded, failed validation, or gave an inconsistent consumer
view, or a file could not be found, was not a directory or could not be opened) or 3
(anything else, a malformed key declaration included).

A failure may hold another: the one it was raised *from* (its cause), or the one being
handled when it was raised (its context), which may be suppressed. Following causes
first and then unsuppressed contexts from the outermost failure gives its *chain*, which
stops before the first failure met twice. The status of a failure is decided by the
first member of its chain that is either a malformed declaration (status 3) or a
configuration error (status 2); with neither, it is 3.
-/

namespace RestConfig.Console

/-- The status a run ends with. -/
inductive ExitStatus where
  | success
  | configError
  | internalError
  deriving DecidableEq, Inhabited

def ExitStatus.code : ExitStatus → Nat
  | .success => 0
  | .configError => 2
  | .internalError => 3

/-- One failure of a graph of failures, which refer to each other by position. -/
structure Raised where
  kind : String
  cause : Option Nat
  context : Option Nat
  suppressContext : Bool
  deriving DecidableEq, Inhabited

/-- The failure that a failure leads to: its cause, or else its context unless that is
suppressed. -/
def Raised.next (r : Raised) : Option Nat :=
  match r.cause with
  | some c => some c
  | none => if r.suppressContext then none else r.context

/-- Follows a graph of failures from a position, stopping before a position already
seen, with `fuel` steps left. -/
def walk (graph : List Raised) : Nat → List Nat → Nat → List Nat
  | 0, _, _ => []
  | fuel + 1, seen, i =>
    if seen.contains i then []
    else match graph[i]? with
      | none => []
      | some r =>
        i :: match r.next with
          | some j => walk graph fuel (i :: seen) j
          | none => []

def chain (graph : List Raised) (start : Nat) : List Nat :=
  walk graph (graph.length + 1) [] start

def configKinds : List String :=
  ["ConfigLoadError", "ConfigValidationError", "ConsumerConfigError",
   "FileNotFoundError", "NotADirectoryError", "PermissionError"]

def definitionKind : String := "ConfigDefinitionError"

def statusOfKinds : List String → ExitStatus
  | [] => .internalError
  | k :: rest =>
    if k == definitionKind then .internalError
    else if configKinds.contains k then .configError
    else statusOfKinds rest

def route (graph : List Raised) (start : Nat) : ExitStatus :=
  statusOfKinds ((chain graph start).filterMap fun i => (graph[i]?).map (·.kind))

end RestConfig.Console
