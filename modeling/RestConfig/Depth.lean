import RestConfig.Failure

/-!
# Nesting room

Reading and flattening a document nest calls inside calls, and only so many may be open
at once: `callLimit` in all. The *room* of a step is how many more may still be opened
inside it, so a step called from another has one less room than its caller.

Entering a call, testing a type against several, comparing two values, calling a value,
or writing a value's representation or text each take one unit of room while they last. A step
that runs out of room is refused with the message `maximum recursion depth exceeded`,
followed by what took the unit that was missing: nothing more for a plain call, and
otherwise the comparison, the type test, the call of the value, the representation or the
text.

The units counted are those whose number depends on what is read or written: the nesting of
a document, or of a value that is cited or written as text. The few fixed calls an operation
makes on its way there are taken to have their room, so an operation is given the room of
the step where that counting starts.
-/

namespace RestConfig

def callLimit : Nat := 1000

/-- What takes a unit of room. -/
inductive Site where
  | call
  | comparison
  | typeTest
  | valueCall
  | representation
  | display
  deriving DecidableEq, Inhabited

def Site.message : Site → String
  | .call => "maximum recursion depth exceeded"
  | .comparison => "maximum recursion depth exceeded in comparison"
  | .typeTest => "maximum recursion depth exceeded in __instancecheck__"
  | .valueCall => "maximum recursion depth exceeded while calling a Python object"
  | .representation => "maximum recursion depth exceeded while getting the repr of an object"
  | .display => "maximum recursion depth exceeded while getting the str of an object"

def Site.failure (s : Site) : Failure := .tooDeep s.message

end RestConfig
