/-!
# Severities

The five severities of a journal entry, in rising order, with the names they are given and the
labels of equal width that the console shows.
-/

namespace BufferCoherence

/-- How much a journal entry matters. -/
inductive Severity where
  | trace
  | debug
  | info
  | warn
  | error
deriving DecidableEq

namespace Severity

/-- Every severity, the least first. -/
def all : List Severity := [.trace, .debug, .info, .warn, .error]

/-- The place of a severity in the rising order. -/
def rank (s : Severity) : Nat := all.idxOf s

instance : LT Severity := ⟨fun a b => a.rank < b.rank⟩
instance (a b : Severity) : Decidable (a < b) := inferInstanceAs (Decidable (a.rank < b.rank))

/-- The name of a severity. -/
def name : Severity → String
  | .trace => "Trace"
  | .debug => "Debug"
  | .info => "Info"
  | .warn => "Warn"
  | .error => "Error"

/-- The label on the console; all labels take five columns. -/
def label : Severity → String
  | .trace => "TRACE"
  | .debug => "DEBUG"
  | .info => "INFO "
  | .warn => "WARN "
  | .error => "ERROR"

/-- The severity with a given name. -/
def ofName? (s : String) : Option Severity := all.find? fun v => v.name == s

end Severity

end BufferCoherence
