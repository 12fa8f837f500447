import BufferCoherence.Journal.Calendar
import BufferCoherence.Journal.Severity

/-!
# Entries on the console

The line that the console shows for an entry: the moment, the severity and the source in brackets,
then the message, then the place in the program where it is known. The severity and the source are
coloured.
-/

namespace BufferCoherence.Console

/-- The mark that starts a colour. -/
def opening (codes : String) : String := "\x1b[" ++ codes ++ "m"

/-- The mark that ends every colour. -/
def reset : String := opening "0"

/-- A text in a colour. A text that ends colours itself goes on in the colour after each end. -/
def coloured (codes text : String) : String :=
  opening codes ++ text.replace reset (reset ++ opening codes) ++ reset

/-- The colour of a severity; an error is bold. -/
def severityCodes : Severity → String
  | .trace => "90"
  | .debug => "36"
  | .info => "32"
  | .warn => "33"
  | .error => "1;31"

/-- The colour of a source. -/
def sourceCodes : String := "94"

/-- A text in brackets. -/
def bracketed (text : String) : String := "[" ++ text ++ "]"

/-- The line for an entry, with its line end. The place is a file and a line number. -/
def line (severity : Severity) (source message : String) (ms : Int)
    (place : Option (String × Nat)) : String :=
  let head := " ".intercalate
    [bracketed (Calendar.momentText ms),
     bracketed (coloured (severityCodes severity) severity.label),
     bracketed (coloured sourceCodes source), message]
  let tail := match place with
    | some (file, number) => " (" ++ file ++ ":" ++ toString number ++ ")"
    | none => ""
  head ++ tail ++ "\n"

end BufferCoherence.Console
