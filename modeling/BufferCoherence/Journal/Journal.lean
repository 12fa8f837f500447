import BufferCoherence.Journal.Notice

/-!
# The journal

A journal keeps the notices that matter enough. This file fixes

* what is kept of a notice (`Entry`) and which notices are kept (`Journal.record`: those at or
  above the threshold; `Journal.add` keeps an entry whatever its severity);
* the kinds of step the library is written in: `Logged` is a computation that may give notices,
  `Step σ` one that also changes a state `σ`, and `Attempt σ` one that may fail. A failing
  attempt keeps the state it has reached, so that what it changed before failing stays visible.
-/

namespace BufferCoherence

/-! ## 1. Entries -/

/-- What a journal keeps of a notice. -/
structure Entry where
  severity : Severity
  source : String
  message : String
  /-- The place in the program is known. -/
  located : Bool
deriving DecidableEq

/-- The entry for a notice. -/
def Notice.toEntry (n : Notice) : Entry := ⟨n.severity, n.source.name, n.text, n.located⟩

/-- The entries kept so far, oldest first, and the least severity that is kept. -/
structure Journal where
  threshold : Severity
  entries : Array Entry
deriving DecidableEq

namespace Journal

/-- An empty journal. -/
def empty (threshold : Severity) : Journal := ⟨threshold, #[]⟩

/-- The journal with an entry added, whatever its severity. -/
def add (j : Journal) (e : Entry) : Journal := { j with entries := j.entries.push e }

/-- The journal after a notice. -/
def record (j : Journal) (n : Notice) : Journal :=
  if n.severity < j.threshold then j else j.add n.toEntry

/-- The journal without its entries. -/
def clear (j : Journal) : Journal := { j with entries := #[] }

/-- How many entries of a severity mention a text. -/
def count (j : Journal) (severity : Severity) (sought : String) : Nat :=
  j.entries.countP fun e => e.severity = severity && e.message.contains sought

/-- Some entry of a severity mentions a text. -/
def contains (j : Journal) (severity : Severity) (sought : String) : Bool :=
  j.count severity sought > 0

end Journal

/-! ## 2. Steps and attempts -/

/-- A computation that may give notices. -/
abbrev Logged := StateM Journal

/-- A computation that changes a state. -/
abbrev Step (σ : Type) := StateT σ Logged

/-- A computation that changes a state and may fail. -/
abbrev Attempt (σ : Type) := ExceptT Failure (Step σ)

/-- Gives a notice. -/
def note (n : Notice) : Logged Unit := modify (·.record n)

/-- Gives several notices, the first one first. -/
def noteAll (ns : List Notice) : Logged Unit := ns.forM note

/-- Fails, and says so. -/
def refuse {σ α : Type} (source : Source) (f : Failure) : Attempt σ α := do
  note (.failed source f)
  throw f

/-- A step taken as an attempt; it does not fail. -/
def always {σ α : Type} (s : Step σ α) : Attempt σ α := ExceptT.lift s

/-- An outcome taken as an attempt. -/
def answer {σ α : Type} (outcome : Except Failure α) : Attempt σ α := ExceptT.mk (pure outcome)

/-- The outcome of an attempt, as a value. -/
def Attempt.outcome {σ α : Type} (a : Attempt σ α) : Step σ (Except Failure α) := a.run

/-- A step on a part of the state. -/
def Step.onPart {σ τ α : Type} (get : σ → τ) (put : τ → σ → σ) (s : Step τ α) : Step σ α :=
  fun state => do
    let (a, part) ← s (get state)
    pure (a, put part state)

/-- An attempt on a part of the state. -/
def Attempt.onPart {σ τ α : Type} (get : σ → τ) (put : τ → σ → σ) (a : Attempt τ α) :
    Attempt σ α :=
  ExceptT.mk (Step.onPart get put a.run)

end BufferCoherence
