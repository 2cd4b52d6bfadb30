import QueryBind.Value.Fields

/-! # Journals

A journal is the list of what was logged, oldest entry first. Loggers with contexts of their
own may write to one journal: the context of an entry is the logger's context with the fields
of the message on top.
-/

namespace QueryBind

/-- The weight of a log entry. -/
inductive Level where
  | trace
  | debug
  | info
  | warn
  | error
  deriving DecidableEq, Repr

namespace Level

/-- The rank of a level, the lightest being zero. -/
def rank : Level → Nat
  | .trace => 0
  | .debug => 1
  | .info => 2
  | .warn => 3
  | .error => 4

/-- The name of a level in a written line. -/
def name : Level → String
  | .trace => "TRACE"
  | .debug => "DEBUG"
  | .info => "INFO"
  | .warn => "WARN"
  | .error => "ERROR"

end Level

/-- Something that was logged. -/
structure LogEntry where
  level : Level
  message : String
  context : Fields
  deriving Repr

/-- Log entries, oldest first. -/
abbrev Journal := List LogEntry

namespace Journal

/-- The journal with one more entry, written with the given standing context. -/
def write (journal : Journal) (standing : Fields) (level : Level) (message : String)
    (context : Fields) : Journal :=
  journal ++ [⟨level, message, Fields.merge standing context⟩]

/-- The entries whose level has the given rank. -/
def atRank (journal : Journal) (rank : Int) : Journal :=
  journal.filter fun entry => (entry.level.rank : Int) == rank

end Journal

end QueryBind
