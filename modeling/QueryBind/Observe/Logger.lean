import QueryBind.Observe.Console

/-! # Loggers

A logger writes to a journal, to a console, or nowhere. A child adds context to what its
parent adds; children of a journal's logger write to the same journal.
-/

namespace QueryBind

/-- Where log entries go. -/
inductive Logger where
  | journal (context : Fields)
  | console (console : Console)
  | silent

namespace Logger

/-- Logs a message at the given time. There is a line if the logger is a console and the entry
is heavy enough. -/
def write (logger : Logger) (journal : Journal) (time : String) (level : Level)
    (message : String) (context : Fields) : Except Fault (Option (Stream × String)) × Journal :=
  match logger with
  | .journal standing => (.ok none, journal.write standing level message context)
  | .console inner => (inner.line time level message context, journal)
  | .silent => (.ok none, journal)

/-- The logger with more context; a silent logger is its own child. -/
def child? (logger : Logger) (context : Fields) : Option Logger :=
  match logger with
  | .journal standing => some (.journal (Fields.merge standing context))
  | .console inner => some (.console (inner.child context))
  | .silent => none

end Logger

/-- The level of a method name. -/
def Level.ofMethod? : String → Option Level
  | "trace" => some .trace
  | "debug" => some .debug
  | "info" => some .info
  | "warn" => some .warn
  | "error" => some .error
  | _ => none

end QueryBind
