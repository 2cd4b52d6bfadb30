import QueryBind.Observe.Journal
import QueryBind.Value.Json
import QueryBind.Value.Record
import QueryBind.Text.LowerCase

/-! # Console lines

A console logger writes one serialized line per entry. Values under sensitive names are
replaced before anything is written, at every depth of records; lists are written as they
are. The records that are written are filled by assignments, so a field named like the
heritage becomes what the others inherit from.
-/

namespace QueryBind

namespace Redaction

/-- What stands for a value that must not be shown. -/
def mark : Value := .text "[REDACTED]"

/-- Names whose values are not shown unless other names are given. -/
def standardNames : List String :=
  ["password", "secret", "token", "params"]

/-- Whether the value under a name is hidden; the hidden names are in lower case. -/
def hides (hidden : List String) (name : String) : Bool :=
  hidden.contains (Text.lowerCase name)

/-- A record that contains itself never comes to an end. -/
def endless : Fault :=
  .range "Maximum call stack size exceeded"

/-- The fields of an object whose values hold no records. -/
def redactFlat (hidden : List String) (fields : Fields) : Fields :=
  fields.map fun field => (field.1, if hides hidden field.1 then mark else field.2)

mutual

/-- A value without what is hidden in it. Objects become plain records, except lists and
buffers. -/
def redact (hidden : List String) : Value → Except Fault Value
  | .record fields | .bareRecord fields | .classInstance _ fields | .derived _ fields =>
    (redactInto hidden {} fields).map Record.toValue
  | .literal value =>
    if hides hidden "value" then .ok (.record [("value", mark)])
    else (redact hidden value).map fun shown => .record [("value", shown)]
  | .selfRecord =>
    if hides hidden "self" then .ok (.record [("self", mark)]) else .error endless
  | .undefined => .ok .undefined
  | .hole => .ok .hole
  | .null => .ok .null
  | .bool b => .ok (.bool b)
  | .number n => .ok (.number n)
  | .bigint n => .ok (.bigint n)
  | .text s => .ok (.text s)
  | .brokenText units => .ok (.brokenText units)
  | .symbol description => .ok (.symbol description)
  | .function result => .ok (.function result)
  | .list items => .ok (.list items)
  | .selfList => .ok .selfList
  | .buffer bytes => .ok (.buffer bytes)
  | other => .ok (.record (redactFlat hidden other.ownFields))

/-- Assigns fields, without what is hidden in them, one after the other. -/
def redactInto (hidden : List String) (record : Record) :
    List (String × Value) → Except Fault Record
  | [] => .ok record
  | (name, value) :: rest => do
    let shown ← if hides hidden name then .ok mark else redact hidden value
    let assigned ← record.assign name shown
    redactInto hidden assigned rest

end

end Redaction

/-- Where a line is written. -/
inductive Stream where
  | log
  | warn
  | error
  deriving DecidableEq, Repr

namespace Stream

/-- The stream of a level. -/
def ofLevel : Level → Stream
  | .error => .error
  | .warn => .warn
  | _ => .log

/-- The name of a stream. -/
def name : Stream → String
  | .log => "log"
  | .warn => "warn"
  | .error => "error"

end Stream

/-- A logger that writes lines. -/
structure Console where
  /-- The rank from which entries are written. -/
  threshold : Int := 2
  context : Fields := []
  /-- Names of hidden values, in lower case. -/
  hidden : List String := Redaction.standardNames

namespace Console

/-- A console; names that are given replace the standard hidden names. -/
def make (threshold : Option Int) (context : Fields) (hidden : Option (List String)) :
    Console where
  threshold := threshold.getD 2
  context := context
  hidden := (hidden.getD Redaction.standardNames).map Text.lowerCase

/-- A console with more context. -/
def child (console : Console) (context : Fields) : Console :=
  { console with context := Fields.merge console.context context }

/-- The serialized context of an entry, if it has one. -/
def contextText (console : Console) (context : Fields) : Except Fault (Option String) := do
  if context = [] then return none
  else
    let shown ← Redaction.redactInto console.hidden {} context
    match Value.Json.text? shown.toValue with
    | .ok text => return text
    | .error failure => throw (.wrongKind failure.message .undefined)

/-- The line of an entry at the given time; a light entry has none. -/
def line (console : Console) (time : String) (level : Level) (message : String)
    (context : Fields) : Except Fault (Option (Stream × String)) := do
  if (level.rank : Int) < console.threshold then return none
  else
    let context ← console.contextText (Fields.merge console.context context)
    let fields := [("timestamp", Value.Json.quoted time),
      ("level", Value.Json.quoted level.name), ("message", Value.Json.quoted message)] ++
      context.toList.map fun text => ("context", text)
    return some (Stream.ofLevel level, Value.Json.braces fields)

end Console

end QueryBind
