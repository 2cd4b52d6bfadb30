import QueryBind.Placeholder.Scan
import QueryBind.Value.Display

/-! # Parameter sets

A list is a sequence of parameters; a map and a plain record are mappings from names to
parameters. Nothing else holds parameters: a text or an array of bytes is one value. A query
takes the values that its placeholders ask for, in the order of the slots or markers.
-/

namespace QueryBind

/-- The parameters of a query. A sequence may have items that were never there. -/
inductive Params where
  | sequence (values : List Value)
  | mapping (entries : List (Text.Wide × Value))

namespace Params

open Text (Wide)

/-- Adds an entry to a mapping; a name that is present keeps its place. -/
def put (entries : List (Wide × Value)) (name : Wide) (value : Value) : List (Wide × Value) :=
  if entries.any (·.1 == name) then
    entries.map fun entry => if entry.1 == name then (entry.1, value) else entry
  else entries ++ [(name, value)]

/-- The entries of a map under the texts of their keys, added to the given ones. -/
def putAll (entries : List (Wide × Value)) :
    List (Value × Value) → Except Fault (List (Wide × Value))
  | [] => .ok entries
  | (key, value) :: rest =>
    match key.display with
    | .ok name => putAll (put entries name value) rest
    | .error fault => .error fault

/-- The parameters that a value holds. -/
def ofValue (value : Value) : Except Fault Params :=
  match value with
  | .list items => .ok (.sequence items)
  | .selfList => .ok (.sequence [.selfList])
  | .map entries => (putAll [] entries).map .mapping
  | other =>
    match other.plainFields? with
    | some fields => .ok (.mapping (fields.map fun field => (.ofText field.1, field.2)))
    | none => .error (QueryError.paramsShape (.neither other.kind))

/-- The value of a name in a mapping. -/
def get? (entries : List (Wide × Value)) (name : String) : Option Value :=
  entries.lookup (.ofText name)

/-- The names without an entry, each once. -/
def absent (entries : List (Wide × Value)) (names : List String) : List String :=
  (names.filter fun name => (get? entries name).isNone).eraseDups

/-- The values of names in a mapping, if all of them have one. -/
def select? (entries : List (Wide × Value)) (names : List String) : Option (List Value) :=
  names.mapM (get? entries)

/-- The values that a scanned query takes from its parameters; `order` lists the names to
look up. -/
def valuesFor (scan : Scan) (order : Option (List String)) :
    Params → Except QueryError (List Value)
  | .sequence values =>
    if values.length ≠ scan.count then .error (.paramCount scan.count values.length)
    else if values ≠ [] ∧ scan.isNamed then .error (.paramsShape .needsMapping)
    else .ok values
  | .mapping entries =>
    if scan.isPositional then .error (.paramsShape .needsSequence)
    else
      let names := order.getD []
      match select? entries names with
      | some values => .ok values
      | none => .error (.missing (absent entries names))

/-- The values that a scanned query takes from a value holding its parameters. -/
def bind (scan : Scan) (order : Option (List String)) (params : Value) :
    Except Fault (List Value) :=
  match ofValue params with
  | .ok held => (valuesFor scan order held).mapError .query
  | .error fault => .error fault

end Params

end QueryBind
