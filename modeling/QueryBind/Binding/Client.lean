import QueryBind.Binding.Ground
import QueryBind.Statement.Template

/-! # Queries bound on the client

A bound query holds one query text with the parameters in it as literals, and the template
that they were put into. A call that fails changes nothing in it.
-/

namespace QueryBind

/-- A query with its parameters as literals. -/
structure ClientBinding where
  query : Bytes := []
  /-- The literals, or none if no parameters were given. -/
  params : Option (List Bytes) := none
  template : Option Bytes := none
  /-- The query that further parameters are bound to. -/
  parsed : Option ClientQuery := none
  deriving DecidableEq, Repr

namespace ClientBinding

/-- The literal of a value; the two null values are rendered without the transformer, and an item
that was never there is not rendered. -/
def literal? (transformer : Transformer) (value : Value) : Except Fault (Option Bytes) :=
  if value.isHole then .ok none else (Sql.renderLiteral transformer value).map some

/-- The literals of values, one after the other. -/
def literals (transformer : Transformer) : List Value → Except Fault (List (Option Bytes))
  | [] => .ok []
  | value :: rest => do
    let first ← literal? transformer value
    let others ← literals transformer rest
    return first :: others

/-- The literals that a parsed query takes from its parameters. -/
def renderParams (transformer : Transformer) (parsed : ClientQuery) (params : Value) :
    Except Fault (List (Option Bytes)) :=
  match Params.bind parsed.scan parsed.order params with
  | .ok values => literals transformer values
  | .error fault => .error fault

/-- The values are taken from the parameters first, and then they are rendered. -/
theorem renderParams_eq_bind (transformer : Transformer) (parsed : ClientQuery) (params : Value) :
    renderParams transformer parsed params =
      Params.bind parsed.scan parsed.order params >>= literals transformer := by
  unfold renderParams
  cases Params.bind parsed.scan parsed.order params <;> rfl

/-- A template with literals at its slots. A literal that is not there is missed only when the
pieces are put together, behind the count. -/
def fillTemplate (template : Bytes) (rendered : List (Option Bytes)) :
    Except Fault (List Bytes × Bytes) := do
  let expanded ← (Template.expand template (rendered.map (·.getD []))).mapError Fault.query
  match rendered.mapM id with
  | some literals => return (literals, expanded)
  | none => throw (Sql.nothingRendered "length")

/-- The literals of a parsed query and its template with them. -/
def expandParams (transformer : Transformer) (parsed : ClientQuery) (params : Value) :
    Except Fault (List Bytes × Bytes) := do
  let rendered ← renderParams transformer parsed params
  fillTemplate parsed.template rendered

/-- Converts a query with its parameters. Without parameters the query is taken as it is. -/
def convert (binding : ClientBinding) (ground : Ground) (encoding : String)
    (query params : Value) : Except Fault Unit × ClientBinding × Ground :=
  match Ground.queryBytes ground.dumper.transformer encoding query params with
  | .error fault => (.error fault, binding, ground)
  | .ok bytes =>
    if params.isNull then (.ok (), ⟨bytes, none, none, none⟩, ground)
    else
      match ground.converter.parseClient bytes encoding (Ground.countOf params) with
      | (.error fault, converter) => (.error fault, binding, { ground with converter })
      | (.ok found, converter) =>
        match expandParams ground.dumper.transformer found.query params with
        | .error fault => (.error fault, binding, { ground with converter })
        | .ok (rendered, expanded) =>
          (.ok (), ⟨expanded, some rendered, some found.query.template, some found.query⟩,
            { ground with converter })

/-- Binds other parameters to the query that was converted last. Without parameters only
the literals are dropped. -/
def dump (binding : ClientBinding) (ground : Ground) (params : Value) :
    Except Fault Unit × ClientBinding :=
  if params.isNull then (.ok (), { binding with params := none })
  else
    match binding.parsed with
    | none => (.error QueryError.notConverted, binding)
    | some parsed =>
      match expandParams ground.dumper.transformer parsed params with
      | .error fault => (.error fault, binding)
      | .ok (rendered, expanded) =>
        (.ok (), { binding with query := expanded, params := some rendered })

end ClientBinding

end QueryBind
