import QueryBind.Binding.Ground

/-! # Queries bound on the server

A bound query holds the query with markers and the parameters that were dumped for it. It
can be converted anew, or bound again to other parameters without being parsed. A call that
fails changes nothing in it.
-/

namespace QueryBind

/-- A query with its parameters, ready to be sent. -/
structure ServerBinding where
  query : Bytes := []
  /-- Dumped parameters, or none if none were given. -/
  params : Option (List (Option Bytes)) := none
  types : List Nat := []
  formats : Option (List WireFormat) := none
  /-- The query that further parameters are bound to. -/
  parsed : Option ServerQuery := none
  deriving DecidableEq, Repr

namespace ServerBinding

/-- The binding without parameters. -/
def clear (binding : ServerBinding) : ServerBinding :=
  { binding with params := none, types := [], formats := none }

/-- The binding with dumped parameters. -/
def hold (binding : ServerBinding) (dumped : Dump) : ServerBinding :=
  { binding with
    params := some dumped.outputs
    types := (dumped.description.map (·.types)).getD []
    formats := dumped.description.map (·.formats) }

/-- Dumps the values that a parsed query takes from its parameters. -/
def dumpParams (dumper : Dumper) (parsed : ServerQuery) (params : Value) :
    Except Fault Dump × Dumper :=
  match Params.bind parsed.scan parsed.order params with
  | .ok values => dumper.dump values parsed.formats
  | .error fault => (.error fault, dumper)

/-- Converts a query with its parameters. Without parameters the query is taken as it is. -/
def convert (binding : ServerBinding) (ground : Ground) (encoding : String)
    (query params : Value) : Except Fault Unit × ServerBinding × Ground :=
  match Ground.queryBytes ground.dumper.transformer encoding query params with
  | .error fault => (.error fault, binding, ground)
  | .ok bytes =>
    if params.isNull then (.ok (), clear { binding with query := bytes, parsed := none }, ground)
    else
      match ground.converter.parseServer bytes encoding (Ground.countOf params) with
      | (.error fault, converter) => (.error fault, binding, { ground with converter })
      | (.ok found, converter) =>
        match dumpParams ground.dumper found.query params with
        | (.error fault, dumper) => (.error fault, binding, ⟨converter, dumper⟩)
        | (.ok dumped, dumper) =>
          (.ok (), hold { binding with query := found.query.query, parsed := some found.query }
            dumped, ⟨converter, dumper⟩)

/-- Binds other parameters to the query that was converted last. -/
def dump (binding : ServerBinding) (ground : Ground) (params : Value) :
    Except Fault Unit × ServerBinding × Ground :=
  if params.isNull then (.ok (), binding.clear, ground)
  else
    match binding.parsed with
    | none => (.error QueryError.notConverted, binding, ground)
    | some parsed =>
      match dumpParams ground.dumper parsed params with
      | (.error fault, dumper) => (.error fault, binding, { ground with dumper })
      | (.ok dumped, dumper) => (.ok (), binding.hold dumped, { ground with dumper })

end ServerBinding

end QueryBind
