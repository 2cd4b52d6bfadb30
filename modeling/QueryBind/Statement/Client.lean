import QueryBind.Placeholder.Scan

/-! # Queries for binding on the client

A template has one slot, `%s`, for every placeholder of the query, and keeps two marks as
they are, so that its expansion can make one of them. Named placeholders are listed with
their repetitions, one name for every slot.
-/

namespace QueryBind

/-- The bytes of a template's slot. -/
def slotBytes : Bytes := [markByte, Format.auto.byte]

/-- A query for binding on the client. -/
structure ClientQuery where
  template : Bytes
  /-- The name of every slot, for a query with named placeholders. -/
  order : Option (List String)
  scan : Scan
  deriving DecidableEq, Repr

namespace ClientQuery

/-- The template of a scanned query. -/
def ofScan (scan : Scan) : ClientQuery where
  template := scan.weave (scan.slots.map fun _ => slotBytes)
  order := if scan.isNamed then some (scan.slots.map (·.key.text)) else none
  scan := scan

/-- The template of a query. -/
def ofBytes (encoding : String) (query : Bytes) : Except QueryError ClientQuery :=
  (Scan.ofBytes encoding false query).map ofScan

end ClientQuery

end QueryBind
