import QueryBind.Sql.Quoted
import QueryBind.Transform.Basic

/-! # Composable queries

Queries put together from SQL text, identifiers, literals and other composable values. Each
renders itself to bytes through the transformer of the query it is used in. SQL text is
rendered as it is, so its placeholders stay placeholders. A record's own rendering may yield
nothing at all, which shows only where its bytes are wanted: the parts of a composed query
are all rendered before they are put together. A part that was never there is not rendered, and is
missed when they are.
-/

namespace QueryBind.Sql

open Text (Wide)

/-- The bytes of the null literal. -/
def nullLiteral : Bytes := [0x4E, 0x55, 0x4C, 0x4C]

/-- An identifier, qualified if there is more than one name. -/
def identifier (names : List Wide) : Except QueryError Value :=
  if names = [] then .error (.conversion .noNames) else .ok (.identifier names)

/-- Items with SQL text in front of all but the one at the first place. Items that were never there
are passed over. -/
def join (separator : Wide) (items : List Value) : Value :=
  .composed (items.zipIdx.flatMap fun item =>
    if item.1.isHole then []
    else if item.2 = 0 then [item.1] else [.sql separator, item.1])

/-- The literal of a value; the two null values are rendered without the transformer. -/
def renderLiteral (transformer : Transformer) (value : Value) : Except Fault Bytes :=
  if value.isNull then .ok nullLiteral else transformer.literal value

/-- The failure to get at a property of bytes that are not there. -/
def nothingRendered (property : String) : Fault :=
  .wrongKind ("Cannot read properties of undefined (reading '" ++ property ++ "')") .undefined

/-- The failure to call something that is no function. -/
def noRendering : Fault :=
  .wrongKind "item.asBytes is not a function" .undefined

/-- What a rendering function yields. It is declared to return a buffer; what returns anything else
is not told apart from what returns nothing. -/
def renderOwn : Value → Except Fault (Option Bytes)
  | .function (.buffer bytes) => .ok (some bytes)
  | .function _ => .ok none
  | _ => .error noRendering

/-- Renderings one after the other. -/
def assemble (renderings : List (Option Bytes)) : Except Fault Bytes :=
  match renderings.mapM id with
  | some parts => .ok parts.flatten
  | none => .error (nothingRendered "length")

mutual

/-- What a composable value yields when it is rendered. A record that inherits its rendering from
another object renders as that one does. -/
def rendering (transformer : Transformer) : Value → Except Fault (Option Bytes)
  | .sql source =>
    ((Encoding.encodeWide transformer.textEncoding source).mapError .query).map some
  | .identifier names => do
    let quoted ← (quoteNames names).mapError Fault.query
    let bytes ← (Encoding.encodeWide transformer.textEncoding quoted).mapError Fault.query
    return some bytes
  | .literal value => (renderLiteral transformer value).map some
  | .composed items => do
    let parts ← renderings transformer items
    let bytes ← assemble parts
    return some bytes
  | .record fields | .bareRecord fields | .classInstance _ fields =>
    ((Fields.get? fields "asBytes").map renderOwn).getD (.error noRendering)
  | .derived parent fields =>
    match Fields.get? fields "asBytes" with
    | some own => renderOwn own
    | none => rendering transformer parent
  | .undefined | .hole => .error (nothingRendered "asBytes")
  | .null => .error (.wrongKind "Cannot read properties of null (reading 'asBytes')" .undefined)
  | _ => .error noRendering

/-- What composable values yield, one after the other. One that was never there is not rendered. -/
def renderings (transformer : Transformer) : List Value → Except Fault (List (Option Bytes))
  | [] => .ok []
  | item :: rest => do
    let first ← (if item.isHole then .ok none else rendering transformer item)
    let others ← renderings transformer rest
    return first :: others

end

/-- The bytes of a composable value, of which `property` is looked at. -/
def renderFor (property : String) (transformer : Transformer) (item : Value) :
    Except Fault Bytes :=
  match rendering transformer item with
  | .ok (some bytes) => .ok bytes
  | .ok none => .error (nothingRendered property)
  | .error fault => .error fault

/-- The bytes of a composable value. -/
def render (transformer : Transformer) (item : Value) : Except Fault Bytes :=
  renderFor "length" transformer item

end QueryBind.Sql
