import QueryBind.Binding.Client
import QueryBind.Binding.Server

/-! # Families of bound queries

Bound queries that share one converter, and may share transformers. The members of a family
and its transformers are numbered as they are added. A step works on one member; what it
leaves of the converter and of the member's transformer is what the next step finds.
-/

namespace QueryBind

/-- A bound query of either variant. -/
inductive Binding where
  | server (binding : ServerBinding)
  | client (binding : ClientBinding)

/-- A bound query in a family. -/
structure Member where
  binding : Binding
  /-- The encoding that was settled on when the member was made. -/
  encoding : String
  /-- The number of its transformer. -/
  dumper : Nat

/-- Bound queries over one converter. -/
structure Family where
  converter : Converter
  dumpers : List Dumper := []
  members : List Member := []

namespace Binding

/-- A binding before its first call. -/
def fresh : Variant → Binding
  | .server => .server {}
  | .client => .client {}

/-- Types of the parameters; a query that holds literals sends none. -/
def types : Binding → List Nat
  | .server held => held.types
  | .client _ => []

/-- Wire formats of the parameters, if they were dumped. -/
def formats : Binding → Option (List WireFormat)
  | .server held => held.formats
  | .client _ => none

/-- Converts a query with its parameters. -/
def convert (binding : Binding) (ground : Ground) (encoding : String) (query params : Value) :
    Except Fault Unit × Binding × Ground :=
  match binding with
  | .server inner =>
    let (outcome, next, left) := inner.convert ground encoding query params
    (outcome, .server next, left)
  | .client inner =>
    let (outcome, next, left) := inner.convert ground encoding query params
    (outcome, .client next, left)

/-- Binds other parameters to the query that was converted last. -/
def dump (binding : Binding) (ground : Ground) (params : Value) :
    Except Fault Unit × Binding × Ground :=
  match binding with
  | .server inner =>
    let (outcome, next, left) := inner.dump ground params
    (outcome, .server next, left)
  | .client inner =>
    let (outcome, next) := inner.dump ground params
    (outcome, .client next, ground)

end Binding

namespace Family

/-- Adds a transformer. -/
def addTransformer (family : Family) (transformer : Transformer) : Nat × Family :=
  (family.dumpers.length, { family with dumpers := family.dumpers ++ [{ transformer }] })

/-- Makes a bound query over the transformer with this number. -/
def add (family : Family) (variant : Variant) (dumper : Nat) : Except Fault Nat × Family :=
  match family.dumpers[dumper]? with
  | none => (.error (.range "no such transformer"), family)
  | some held =>
    match Ground.checkedEncoding ⟨family.converter, held⟩ with
    | .error fault => (.error fault, family)
    | .ok encoding =>
      (.ok family.members.length,
        { family with members := family.members ++ [⟨.fresh variant, encoding, dumper⟩] })

/-- What a member can be asked to do. -/
inductive Call where
  | convert (query params : Value)
  | dump (params : Value)

/-- Runs a call on a bound query. -/
def Call.run (binding : Binding) (ground : Ground) (encoding : String) :
    Call → Except Fault Unit × Binding × Ground
  | .convert query params => binding.convert ground encoding query params
  | .dump params => binding.dump ground params

/-- Runs a call on the member with this number. There is no outcome if there is no such
member. -/
def step (family : Family) (index : Nat) (call : Call) :
    Option (Except Fault Unit) × Family :=
  match family.members[index]? with
  | none => (none, family)
  | some member =>
    match family.dumpers[member.dumper]? with
    | none => (none, family)
    | some dumper =>
      let ground : Ground := ⟨family.converter, dumper⟩
      let (outcome, next, left) := call.run member.binding ground member.encoding
      (some outcome,
        { converter := left.converter
          dumpers := family.dumpers.set member.dumper left.dumper
          members := family.members.set index { member with binding := next } })

end Family

end QueryBind
