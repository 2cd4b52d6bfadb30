import QueryBind.Proofs.Binding.Effect

/-! # The last step of a call

A call on a bound query ends in a step of its own: values are dumped in the formats that their
markers ask for, or literals are put into a template (`Handed`). What a call comes to is what comes
to its last step, put through it (`Family.Call.fst_run`). So what can be said of a call splits into
what it hands over and what the last step makes of that.
-/

namespace QueryBind

/-- What a call hands to its last step: values with the formats that they are dumped in, or a
template with its literals, of which some may never have been there. A call without parameters hands
over nothing. -/
inductive Handed where
  | nothing
  | dump (values : List Value) (formats : List Format)
  | fill (template : Bytes) (literals : List (Option Bytes))

/-- What the last step comes to. -/
def Handed.accept (transformer : Transformer) : Handed → Except Fault Unit
  | nothing => .ok ()
  | dump values formats => (transformer.dump values formats).map fun _ => ()
  | fill template literals => (ClientBinding.fillTemplate template literals).map fun _ => ()

/-- What a parsed query and its parameters hand over. -/
def Statement.handed (transformer : Transformer) (params : Value) :
    Statement → Except Fault Handed
  | .server parsed =>
    (Params.bind parsed.scan parsed.order params).map fun values => .dump values parsed.formats
  | .client parsed =>
    (ClientBinding.renderParams transformer parsed params).map (.fill parsed.template)

/-- The parsed query that a converter answers with, from its cache or not. -/
def Converter.statement (converter : Converter) (query : Bytes) (encoding : String)
    (count : Value) : Variant → Except Fault Statement
  | .server => (converter.parseServer query encoding count).1.map fun found => .server found.query
  | .client => (converter.parseClient query encoding count).1.map fun found => .client found.query

namespace Family.Call

/-- The parsed query that a call reaches, unless it has no parameters. -/
def reached (ground : Ground) (encoding : String) (binding : Binding) :
    Call → Except Fault (Option Statement)
  | .convert query params => do
    let bytes ← Ground.queryBytes ground.dumper.transformer encoding query params
    if params.isNull then return none
    else
      let parsed ← ground.converter.statement bytes encoding (Ground.countOf params) binding.variant
      return some parsed
  | .dump params =>
    if params.isNull then .ok none
    else
      match binding.statement? with
      | none => .error QueryError.notConverted
      | some parsed => .ok (some parsed)

/-- What a call hands over. -/
def handed (ground : Ground) (encoding : String) (binding : Binding) (call : Call) :
    Except Fault Handed := do
  match ← call.reached ground encoding binding with
  | none => return .nothing
  | some parsed => parsed.handed ground.dumper.transformer call.params

end Family.Call

/-! ## The last step -/

section LastStep

variable {ground : Ground} {encoding : String} {query params : Value}

namespace ServerBinding

/-- Dumping parameters comes to what is handed over and accepted. -/
theorem fst_dumpParams (dumper : Dumper) (parsed : ServerQuery) (params : Value) :
    (dumpParams dumper parsed params).1.map (fun _ => ()) =
      ((Statement.server parsed).handed dumper.transformer params >>=
        Handed.accept dumper.transformer) := by
  unfold dumpParams
  simp only [Statement.handed]
  cases Params.bind parsed.scan parsed.order params with
  | error fault => rfl
  | ok values =>
      change _ = (dumper.transformer.dump values parsed.formats).map fun _ => ()
      dsimp only [Dumper.dump]
      cases dumper.transformer.dump values parsed.formats <;> rfl

/-- A conversion on the server is parsing and dumping. -/
theorem fst_convert (binding : ServerBinding) {bytes : Bytes}
    (given : Ground.queryBytes ground.dumper.transformer encoding query params = .ok bytes)
    (present : params.isNull = false) :
    (binding.convert ground encoding query params).1 =
      ((ground.converter.parseServer bytes encoding (Ground.countOf params)).1 >>= fun found =>
        (dumpParams ground.dumper found.query params).1.map fun _ => ()) := by
  simp only [convert, given, present, Bool.false_eq_true, if_false]
  cases ground.converter.parseServer bytes encoding (Ground.countOf params) with
  | mk outcome left =>
      cases outcome with
      | error fault => rfl
      | ok found =>
          cases dumps : dumpParams ground.dumper found.query params with
          | mk dumped after => cases dumped <;> simp [dumps, bind, Except.bind, Except.map]

/-- A dump on the server dumps for the statement that is kept. -/
theorem fst_dump (binding : ServerBinding) {parsed : ServerQuery}
    (stored : binding.parsed = some parsed) (present : params.isNull = false) :
    (binding.dump ground params).1 =
      (dumpParams ground.dumper parsed params).1.map fun _ => () := by
  simp only [dump, stored, present, Bool.false_eq_true, if_false]
  cases dumpParams ground.dumper parsed params with
  | mk dumped after => cases dumped <;> rfl

end ServerBinding

namespace ClientBinding

private theorem map_expandParams (transformer : Transformer) (parsed : ClientQuery)
    (params : Value) :
    (expandParams transformer parsed params).map (fun _ => ()) =
      ((Statement.client parsed).handed transformer params >>= Handed.accept transformer) := by
  unfold expandParams
  simp only [Statement.handed]
  cases renderParams transformer parsed params <;> rfl

/-- A conversion on the client is parsing and expanding. -/
theorem fst_convert (binding : ClientBinding) {bytes : Bytes}
    (given : Ground.queryBytes ground.dumper.transformer encoding query params = .ok bytes)
    (present : params.isNull = false) :
    (binding.convert ground encoding query params).1 =
      ((ground.converter.parseClient bytes encoding (Ground.countOf params)).1 >>= fun found =>
        (expandParams ground.dumper.transformer found.query params).map fun _ => ()) := by
  simp only [convert, given, present, Bool.false_eq_true, if_false]
  cases ground.converter.parseClient bytes encoding (Ground.countOf params) with
  | mk outcome left =>
      cases outcome with
      | error fault => rfl
      | ok found =>
          cases expands : expandParams ground.dumper.transformer found.query params <;>
            simp [expands, bind, Except.bind, Except.map]

/-- A dump on the client expands the template that is kept. -/
theorem fst_dump (binding : ClientBinding) {parsed : ClientQuery}
    (stored : binding.parsed = some parsed) (present : params.isNull = false) :
    (binding.dump ground params).1 =
      (expandParams ground.dumper.transformer parsed params).map fun _ => () := by
  simp only [dump, stored, present, Bool.false_eq_true, if_false]
  cases expandParams ground.dumper.transformer parsed params <;> rfl

end ClientBinding

namespace Binding

/-- A parsed query that is found is bound, and comes to what the last step comes to. -/
theorem fst_convert (binding : Binding) {bytes : Bytes}
    (given : Ground.queryBytes ground.dumper.transformer encoding query params = .ok bytes)
    (present : params.isNull = false) :
    (binding.convert ground encoding query params).1 =
      (ground.converter.statement bytes encoding (Ground.countOf params) binding.variant >>=
        fun parsed => parsed.handed ground.dumper.transformer params >>=
          Handed.accept ground.dumper.transformer) := by
  cases binding with
  | server held =>
      refine (held.fst_convert given present).trans ?_
      simp only [ServerBinding.fst_dumpParams, Converter.statement, variant]
      cases (ground.converter.parseServer bytes encoding (Ground.countOf params)).1 <;> rfl
  | client held =>
      refine (held.fst_convert given present).trans ?_
      simp only [ClientBinding.map_expandParams, Converter.statement, variant]
      cases (ground.converter.parseClient bytes encoding (Ground.countOf params)).1 <;> rfl

/-- A dump comes to what is handed over and accepted. -/
theorem fst_dump (binding : Binding) {parsed : Statement}
    (stored : binding.statement? = some parsed) (present : params.isNull = false) :
    (binding.dump ground params).1 =
      (parsed.handed ground.dumper.transformer params >>=
        Handed.accept ground.dumper.transformer) := by
  cases binding with
  | server held =>
      obtain ⟨query, kept, rfl⟩ := Option.map_eq_some_iff.mp stored
      exact (held.fst_dump kept present).trans (ServerBinding.fst_dumpParams _ _ _)
  | client held =>
      obtain ⟨query, kept, rfl⟩ := Option.map_eq_some_iff.mp stored
      exact (held.fst_dump kept present).trans (ClientBinding.map_expandParams _ _ _)

end Binding

end LastStep

/-- A call fails on its way to the last step, or comes to what that step comes to. -/
theorem Family.Call.fst_run (ground : Ground) (encoding : String) (binding : Binding)
    (call : Call) :
    (call.run binding ground encoding).1 =
      (call.handed ground encoding binding >>= Handed.accept ground.dumper.transformer) := by
  cases call with
  | convert query params =>
      simp only [run, handed, reached]
      cases given : Ground.queryBytes ground.dumper.transformer encoding query params with
      | error fault =>
          cases binding <;>
            simp only [Binding.convert, ServerBinding.convert, ClientBinding.convert, given] <;> rfl
      | ok bytes =>
          cases absent : params.isNull with
          | true =>
              cases binding <;>
                simp only [Binding.convert, ServerBinding.convert, ClientBinding.convert, given,
                  absent] <;> rfl
          | false =>
              rw [Binding.fst_convert binding given absent]
              simp only [bind, Except.bind, Bool.false_eq_true, if_false]
              cases ground.converter.statement bytes encoding (Ground.countOf params)
                binding.variant <;> rfl
  | dump params =>
      simp only [run, handed, reached]
      cases absent : params.isNull with
      | true =>
          cases binding <;>
            simp only [Binding.dump, ServerBinding.dump, ClientBinding.dump, absent] <;> rfl
      | false =>
          cases stored : binding.statement? with
          | none =>
              cases binding with
              | server held =>
                  have unparsed := Option.map_eq_none_iff.mp stored
                  simp only [Binding.dump, ServerBinding.dump, absent, unparsed]
                  rfl
              | client held =>
                  have unparsed := Option.map_eq_none_iff.mp stored
                  simp only [Binding.dump, ClientBinding.dump, absent, unparsed]
                  rfl
          | some parsed => exact Binding.fst_dump binding stored absent

end QueryBind
