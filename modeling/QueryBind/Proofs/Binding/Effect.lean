import QueryBind.Binding.Family
import QueryBind.Proofs.Converter.Transparency
import QueryBind.Proofs.Outcome

/-! # What a call comes to

The caches of a converter do not show in a bound query, so what a call comes to can be told from
the binding, the transformer and the encoding alone (`Family.Call.result`). `Family.Call.comes`
says that a call leaves exactly that: the result of a call that succeeds is the next binding, and
after a call that fails binding and transformer are as before. Binding a parsed query to
parameters is one function (`Statement.bindTo`), whether the query was just parsed or is bound
again; for the latter the binding has to be settled, which a fresh one is and every call keeps.
-/

namespace QueryBind

/-- Apart from errors, it does not matter what the parameters are that a query is rendered for. -/
theorem Ground.queryBytes_congr {transformer : Transformer} {encoding : String}
    {query params others : Value} (same : params.isNull = others.isNull) :
    queryBytes transformer encoding query params =
      queryBytes transformer encoding query others := by
  unfold queryBytes
  rw [same]

/-- A parsed query of either variant. -/
inductive Statement where
  | server (query : ServerQuery)
  | client (query : ClientQuery)

namespace Statement

def variant : Statement → Variant
  | .server _ => .server
  | .client _ => .client

def ofBytes (encoding : String) (query : Bytes) : Variant → Except QueryError Statement
  | .server => (ServerQuery.ofBytes encoding query).map .server
  | .client => (ClientQuery.ofBytes encoding query).map .client

/-- The binding of a parsed query to parameters. -/
def bindTo (transformer : Transformer) (params : Value) : Statement → Except Fault Binding
  | .server parsed => do
    let values ← Params.bind parsed.scan parsed.order params
    let dumped ← transformer.dump values parsed.formats
    return .server (.hold { query := parsed.query, parsed := some parsed } dumped)
  | .client parsed => do
    let (rendered, expanded) ← ClientBinding.expandParams transformer parsed params
    return .client ⟨expanded, some rendered, some parsed.template, some parsed⟩

end Statement

namespace Binding

def variant : Binding → Variant
  | .server _ => .server
  | .client _ => .client

/-- The query that further parameters are bound to. -/
def statement? : Binding → Option Statement
  | .server held => held.parsed.map .server
  | .client held => held.parsed.map .client

/-- A query without parameters. -/
def bare (query : Bytes) : Variant → Binding
  | .server => .server { query }
  | .client => .client { query }

/-- The binding with its parameters dropped. -/
def unbound : Binding → Binding
  | .server held => .server held.clear
  | .client held => .client { held with params := none }

/-- What a server was told about the parameters. -/
def description? : Binding → Option Description
  | .server held => held.formats.map fun formats => ⟨held.types, formats⟩
  | .client _ => none

/-- What is left of the query when the parameters are taken away belongs to the parsed query. -/
def Settled : Binding → Prop
  | .server held => ∀ parsed, held.parsed = some parsed → held.query = parsed.query
  | .client held => ∀ parsed, held.parsed = some parsed → held.template = some parsed.template

/-- What the conversion of a query comes to. -/
def ofQuery (variant : Variant) (transformer : Transformer) (encoding : String)
    (query params : Value) : Except Fault Binding := do
  let bytes ← Ground.queryBytes transformer encoding query params
  if params.isNull then return bare bytes variant
  else
    let parsed ← (Statement.ofBytes encoding bytes variant).mapError Fault.query
    parsed.bindTo transformer params

/-- What binding other parameters comes to. -/
def rebound (transformer : Transformer) (binding : Binding) (params : Value) :
    Except Fault Binding :=
  if params.isNull then .ok binding.unbound
  else
    match binding.statement? with
    | none => .error QueryError.notConverted
    | some parsed => parsed.bindTo transformer params

end Binding

namespace Family.Call

def params : Call → Value
  | .convert _ params => params
  | .dump params => params

/-- What a call comes to. -/
def result (transformer : Transformer) (encoding : String) (binding : Binding) :
    Call → Except Fault Binding
  | .convert query params => Binding.ofQuery binding.variant transformer encoding query params
  | .dump params => binding.rebound transformer params

end Family.Call

namespace Binding

section OfQuery

variable {variant : Variant} {transformer : Transformer} {encoding : String}
  {query params : Value} {bytes : Bytes}

/-- A query without bytes is refused with their error. -/
theorem ofQuery_of_refused {fault : Fault}
    (refused : Ground.queryBytes transformer encoding query params = .error fault) :
    ofQuery variant transformer encoding query params = .error fault := by
  rw [ofQuery, refused]
  rfl

variable (given : Ground.queryBytes transformer encoding query params = .ok bytes)

include given

/-- Without parameters a query is kept as it is. -/
theorem ofQuery_of_isNull (absent : params.isNull = true) :
    ofQuery variant transformer encoding query params = .ok (bare bytes variant) := by
  rw [ofQuery, given]
  exact if_pos absent

/-- A query that cannot be assembled is refused with the error of its assembly. -/
theorem ofQuery_of_unparsed (present : ¬params.isNull = true) {error : QueryError}
    (unparsed : Statement.ofBytes encoding bytes variant = .error error) :
    ofQuery variant transformer encoding query params = .error (.query error) := by
  rw [ofQuery, given]
  refine (if_neg present).trans ?_
  rw [unparsed]
  rfl

/-- A query that was parsed when it was converted is not parsed again when it is bound anew. -/
theorem ofQuery_of_parsed (present : ¬params.isNull = true) {parsed : Statement}
    (assembled : Statement.ofBytes encoding bytes variant = .ok parsed) :
    ofQuery variant transformer encoding query params = parsed.bindTo transformer params := by
  rw [ofQuery, given]
  refine (if_neg present).trans ?_
  rw [assembled]
  rfl

end OfQuery

end Binding

/-- The transformer behind a call: a dump for the server leaves its description. -/
def Dumper.after (dumper : Dumper) (call : Family.Call) : Except Fault Binding → Dumper
  | .ok (.server held) =>
    if call.params.isNull then dumper
    else { dumper with described := (Binding.server held).description? }
  | _ => dumper

/-- A call leaves a dumper its transformer. -/
@[simp] theorem Dumper.transformer_after (dumper : Dumper) (call : Family.Call)
    (result : Except Fault Binding) :
    (dumper.after call result).transformer = dumper.transformer := by
  unfold after
  split
  · split <;> rfl
  · rfl

/-- A call on a binding came to a result, and left what the result says. -/
structure Comes (ground : Ground) (binding : Binding) (call : Family.Call)
    (result : Except Fault Binding) (ran : Except Fault Unit × Binding × Ground) : Prop where
  outcome : ran.1 = result.map fun _ => ()
  binding : ran.2.1 = result.toOption.getD binding
  dumper : ran.2.2.dumper = ground.dumper.after call result
  config : ran.2.2.converter.config = ground.converter.config
  sound : ran.2.2.converter.Sound

private theorem Comes.failed {ground : Ground} {binding : Binding} {call : Family.Call}
    {fault : Fault} {converter : Converter} (config : converter.config = ground.converter.config)
    (sound : converter.Sound) :
    Comes ground binding call (.error fault) (.error fault, binding, { ground with converter }) :=
  ⟨rfl, rfl, rfl, config, sound⟩

namespace Converter

/-- A parse that came to what the assembly says fails with its error or finds its value. -/
theorem outcome_cases {ν : Type} {outcome : Except Fault (Parsed ν)}
    {assembled : Except QueryError ν}
    (same : outcome.map (·.query) = assembled.mapError Fault.query) :
    (∃ error, assembled = .error error ∧ outcome = .error (.query error)) ∨
      ∃ found, assembled = .ok found.query ∧ outcome = .ok found := by
  cases outcome with
  | error fault =>
      cases assembled with
      | error error =>
          cases same
          exact .inl ⟨error, rfl, rfl⟩
      | ok value => cases same
  | ok found =>
      cases assembled with
      | error error => cases same
      | ok value =>
          cases same
          exact .inr ⟨found, rfl, rfl⟩

variable {converter : Converter} (sound : converter.Sound) {encoding : String}
  (plain : '\x00' ∉ encoding.toList) (query : Bytes) (params : Value)

include sound plain

/-- Parsing for the server comes to what assembling the query comes to. -/
theorem parseServer_cases :
    ∃ left, left.Sound ∧ left.config = converter.config ∧
      ((∃ error, Statement.ofBytes encoding query .server = .error error ∧
          converter.parseServer query encoding (Ground.countOf params) =
            (.error (.query error), left)) ∨
        ∃ found, Statement.ofBytes encoding query .server = .ok (.server found.query) ∧
          converter.parseServer query encoding (Ground.countOf params) = (.ok found, left)) := by
  have same := parse_outcome converter.config .server converter.telemetry query sound.server plain
    (.ofNat params.paramCount)
  refine ⟨(converter.parseServer query encoding (Ground.countOf params)).2,
    ⟨parse_holds _ _ _ _ sound.server plain _, sound.client⟩, rfl, ?_⟩
  rcases outcome_cases same with ⟨error, assembled, failed⟩ | ⟨found, assembled, parsed⟩
  · exact .inl ⟨error, congrArg (Except.map Statement.server) assembled, Prod.ext failed rfl⟩
  · exact .inr ⟨found, congrArg (Except.map Statement.server) assembled, Prod.ext parsed rfl⟩

/-- Parsing for the client comes to what assembling the query comes to. -/
theorem parseClient_cases :
    ∃ left, left.Sound ∧ left.config = converter.config ∧
      ((∃ error, Statement.ofBytes encoding query .client = .error error ∧
          converter.parseClient query encoding (Ground.countOf params) =
            (.error (.query error), left)) ∨
        ∃ found, Statement.ofBytes encoding query .client = .ok (.client found.query) ∧
          converter.parseClient query encoding (Ground.countOf params) = (.ok found, left)) := by
  have same := parse_outcome converter.config .client converter.telemetry query sound.client plain
    (.ofNat params.paramCount)
  refine ⟨(converter.parseClient query encoding (Ground.countOf params)).2,
    ⟨sound.server, parse_holds _ _ _ _ sound.client plain _⟩, rfl, ?_⟩
  rcases outcome_cases same with ⟨error, assembled, failed⟩ | ⟨found, assembled, parsed⟩
  · exact .inl ⟨error, congrArg (Except.map Statement.client) assembled, Prod.ext failed rfl⟩
  · exact .inr ⟨found, congrArg (Except.map Statement.client) assembled, Prod.ext parsed rfl⟩

end Converter

namespace ServerBinding

private theorem description?_hold (binding : ServerBinding) (dumped : Dump) :
    (Binding.server (binding.hold dumped)).description? = dumped.description := by
  unfold hold Binding.description?
  cases dumped.description <;> rfl

private theorem hold_of_settled {binding : ServerBinding} {parsed : ServerQuery}
    (query : binding.query = parsed.query) (kept : binding.parsed = some parsed) (dumped : Dump) :
    binding.hold dumped = hold { query := parsed.query, parsed := some parsed } dumped := by
  simp only [hold, query, kept]

/-- The values of the parameters are dumped, or the parsed query cannot be bound to them. -/
theorem dumpParams_cases (dumper : Dumper) (parsed : ServerQuery) (params : Value) :
    (∃ fault, (Statement.server parsed).bindTo dumper.transformer params = .error fault ∧
        dumpParams dumper parsed params = (.error fault, dumper)) ∨
      ∃ dumped, (Statement.server parsed).bindTo dumper.transformer params =
          .ok (.server (.hold { query := parsed.query, parsed := some parsed } dumped)) ∧
        dumpParams dumper parsed params =
          (.ok dumped, { dumper with described := dumped.description }) := by
  unfold Statement.bindTo dumpParams
  cases bound : Params.bind parsed.scan parsed.order params with
  | error fault => exact .inl ⟨fault, by simp [bind, Except.bind, bound]⟩
  | ok values =>
      simp only [Dumper.dump, bound, bind, Except.bind]
      cases dumper.transformer.dump values parsed.formats with
      | error fault => exact .inl ⟨fault, by simp⟩
      | ok dumped => exact .inr ⟨dumped, by simp [pure, Except.pure]⟩

variable {ground : Ground} (sound : ground.converter.Sound) (binding : ServerBinding)

include sound

/-- A conversion on the server comes to the binding of its query and parameters. -/
theorem convert_comes {encoding : String} (plain : '\x00' ∉ encoding.toList)
    (query params : Value) :
    Comes ground (.server binding) (.convert query params)
      (Binding.ofQuery .server ground.dumper.transformer encoding query params)
      ((Binding.server binding).convert ground encoding query params) := by
  unfold Binding.convert convert
  cases given : Ground.queryBytes ground.dumper.transformer encoding query params with
  | error fault =>
      rw [Binding.ofQuery_of_refused given]
      exact Comes.failed rfl sound
  | ok bytes =>
      by_cases absent : params.isNull = true
      · rw [Binding.ofQuery_of_isNull given absent]
        simp only [absent, if_true]
        refine ⟨rfl, rfl, ?_, rfl, sound⟩
        exact (if_pos absent).symm
      · simp only [absent]
        -- The converter may answer from its cache; the answer is a parse all the same.
        obtain ⟨left, soundToo, config, parse⟩ :=
          Converter.parseServer_cases sound plain bytes params
        rcases parse with ⟨error, assembled, asked⟩ | ⟨found, assembled, asked⟩
        · rw [Binding.ofQuery_of_unparsed given absent assembled]
          simp only [asked]
          exact Comes.failed config soundToo
        · rw [Binding.ofQuery_of_parsed given absent assembled]
          simp only [asked]
          rcases dumpParams_cases ground.dumper found.query params with
            ⟨fault, bound, dumps⟩ | ⟨dumped, bound, dumps⟩
          · simp only [dumps, bound]
            exact Comes.failed config soundToo
          · simp only [dumps, bound]
            refine ⟨rfl, rfl, ?_, config, soundToo⟩
            simp [Dumper.after, Family.Call.params, absent, description?_hold]

/-- A dump on the server comes to the binding with new parameters. -/
theorem dump_comes (settled : (Binding.server binding).Settled) (params : Value) :
    Comes ground (.server binding) (.dump params)
      ((Binding.server binding).rebound ground.dumper.transformer params)
      ((Binding.server binding).dump ground params) := by
  unfold Binding.dump dump Binding.rebound
  by_cases absent : params.isNull = true
  · simp only [absent, if_true]
    refine ⟨rfl, rfl, ?_, rfl, sound⟩
    exact (if_pos absent).symm
  · simp only [absent, Binding.statement?]
    cases stored : binding.parsed with
    | none => exact Comes.failed rfl sound
    | some parsed =>
        simp only [Option.map_some]
        rcases dumpParams_cases ground.dumper parsed params with
          ⟨fault, bound, dumps⟩ | ⟨dumped, bound, dumps⟩
        · simp only [dumps, bound]
          exact Comes.failed rfl sound
        · simp only [dumps, bound]
          refine ⟨rfl, ?_, ?_, rfl, sound⟩
          · exact congrArg Binding.server (hold_of_settled (settled parsed stored) stored dumped)
          · simp [Dumper.after, Family.Call.params, absent, description?_hold]

end ServerBinding

namespace ClientBinding

private theorem expandParams_cases (transformer : Transformer) (parsed : ClientQuery)
    (params : Value) :
    (∃ fault, (Statement.client parsed).bindTo transformer params = .error fault ∧
        expandParams transformer parsed params = .error fault) ∨
      ∃ rendered expanded, (Statement.client parsed).bindTo transformer params =
          .ok (.client ⟨expanded, some rendered, some parsed.template, some parsed⟩) ∧
        expandParams transformer parsed params = .ok (rendered, expanded) := by
  unfold Statement.bindTo
  cases expands : expandParams transformer parsed params with
  | error fault => exact .inl ⟨fault, by simp [expands, bind, Except.bind]⟩
  | ok both =>
      exact .inr ⟨both.1, both.2, by simp [expands, bind, Except.bind, pure, Except.pure]⟩

variable {ground : Ground} (sound : ground.converter.Sound) (binding : ClientBinding)

include sound

/-- A conversion on the client comes to the binding of its query and parameters. -/
theorem convert_comes {encoding : String} (plain : '\x00' ∉ encoding.toList)
    (query params : Value) :
    Comes ground (.client binding) (.convert query params)
      (Binding.ofQuery .client ground.dumper.transformer encoding query params)
      ((Binding.client binding).convert ground encoding query params) := by
  unfold Binding.convert convert
  cases given : Ground.queryBytes ground.dumper.transformer encoding query params with
  | error fault =>
      rw [Binding.ofQuery_of_refused given]
      exact Comes.failed rfl sound
  | ok bytes =>
      by_cases absent : params.isNull = true
      · rw [Binding.ofQuery_of_isNull given absent]
        simp only [absent, if_true]
        exact ⟨rfl, rfl, rfl, rfl, sound⟩
      · simp only [absent]
        obtain ⟨left, soundToo, config, parse⟩ :=
          Converter.parseClient_cases sound plain bytes params
        rcases parse with ⟨error, assembled, asked⟩ | ⟨found, assembled, asked⟩
        · rw [Binding.ofQuery_of_unparsed given absent assembled]
          simp only [asked]
          exact Comes.failed config soundToo
        · rw [Binding.ofQuery_of_parsed given absent assembled]
          simp only [asked]
          rcases expandParams_cases ground.dumper.transformer found.query params with
            ⟨fault, bound, expands⟩ | ⟨rendered, expanded, bound, expands⟩
          · simp only [expands, bound]
            exact Comes.failed config soundToo
          · simp only [expands, bound]
            exact ⟨rfl, rfl, rfl, config, soundToo⟩

/-- A dump on the client comes to the binding with new parameters. -/
theorem dump_comes (settled : (Binding.client binding).Settled) (params : Value) :
    Comes ground (.client binding) (.dump params)
      ((Binding.client binding).rebound ground.dumper.transformer params)
      ((Binding.client binding).dump ground params) := by
  unfold Binding.dump dump Binding.rebound
  by_cases absent : params.isNull = true
  · simp only [absent, if_true]
    exact ⟨rfl, rfl, rfl, rfl, sound⟩
  · simp only [absent, Binding.statement?]
    cases stored : binding.parsed with
    | none => exact Comes.failed rfl sound
    | some parsed =>
        simp only [Option.map_some]
        rcases expandParams_cases ground.dumper.transformer parsed params with
          ⟨fault, bound, expands⟩ | ⟨rendered, expanded, bound, expands⟩
        · simp only [expands, bound]
          exact Comes.failed rfl sound
        · simp only [expands, bound]
          refine ⟨rfl, ?_, rfl, rfl, sound⟩
          simp only [settled parsed stored]
          rfl

end ClientBinding

namespace Binding

variable {transformer : Transformer} {params : Value} {parsed : Statement} {next : Binding}

/-- A binding is of the variant of its statement. -/
theorem variant_of_statement? {binding : Binding} (kept : binding.statement? = some parsed) :
    binding.variant = parsed.variant := by
  cases binding <;> obtain ⟨_, _, rfl⟩ := Option.map_eq_some_iff.mp kept <;> rfl

/-- A statement that was bound is the statement of the binding. -/
theorem statement?_of_bindTo (bound : parsed.bindTo transformer params = .ok next) :
    next.statement? = some parsed ∧ next.Settled := by
  cases parsed with
  | server query =>
      obtain ⟨values, _, sent⟩ := Outcome.bind_eq_ok.mp bound
      obtain ⟨dumped, _, held⟩ := Outcome.bind_eq_ok.mp sent
      cases held
      refine ⟨rfl, ?_⟩
      intro parsed kept
      cases kept
      rfl
  | client query =>
      obtain ⟨both, _, held⟩ := Outcome.bind_eq_ok.mp bound
      cases held
      refine ⟨rfl, ?_⟩
      intro parsed kept
      cases kept
      rfl

private theorem variant_of_ofBytes {encoding : String} {bytes : Bytes} {variant : Variant}
    (assembled : Statement.ofBytes encoding bytes variant = .ok parsed) :
    parsed.variant = variant := by
  cases variant <;> obtain ⟨_, _, rfl⟩ := Outcome.map_eq_ok.mp assembled <;> rfl

/-- A binding keeps its statement when its parameters are taken away. -/
theorem statement?_unbound (binding : Binding) :
    binding.unbound.statement? = binding.statement? := by
  cases binding <;> rfl

/-- A binding keeps its variant when its parameters are taken away. -/
theorem variant_unbound (binding : Binding) : binding.unbound.variant = binding.variant := by
  cases binding <;> rfl

private theorem settled_unbound {binding : Binding} (settled : binding.Settled) :
    binding.unbound.Settled := by
  cases binding with
  | server held => exact settled
  | client held => exact settled

private theorem settled_bare (bytes : Bytes) (variant : Variant) :
    (bare bytes variant).Settled := by
  cases variant <;> exact nofun

private theorem variant_bare (bytes : Bytes) (variant : Variant) :
    (bare bytes variant).variant = variant := by
  cases variant <;> rfl

/-- A conversion leaves a bare query, or a parsed one that is bound to the parameters. -/
theorem ofQuery_eq_ok {variant : Variant} {encoding : String} {query : Value}
    (converted : ofQuery variant transformer encoding query params = .ok next) :
    ∃ bytes, Ground.queryBytes transformer encoding query params = .ok bytes ∧
      ((params.isNull = true ∧ next = bare bytes variant) ∨
        params.isNull = false ∧ ∃ parsed,
          Statement.ofBytes encoding bytes variant = .ok parsed ∧
          parsed.bindTo transformer params = .ok next) := by
  obtain ⟨bytes, given, later⟩ := Outcome.bind_eq_ok.mp converted
  refine ⟨bytes, given, ?_⟩
  split at later
  · next absent =>
      cases later
      exact .inl ⟨absent, rfl⟩
  · next present =>
      obtain ⟨parsed, assembled, bound⟩ := Outcome.bind_eq_ok.mp later
      exact .inr ⟨eq_false_of_ne_true present, parsed, Outcome.mapError_eq_ok.mp assembled, bound⟩

end Binding

namespace Family.Call

/-- **What a call leaves.** Whatever its converter has cached, a call on a settled binding comes to
its result. -/
theorem comes {ground : Ground} (sound : ground.converter.Sound) {encoding : String}
    (plain : '\x00' ∉ encoding.toList) {binding : Binding} (settled : binding.Settled)
    (call : Call) :
    Comes ground binding call (call.result ground.dumper.transformer encoding binding)
      (call.run binding ground encoding) := by
  cases binding with
  | server held =>
      cases call with
      | convert query params => exact ServerBinding.convert_comes sound held plain query params
      | dump params => exact ServerBinding.dump_comes sound held settled params
  | client held =>
      cases call with
      | convert query params => exact ClientBinding.convert_comes sound held plain query params
      | dump params => exact ClientBinding.dump_comes sound held settled params

/-- A call leaves a binding of the same variant, and a settled one if it was settled. -/
theorem keeps {transformer : Transformer} {encoding : String} {binding next : Binding} {call : Call}
    (came : call.result transformer encoding binding = .ok next) :
    next.variant = binding.variant ∧ (binding.Settled → next.Settled) := by
  -- Both calls may end in a parsed query that is bound to parameters.
  have bound : ∀ {parsed : Statement} {params : Value},
      parsed.variant = binding.variant → parsed.bindTo transformer params = .ok next →
        next.variant = binding.variant ∧ (binding.Settled → next.Settled) := by
    intro parsed params same binds
    obtain ⟨kept, settled⟩ := Binding.statement?_of_bindTo binds
    exact ⟨(Binding.variant_of_statement? kept).trans same, fun _ => settled⟩
  cases call with
  | convert query params =>
      obtain ⟨bytes, _, ⟨_, rfl⟩ | ⟨_, parsed, assembled, binds⟩⟩ := Binding.ofQuery_eq_ok came
      · exact ⟨Binding.variant_bare _ _, fun _ => Binding.settled_bare _ _⟩
      · exact bound (Binding.variant_of_ofBytes assembled) binds
  | dump params =>
      simp only [result, Binding.rebound] at came
      split at came
      · cases came
        exact ⟨Binding.variant_unbound binding, Binding.settled_unbound⟩
      · split at came
        · cases came
        · next parsed kept => exact bound (Binding.variant_of_statement? kept).symm came

end Family.Call

end QueryBind
