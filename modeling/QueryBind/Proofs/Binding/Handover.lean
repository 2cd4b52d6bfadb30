import QueryBind.Proofs.Binding.Consistency
import QueryBind.Proofs.Binding.Denotation
import QueryBind.Proofs.Binding.LastStep
import QueryBind.Proofs.Binding.Refusals
import QueryBind.Proofs.Params.Answers

/-! # What a call hands over

The last step of a call counts the values and formats that it is given, or the literals and the
pairs of its template. The counts agree because a member only holds queries that were parsed in its
encoding (`Family.Rooted`), whatever its converter has cached, and a parsed query takes one value
for every format or slot (`Statement.balanced_of_handed`). So no call fails for a count, but when
its parameters are bound (`Family.step_handsOver`).
-/

namespace QueryBind

open Outcome (FailsOnly failsOnly_ok failsOnly_error)

/-! ## Counts -/

/-- There is one format for every value, or one literal for every pair `%s` of the template. -/
def Handed.Balanced : Handed → Prop
  | nothing => True
  | dump values formats => values.length = formats.length
  | fill template literals => literals.length = Template.pairs template

namespace Statement

variable {transformer : Transformer} {params : Value} {parsed : Statement}

/-- **What a parsed query hands over is balanced.** -/
theorem balanced_of_handed {encoding : String} {codec : Text.Codec}
    (selected : Encoding.codec encoding = .ok codec) {query : Bytes} {variant : Variant}
    (assembled : ofBytes encoding query variant = .ok parsed) {handed : Handed}
    (came : parsed.handed transformer params = .ok handed) : handed.Balanced := by
  cases variant with
  | server =>
      obtain ⟨server, parses, rfl⟩ := Outcome.map_eq_ok.mp assembled
      obtain ⟨values, bound, rfl⟩ := Outcome.map_eq_ok.mp came
      exact ServerQuery.length_of_bind selected parses bound
  | client =>
      obtain ⟨client, parses, rfl⟩ := Outcome.map_eq_ok.mp assembled
      obtain ⟨literals, rendered, rfl⟩ := Outcome.map_eq_ok.mp came
      rw [ClientBinding.renderParams_eq_bind] at rendered
      obtain ⟨values, bound, rendered⟩ := Outcome.bind_eq_ok.mp rendered
      have each := ClientBinding.literals_eq_ok_iff.mp rendered
      exact each.length_eq.symm.trans (Template.length_of_bind selected parses bound)

/-- A parsed query hands nothing over if its parameters are refused or a literal fails. -/
theorem bind_of_handed_error {allowed : Fault → Prop}
    (literal : ∀ value, FailsOnly allowed (transformer.literal value)) {fault : Fault}
    (failed : parsed.handed transformer params = .error fault) :
    Params.bind parsed.scan parsed.order params = .error fault ∨ allowed fault := by
  cases parsed with
  | server server => exact .inl (Outcome.map_eq_error.mp failed)
  | client client =>
      have rendering := Outcome.map_eq_error.mp failed
      rw [ClientBinding.renderParams_eq_bind] at rendering
      refine (Outcome.bind_eq_error.mp rendering).imp_right ?_
      rintro ⟨values, _, rendering⟩
      exact ClientBinding.literals_fails literal values fault rendering

end Statement

/-- Parameters are refused with an ordinary fault, or for their number. -/
theorem Params.bind_fails_for_count (scan : Scan) (order : Option (List String)) (params : Value) :
    FailsOnly (fun fault => fault.IsOrdinary ∨ ∃ expected actual,
      fault = .query (.paramCount expected actual)) (bind scan order params) := by
  unfold bind
  cases held : ofValue params with
  | error fault => exact failsOnly_error (.inl (ofValue_fails params fault held))
  | ok params =>
      refine (valuesFor_fails scan order params).mapError ?_
      rintro error (ordinary | ⟨expected, actual, rfl⟩)
      · exact .inl ordinary
      · exact .inr ⟨expected, actual, rfl⟩

/-- The last step of the text transformer does not look at the counts if they agree. -/
theorem Handed.Balanced.accept_fails {handed : Handed} (balanced : handed.Balanced)
    (name : String) : FailsOnly Fault.IsOrdinary (handed.accept (.text name)) := by
  cases handed with
  | nothing => exact failsOnly_ok ()
  | dump values formats =>
      refine FailsOnly.map ?_ _
      change FailsOnly Fault.IsOrdinary (TextTransform.dump name values formats)
      have same : ¬values.length ≠ formats.length := not_not_intro balanced
      unfold TextTransform.dump
      rw [if_neg same]
      exact (TextTransform.dumpFrom_fails name 1 _).map _
  | fill template literals =>
      obtain ⟨bytes, expands⟩ := Template.exists_expand
        ((List.length_map (·.getD [])).trans balanced)
      rw [accept, ClientBinding.fillTemplate, expands]
      refine FailsOnly.map ?_ _
      dsimp only [Except.mapError, bind, Except.bind]
      split
      · exact failsOnly_ok _
      · exact failsOnly_error trivial

/-! ## What members hold -/

namespace Binding

/-- The query that further parameters are bound to was parsed in this encoding. -/
def Rooted (encoding : String) (binding : Binding) : Prop :=
  ∀ parsed, binding.statement? = some parsed →
    ∃ bytes, Statement.ofBytes encoding bytes binding.variant = .ok parsed

private theorem rooted_fresh (variant : Variant) (encoding : String) :
    (fresh variant).Rooted encoding := by
  cases variant <;> exact nofun

private theorem rooted_bare (bytes : Bytes) (variant : Variant) (encoding : String) :
    (bare bytes variant).Rooted encoding := by
  cases variant <;> exact nofun

/-- What a call leaves was parsed in the encoding of its member. -/
theorem Rooted.result {encoding : String} {binding next : Binding}
    (rooted : binding.Rooted encoding) {transformer : Transformer} {call : Family.Call}
    (came : call.result transformer encoding binding = .ok next) : next.Rooted encoding := by
  have kept : next.variant = binding.variant := (Family.Call.keeps came).1
  -- Both calls may end in a parsed query that is bound to parameters.
  have bound : ∀ {parsed params}, parsed.bindTo transformer params = .ok next →
      (∃ bytes, Statement.ofBytes encoding bytes binding.variant = .ok parsed) →
        next.Rooted encoding := by
    intro parsed params binds source other held
    rw [(statement?_of_bindTo binds).1] at held
    cases held
    rw [kept]
    exact source
  cases call with
  | convert query params =>
      obtain ⟨bytes, _, ⟨_, rfl⟩ | ⟨_, parsed, assembled, binds⟩⟩ := ofQuery_eq_ok came
      · exact rooted_bare _ _ _
      · exact bound binds ⟨bytes, assembled⟩
  | dump params =>
      change binding.rebound transformer params = .ok next at came
      unfold rebound at came
      split at came
      · cases came
        intro parsed held
        rw [statement?_unbound] at held
        rw [variant_unbound]
        exact rooted parsed held
      · split at came
        · cases came
        · next parsed held => exact bound came (rooted parsed held)

end Binding

namespace Family

/-- The encoding of every member selects a codec, and what the member holds was parsed in it. -/
def Rooted (family : Family) : Prop :=
  ∀ member ∈ family.members, (∃ codec, Encoding.codec member.encoding = .ok codec) ∧
    member.binding.Rooted member.encoding

variable {family : Family}

/-- A call leaves every member with a statement that was assembled. -/
theorem Rooted.step (rooted : family.Rooted) (sound : family.Sound) (index : Nat) (call : Call) :
    (family.step index call).2.Rooted := by
  rcases step_cases sound index call with ⟨_, same⟩ | ⟨member, dumper, found, _, stepped⟩
  · rw [same]
    exact rooted
  · intro other among
    rw [stepped.members] at among
    rcases List.mem_or_eq_of_mem_set among with before | rfl
    · exact rooted other before
    · obtain ⟨selected, held⟩ := rooted member (List.mem_of_getElem? found)
      refine ⟨selected, ?_⟩
      cases came : call.result dumper.transformer member.encoding member.binding with
      | error fault => exact held
      | ok next => exact held.result came

/-- So does adding a member. -/
theorem Rooted.add (rooted : family.Rooted) (variant : Variant) (number : Nat) :
    (family.add variant number).2.Rooted := by
  rcases add_cases family variant number with ⟨_, refused⟩ | ⟨_, encoding, _, checked, added⟩
  · rw [refused]
    exact rooted
  · rw [added]
    intro member among
    rcases List.mem_append.mp among with before | new
    · exact rooted member before
    · rw [List.mem_singleton.mp new]
      obtain ⟨codec, selected, same⟩ := Outcome.map_eq_ok.mp (Outcome.mapError_eq_ok.mp checked)
      rw [← same]
      exact ⟨⟨codec, selected⟩, Binding.rooted_fresh variant _⟩

/-- So does a run. -/
theorem Rooted.run (rooted : family.Rooted) (sound : family.Sound) (events : List Event) :
    (family.run events).2.Rooted := by
  induction events generalizing family with
  | nil => exact rooted
  | cons event rest ih =>
      refine ih ?_ (sound.respond event)
      cases event with
      | transformer transformer => exact rooted
      | member variant number => exact rooted.add variant number
      | call index call => exact rooted.step sound index call

/-- Whatever can be reached has statements that were assembled. -/
theorem Reachable.rooted (reachable : family.Reachable) : family.Rooted := by
  obtain ⟨start, events, used, rfl⟩ := reachable
  have empty : Sound { converter := start } := ⟨used.sound, nofun, nofun⟩
  have rooted : Rooted { converter := start } := fun member among =>
    absurd among List.not_mem_nil
  exact rooted.run empty events

end Family

/-! ## Calls -/

namespace Family.Call

variable {ground : Ground} {encoding : String} {binding : Binding} {call : Call}

private theorem handed_eq_ok {handed : Handed}
    (came : call.handed ground encoding binding = .ok handed) :
    handed = .nothing ∨ ∃ parsed, call.reached ground encoding binding = .ok (some parsed) ∧
      parsed.handed ground.dumper.transformer call.params = .ok handed := by
  obtain ⟨found, reaches, later⟩ := Outcome.bind_eq_ok.mp came
  cases found with
  | none =>
      cases later
      exact .inl rfl
  | some parsed => exact .inr ⟨parsed, reaches, later⟩

private theorem handed_eq_error {fault : Fault}
    (failed : call.handed ground encoding binding = .error fault) :
    call.reached ground encoding binding = .error fault ∨
      ∃ parsed, call.reached ground encoding binding = .ok (some parsed) ∧
        parsed.handed ground.dumper.transformer call.params = .error fault := by
  unfold handed at failed
  cases reaches : call.reached ground encoding binding with
  | error other =>
      rw [reaches] at failed
      cases failed
      exact .inl rfl
  | ok found =>
      rw [reaches] at failed
      cases found with
      | none => cases failed
      | some parsed => exact .inr ⟨parsed, rfl, failed⟩

end Family.Call

section Call

variable {encoding : String} (plain : '\x00' ∉ encoding.toList)

include plain

/-- A converter answers with the parse of the query. -/
theorem Converter.statement_eq {converter : Converter} (sound : converter.Sound) (query : Bytes)
    (params : Value) (variant : Variant) :
    converter.statement query encoding (Ground.countOf params) variant =
      (Statement.ofBytes encoding query variant).mapError Fault.query := by
  cases variant with
  | server =>
      obtain ⟨left, _, _, parse⟩ := parseServer_cases sound plain query params
      rcases parse with ⟨error, assembled, asked⟩ | ⟨found, assembled, asked⟩ <;>
        rw [statement, asked, assembled] <;> rfl
  | client =>
      obtain ⟨left, _, _, parse⟩ := parseClient_cases sound plain query params
      rcases parse with ⟨error, assembled, asked⟩ | ⟨found, assembled, asked⟩ <;>
        rw [statement, asked, assembled] <;> rfl

variable {ground : Ground} (sound : ground.converter.Sound)

include sound

namespace Family.Call

/-- A call reaches a query that was parsed in the encoding of its member. -/
theorem exists_ofBytes_of_reached {binding : Binding} (rooted : binding.Rooted encoding)
    {call : Call} {parsed : Statement}
    (came : call.reached ground encoding binding = .ok (some parsed)) :
    ∃ bytes, Statement.ofBytes encoding bytes binding.variant = .ok parsed := by
  cases call with
  | convert query params =>
      obtain ⟨bytes, _, later⟩ := Outcome.bind_eq_ok.mp came
      split at later
      · cases later
      · rw [Converter.statement_eq plain sound] at later
        obtain ⟨found, assembled, same⟩ := Outcome.bind_eq_ok.mp later
        cases same
        exact ⟨bytes, Outcome.mapError_eq_ok.mp assembled⟩
  | dump params =>
      simp only [reached] at came
      split at came
      · cases came
      · split at came
        · cases came
        · next found held =>
            cases came
            exact rooted parsed held

/-- A call that does not reach a parsed query fails with an ordinary fault. -/
theorem reached_fails {codec : Text.Codec} (selected : Encoding.codec encoding = .ok codec)
    (literal : ∀ value, FailsOnly Fault.IsOrdinary (ground.dumper.transformer.literal value))
    (binding : Binding) (call : Call) :
    FailsOnly Fault.IsOrdinary (call.reached ground encoding binding) := by
  cases call with
  | convert query params =>
      simp only [reached]
      refine (Ground.queryBytes_fails (fun _ => id) literal encoding query params).bind
        fun bytes => ?_
      split
      · exact failsOnly_ok _
      · rw [Converter.statement_eq plain sound]
        exact (Statement.ofBytes_fails selected bytes _).query.bind fun _ => failsOnly_ok _
  | dump params =>
      simp only [reached]
      split
      · exact failsOnly_ok _
      · split
        · exact failsOnly_error trivial
        · exact failsOnly_ok _

end Family.Call

end Call

namespace Family

/-- What a call hands over, if it gets there, and how it may fail. -/
structure Call.HandsOver (ground : Ground) (encoding : String) (binding : Binding) (call : Call)
    (outcome : Except Fault Unit) : Prop where
  /-- The call fails before its last step, or comes to what that step makes of what it is given. -/
  last : outcome =
    (call.handed ground encoding binding >>= Handed.accept ground.dumper.transformer)
  balanced : ∀ handed, call.handed ground encoding binding = .ok handed → handed.Balanced
  /-- No template is given too few or too many literals, whatever the transformer is. -/
  expands : ∀ template literals,
    call.handed ground encoding binding = .ok (.fill template literals) →
      ∃ bytes, Template.expand template (literals.map (·.getD [])) = .ok bytes
  /-- With the text transformer a fault that is not ordinary is about the number of parameters, and
  is the one that binding the parsed query to them came to. -/
  refused : ∀ name fault, ground.dumper.transformer = .text name → outcome = .error fault →
    ¬ fault.IsOrdinary → ∃ parsed expected actual,
      call.reached ground encoding binding = .ok (some parsed) ∧
        Params.bind parsed.scan parsed.order call.params = .error fault ∧
        fault = .query (.paramCount expected actual)

/-- **The counts of the last step agree.** A call on a bound query hands over one format for every
value, or one literal for every pair of the template. -/
theorem Call.handsOver {ground : Ground} (sound : ground.converter.Sound) {encoding : String}
    {codec : Text.Codec} (selected : Encoding.codec encoding = .ok codec) {binding : Binding}
    (rooted : binding.Rooted encoding) (call : Call) :
    call.HandsOver ground encoding binding (call.run binding ground encoding).1 := by
  have plain : '\x00' ∉ encoding.toList :=
    Text.Codec.nul_not_mem_of_ofName? (Encoding.codec_eq_ok.mp selected)
  have last := call.fst_run ground encoding binding
  have balanced : ∀ handed, call.handed ground encoding binding = .ok handed →
      handed.Balanced := by
    intro handed came
    rcases handed_eq_ok came with rfl | ⟨parsed, reaches, hands⟩
    · trivial
    · obtain ⟨bytes, assembled⟩ := exists_ofBytes_of_reached plain sound rooted reaches
      exact Statement.balanced_of_handed selected assembled hands
  refine ⟨last, balanced, fun template literals came => ?_, ?_⟩
  · exact Template.exists_expand ((List.length_map _).trans (balanced _ came))
  · intro name fault text failed extraordinary
    have literal : ∀ value, FailsOnly Fault.IsOrdinary
        (ground.dumper.transformer.literal value) := by
      rw [text]
      exact TextTransform.literal_fails name
    rw [last] at failed
    cases handing : call.handed ground encoding binding with
    | ok handed =>
        rw [handing, text] at failed
        exact absurd ((balanced handed handing).accept_fails name fault failed) extraordinary
    | error other =>
        rw [handing] at failed
        cases failed
        rcases handed_eq_error handing with unreached | ⟨parsed, reaches, refused⟩
        · exact absurd (reached_fails plain sound selected literal binding call fault unreached)
            extraordinary
        · have bound := (Statement.bind_of_handed_error literal refused).resolve_right extraordinary
          obtain ⟨expected, actual, counted⟩ :=
            (Params.bind_fails_for_count _ _ _ fault bound).resolve_left extraordinary
          exact ⟨parsed, expected, actual, reaches, bound, counted⟩

/-- **Counts are checked when parameters are bound, and never fail afterwards.** A call is made on a
member of a family that came about in any run. When it gets to its last step, it hands over one
format for every value, or one literal for every pair of the template, so no template is given too
few or too many literals. With the text transformer, every fault is ordinary, and not about counts,
but for those that binding the parsed query to its parameters comes to. -/
theorem step_handsOver {family : Family} (reachable : family.Reachable) {index : Nat}
    {member : Member} (found : family.members[index]? = some member) {dumper : Dumper}
    (held : family.dumpers[member.dumper]? = some dumper) (call : Call) :
    ∃ outcome, (family.step index call).1 = some outcome ∧
      call.HandsOver ⟨family.converter, dumper⟩ member.encoding member.binding outcome := by
  obtain ⟨⟨codec, selected⟩, rooted⟩ := reachable.rooted member (List.mem_of_getElem? found)
  let ground : Ground := ⟨family.converter, dumper⟩
  have sound : ground.converter.Sound := reachable.sound.converter
  refine ⟨(call.run member.binding ground member.encoding).1, ?_,
    Call.handsOver sound selected rooted call⟩
  unfold step
  rw [found]
  simp only [held]
  rfl

/-- Two placeholders of one name: a record hands over one value in one format, and a list is refused
when it is bound. -/
theorem step_handsOver_of_repetition :
    let own : Converter := ⟨.standard, { capacity := .int 1 }, { capacity := .int 1 }, {}⟩
    let member : Member := ⟨.server {}, "utf8", 0⟩
    let dumper : Dumper := ⟨.text "utf8", none⟩
    let family : Family := ⟨own, [dumper], [member]⟩
    let query : Value := .text "%(d)s, %(d)s"
    let given : Call := .convert query (.record [("d", .bool true)])
    let refused : Call := .convert query (.list [.null])
    family.Reachable ∧ family.members[0]? = some member ∧
      family.dumpers[member.dumper]? = some dumper ∧
      given.handed ⟨own, dumper⟩ "utf8" member.binding = .ok (.dump [.bool true] [.auto]) ∧
      (Handed.dump [.bool true] [.auto]).Balanced ∧
      ∃ parsed, refused.reached ⟨own, dumper⟩ "utf8" member.binding = .ok (some parsed) ∧
        Params.bind parsed.scan parsed.order (.list [.null]) =
          .error (.query (.paramCount 2 1)) := by
  intro own member dumper family query given refused
  let start : Family := ⟨own, [dumper], []⟩
  have used : own.Used := ⟨own, [], rfl, rfl, nofun, rfl⟩
  have selected : Encoding.codec "utf8" = .ok .utf8 := Encoding.codec_name .utf8
  have checked := checkedEncoding_text selected own none
  have before : start.Reachable := ⟨own, [.transformer (.text "utf8")], used, rfl⟩
  have added : start.add .server 0 = (.ok 0, family) := by
    simp [start, add, checked, Binding.fresh, dumper, member, family]
  have reachable : family.Reachable := before.add added
  have found : family.members[0]? = some member := rfl
  have held : family.dumpers[member.dumper]? = some dumper := rfl
  let bytes : Bytes := [0x25, 0x28, 0x64, 0x29, 0x73, 0x2C, 0x20, 0x25, 0x28, 0x64, 0x29, 0x73]
  let server : ServerQuery := ⟨[0x24, 0x31, 0x2C, 0x20, 0x24, 0x31], [.auto], some ["d"],
    ⟨[⟨[], .name "d", .auto⟩, ⟨[0x2C, 0x20], .name "d", .auto⟩], []⟩⟩
  have assembled : Statement.ofBytes "utf8" bytes .server = .ok (.server server) := by cbv
  have reaches (params : Value) (present : params.isNull = false) :
      (Call.convert query params).reached ⟨own, dumper⟩ "utf8" member.binding =
        .ok (some (.server server)) := by
    have plain : '\x00' ∉ "utf8".toList := by decide
    have source : Ground.queryBytes dumper.transformer "utf8" query params = .ok bytes := by
      simp only [Ground.queryBytes, query, Encoding.encode_eq_ok selected]
      cbv
    have parses := Converter.statement_eq plain used.sound bytes params .server
    rw [assembled] at parses
    have variant : member.binding.variant = .server := rfl
    simp only [Call.reached, source, present, variant, bind, Except.bind, Bool.false_eq_true,
      if_false, parses]
    rfl
  have handed : given.handed ⟨own, dumper⟩ "utf8" member.binding =
      .ok (.dump [.bool true] [.auto]) := by
    rw [Call.handed, reaches _ rfl]
    cbv
  have failed : refused.handed ⟨own, dumper⟩ "utf8" member.binding =
      .error (.query (.paramCount 2 1)) := by
    rw [Call.handed, reaches _ rfl]
    cbv
  obtain ⟨_, _, hands⟩ := step_handsOver reachable found held given
  obtain ⟨outcome, _, refusal⟩ := step_handsOver reachable found held refused
  have ends : outcome = .error (.query (.paramCount 2 1)) := by
    rw [refusal.last, failed]
    rfl
  obtain ⟨parsed, _, _, reached, bound, _⟩ := refusal.refused "utf8" _ rfl ends id
  exact ⟨reachable, found, held, handed, hands.balanced _ handed, parsed, reached, bound⟩

end Family

end QueryBind
