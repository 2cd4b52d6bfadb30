import QueryBind.Proofs.Binding.Effect

/-! # Histories in a family

A family is run through events: transformers and bound queries are added, and bound queries are
called. The records of one member say what its calls came to and what it holds behind them. What a
member shows (`Family.View`) is its binding, its encoding and its transformer; its records and what
it shows at the end depend on what it shows at the start and on its own calls, and on nothing else
(`Family.history_eq`).
-/

namespace QueryBind.Family

/-- What happens in a family. -/
inductive Event where
  | transformer (transformer : Transformer)
  | member (variant : Variant) (dumper : Nat)
  | call (index : Nat) (call : Call)

/-- What an event is answered with. -/
inductive Reply where
  | transformer (number : Nat)
  | member (outcome : Except Fault Nat)
  | call (outcome : Option (Except Fault Unit))

def respond (family : Family) : Event → Reply × Family
  | .transformer transformer =>
    let (number, next) := family.addTransformer transformer
    (.transformer number, next)
  | .member variant dumper =>
    let (outcome, next) := family.add variant dumper
    (.member outcome, next)
  | .call index call =>
    let (outcome, next) := family.step index call
    (.call outcome, next)

/-- The replies to events, one after the other, and the family behind them. -/
def run (family : Family) : List Event → List Reply × Family
  | [] => ([], family)
  | event :: rest =>
    let (reply, next) := family.respond event
    let (replies, last) := next.run rest
    (reply :: replies, last)

/-- A run begins with the response to its first event. -/
theorem run_cons (family : Family) (event : Event) (rest : List Event) :
    family.run (event :: rest) =
      ((family.respond event).1 :: ((family.respond event).2.run rest).1,
        ((family.respond event).2.run rest).2) := rfl

private theorem run_append (family : Family) (first second : List Event) :
    (family.run (first ++ second)).2 = ((family.run first).2.run second).2 := by
  induction first generalizing family with
  | nil => rfl
  | cons event rest ih => exact ih (family.respond event).2

/-- A call on a member, what it came to, and the binding behind it. -/
structure Record where
  call : Call
  outcome : Except Fault Unit
  binding : Binding

def binding? (family : Family) (index : Nat) : Option Binding :=
  family.members[index]?.map (·.binding)

/-- The call in an event, if it is one on the member with this number. -/
def Event.callOn (index : Nat) : Event → Option Call
  | .call target asked => if target = index then some asked else none
  | _ => none

def callsOn (index : Nat) (events : List Event) : List Call :=
  events.filterMap (Event.callOn index)

/-- The record of a call on a member. -/
def record? (family : Family) (index : Nat) (call : Call) : Option Record := do
  let outcome ← (family.step index call).1
  let binding ← (family.step index call).2.binding? index
  return ⟨call, outcome, binding⟩

/-- The records of a member. -/
def history (family : Family) (index : Nat) : List Event → List Record
  | [] => []
  | event :: rest =>
    ((event.callOn index).bind (family.record? index)).toList ++
      (family.respond event).2.history index rest

/-- What a member shows. -/
structure View where
  binding : Binding
  encoding : String
  transformer : Transformer

def transformer? (family : Family) (number : Nat) : Option Transformer :=
  family.dumpers[number]?.map (·.transformer)

def view (family : Family) (index : Nat) : Option View := do
  let member ← family.members[index]?
  let transformer ← family.transformer? member.dumper
  return ⟨member.binding, member.encoding, transformer⟩

namespace View

def result (view : View) (call : Call) : Except Fault Binding :=
  call.result view.transformer view.encoding view.binding

def next (view : View) (call : Call) : View :=
  { view with binding := (view.result call).toOption.getD view.binding }

def record (view : View) (call : Call) : Record :=
  ⟨call, (view.result call).map fun _ => (), (view.next call).binding⟩

def records (view : View) : List Call → List Record
  | [] => []
  | call :: rest => view.record call :: (view.next call).records rest

/-- The calls of a history are the calls that were made. -/
theorem map_call_records (view : View) (calls : List Call) :
    (view.records calls).map (·.call) = calls := by
  induction calls generalizing view with
  | nil => rfl
  | cons call rest ih => exact congrArg (call :: ·) (ih (view.next call))

end View

/-- What every family keeps whose caches were empty once. -/
structure Sound (family : Family) : Prop where
  converter : family.converter.Sound
  plain : ∀ member ∈ family.members, '\x00' ∉ member.encoding.toList
  settled : ∀ member ∈ family.members, member.binding.Settled

/-- A view shows the binding of a member, its encoding and the transformer of its dumper. -/
theorem view_eq_some_iff {family : Family} {index : Nat} {view : View} :
    family.view index = some view ↔
      ∃ member dumper, family.members[index]? = some member ∧
        family.dumpers[member.dumper]? = some dumper ∧
        view = ⟨member.binding, member.encoding, dumper.transformer⟩ := by
  simp only [Family.view, transformer?, bind, pure, Option.bind_eq_some_iff,
    Option.map_eq_some_iff, Option.some.injEq]
  constructor
  · rintro ⟨member, found, _, ⟨dumper, held, rfl⟩, rfl⟩
    exact ⟨member, dumper, found, held, rfl⟩
  · rintro ⟨member, dumper, found, held, rfl⟩
    exact ⟨member, found, _, ⟨dumper, held, rfl⟩, rfl⟩

/-- A view shows the binding. -/
theorem binding?_of_view {family : Family} {index : Nat} {view : View}
    (shown : family.view index = some view) : family.binding? index = some view.binding := by
  obtain ⟨member, _, found, _, rfl⟩ := view_eq_some_iff.mp shown
  rw [binding?, found]
  rfl

/-- A call on a member that is not there does nothing. -/
theorem step_of_view_eq_none {family : Family} {index : Nat} (absent : family.view index = none)
    (call : Call) : family.step index call = (none, family) := by
  unfold step
  cases found : family.members[index]? with
  | none => rfl
  | some member =>
      cases held : family.dumpers[member.dumper]? with
      | none => simp only [held]
      | some dumper =>
          rw [view_eq_some_iff.mpr ⟨member, dumper, found, held, rfl⟩] at absent
          cases absent

/-- A call on a member came to a result, and the family is as the result says. -/
structure Stepped (family : Family) (index : Nat) (member : Member) (dumper : Dumper)
    (call : Call) (result : Except Fault Binding)
    (left : Option (Except Fault Unit) × Family) : Prop where
  outcome : left.1 = some (result.map fun _ => ())
  members : left.2.members =
    family.members.set index { member with binding := result.toOption.getD member.binding }
  dumpers : left.2.dumpers = family.dumpers.set member.dumper (dumper.after call result)
  config : left.2.converter.config = family.converter.config
  sound : left.2.converter.Sound

section Step

variable {family : Family} (sound : family.Sound)

include sound

/-- A call does what its result says, and nothing else. -/
theorem stepped {index : Nat} {member : Member} (found : family.members[index]? = some member)
    {dumper : Dumper} (held : family.dumpers[member.dumper]? = some dumper) (call : Call) :
    family.Stepped index member dumper call
      (call.result dumper.transformer member.encoding member.binding) (family.step index call) := by
  have there := List.mem_of_getElem? found
  let ground : Ground := ⟨family.converter, dumper⟩
  have sure : ground.converter.Sound := sound.converter
  obtain ⟨outcome, binding, left, config, soundToo⟩ :=
    Call.comes sure (sound.plain member there) (sound.settled member there) call
  unfold step
  rw [found]
  simp only [held]
  exact ⟨congrArg some outcome, by rw [binding], by rw [left], config, soundToo⟩

/-- A call finds its member, or does nothing. -/
theorem step_cases (index : Nat) (call : Call) :
    (family.view index = none ∧ family.step index call = (none, family)) ∨
      ∃ member dumper, family.members[index]? = some member ∧
        family.dumpers[member.dumper]? = some dumper ∧
        family.Stepped index member dumper call
          (call.result dumper.transformer member.encoding member.binding)
          (family.step index call) := by
  cases shown : family.view index with
  | none => exact .inl ⟨rfl, step_of_view_eq_none shown call⟩
  | some view =>
      obtain ⟨member, dumper, found, held, _⟩ := view_eq_some_iff.mp shown
      exact .inr ⟨member, dumper, found, held, stepped sound found held call⟩

/-- No call replaces a transformer. -/
theorem transformer?_step (index : Nat) (call : Call) (number : Nat) :
    (family.step index call).2.transformer? number = family.transformer? number := by
  rcases step_cases sound index call with ⟨_, same⟩ | ⟨member, dumper, _, held, stepped⟩
  · rw [same]
  · unfold transformer?
    rw [stepped.dumpers, List.getElem?_set]
    by_cases same : member.dumper = number
    · subst same
      have there : member.dumper < family.dumpers.length := (List.getElem?_eq_some_iff.mp held).1
      rw [if_pos rfl, if_pos there, held]
      exact congrArg some (Dumper.transformer_after _ _ _)
    · rw [if_neg same]

/-- A call on another member leaves alone what a member shows. -/
theorem view_step_of_ne {index target : Nat} (different : target ≠ index) (call : Call) :
    (family.step target call).2.view index = family.view index := by
  have same : (family.step target call).2.members[index]? = family.members[index]? := by
    rcases step_cases sound target call with ⟨_, same⟩ | ⟨member, dumper, _, _, stepped⟩
    · rw [same]
    · rw [stepped.members]
      exact List.getElem?_set_ne different
  simp only [Family.view, same, transformer?_step sound]

/-- What a call comes to, and what its member shows behind it, can be told from what the member
showed. -/
theorem view_step {index : Nat} {view : View} (shown : family.view index = some view)
    (call : Call) :
    (family.step index call).1 = some ((view.result call).map fun _ => ()) ∧
      (family.step index call).2.view index = some (view.next call) := by
  obtain ⟨member, dumper, found, held, rfl⟩ := view_eq_some_iff.mp shown
  have stepped := stepped sound found held call
  refine ⟨stepped.outcome, ?_⟩
  have there : index < family.members.length := (List.getElem?_eq_some_iff.mp found).1
  have kept : family.transformer? member.dumper = some dumper.transformer := by
    rw [transformer?, held]
    rfl
  simp only [Family.view, stepped.members, List.getElem?_set_self there, transformer?_step sound,
    kept, Option.bind_eq_bind, Option.bind_some]
  rfl

/-- A call leaves a sound family. -/
theorem Sound.step (index : Nat) (call : Call) : (family.step index call).2.Sound := by
  rcases step_cases sound index call with ⟨_, same⟩ | ⟨member, dumper, found, _, stepped⟩
  · rw [same]
    exact sound
  · have there := List.mem_of_getElem? found
    refine ⟨stepped.sound, ?_, ?_⟩
    · intro other among
      rw [stepped.members] at among
      rcases List.mem_or_eq_of_mem_set among with before | rfl
      · exact sound.plain other before
      · exact sound.plain member there
    · intro other among
      rw [stepped.members] at among
      rcases List.mem_or_eq_of_mem_set among with before | rfl
      · exact sound.settled other before
      · cases came : call.result dumper.transformer member.encoding member.binding with
        | error fault => exact sound.settled member there
        | ok next => exact (Call.keeps came).2 (sound.settled member there)

end Step

section Add

variable {family : Family}

/-- A member is added where the encoding passes its check. -/
theorem add_of_checked {number : Nat} {dumper : Dumper}
    (held : family.dumpers[number]? = some dumper) {encoding : String}
    (checked : Ground.checkedEncoding ⟨family.converter, dumper⟩ = .ok encoding)
    (variant : Variant) :
    family.add variant number = (.ok family.members.length,
      { family with members := family.members ++ [⟨.fresh variant, encoding, number⟩] }) := by
  simp only [add, held, checked]

/-- A member is added if there is a transformer for it and an encoding that selects a codec. -/
theorem add_cases (family : Family) (variant : Variant) (number : Nat) :
    (∃ fault, family.add variant number = (.error fault, family)) ∨
      ∃ dumper encoding, family.dumpers[number]? = some dumper ∧
        Ground.checkedEncoding ⟨family.converter, dumper⟩ = .ok encoding ∧
        family.add variant number = (.ok family.members.length,
          { family with members := family.members ++ [⟨.fresh variant, encoding, number⟩] }) := by
  cases held : family.dumpers[number]? with
  | none => exact .inl ⟨.range "no such transformer", by simp only [add, held]⟩
  | some dumper =>
      cases checked : Ground.checkedEncoding ⟨family.converter, dumper⟩ with
      | error fault => exact .inl ⟨fault, by simp only [add, held, checked]⟩
      | ok encoding =>
          exact .inr ⟨dumper, encoding, rfl, checked, add_of_checked held checked variant⟩

/-- No encoding that passes its check has a NUL in it. -/
theorem nul_not_mem_of_checkedEncoding {ground : Ground} {encoding : String}
    (checked : ground.checkedEncoding = .ok encoding) : '\x00' ∉ encoding.toList := by
  obtain ⟨codec, selected, same⟩ := Outcome.map_eq_ok.mp (Outcome.mapError_eq_ok.mp checked)
  rw [← same]
  exact Text.Codec.nul_not_mem_of_ofName? (Encoding.codec_eq_ok.mp selected)

/-- The encoding of a text transformer passes its check if it has a codec. -/
theorem checkedEncoding_text {encoding : String} {codec : Text.Codec}
    (selected : Encoding.codec encoding = .ok codec) (converter : Converter)
    (described : Option Description) :
    Ground.checkedEncoding ⟨converter, ⟨.text encoding, described⟩⟩ = .ok encoding := by
  have settled : Ground.encoding ⟨converter, ⟨.text encoding, described⟩⟩ = encoding := rfl
  rw [Ground.checkedEncoding, settled, selected]
  rfl

/-- A new binding is settled. -/
theorem settled_fresh (variant : Variant) : (Binding.fresh variant).Settled := by
  cases variant <;> exact nofun

/-- Adding a member leaves a sound family. -/
theorem Sound.add (sound : family.Sound) (variant : Variant) (number : Nat) :
    (family.add variant number).2.Sound := by
  rcases add_cases family variant number with ⟨fault, refused⟩ | ⟨_, encoding, _, checked, added⟩
  · rw [refused]
    exact sound
  · rw [added]
    refine ⟨sound.converter, ?_, ?_⟩
    · intro member among
      rcases List.mem_append.mp among with before | new
      · exact sound.plain member before
      · rw [List.mem_singleton.mp new]
        exact nul_not_mem_of_checkedEncoding checked
    · intro member among
      rcases List.mem_append.mp among with before | new
      · exact sound.settled member before
      · rw [List.mem_singleton.mp new]
        exact settled_fresh variant

private theorem getElem?_append_of_eq_some {α : Type} {xs : List α} {i : Nat} {x : α}
    (found : xs[i]? = some x) (more : List α) : (xs ++ more)[i]? = some x := by
  rw [List.getElem?_append_left (List.getElem?_eq_some_iff.mp found).1]
  exact found

private theorem view_append {index : Nat} {view : View} (shown : family.view index = some view)
    (dumpers : List Dumper) (members : List Member) :
    ({ family with dumpers := family.dumpers ++ dumpers
                   members := family.members ++ members } : Family).view index = some view := by
  obtain ⟨member, dumper, found, held, rfl⟩ := view_eq_some_iff.mp shown
  apply view_eq_some_iff.mpr
  exact ⟨member, dumper, getElem?_append_of_eq_some found _, getElem?_append_of_eq_some held _, rfl⟩

private theorem view_add {index : Nat} {view : View} (shown : family.view index = some view)
    (variant : Variant) (number : Nat) :
    (family.add variant number).2.view index = some view := by
  rcases add_cases family variant number with ⟨fault, refused⟩ | ⟨_, encoding, _, _, added⟩
  · rw [refused]
    exact shown
  · rw [added]
    have kept := view_append shown [] [⟨.fresh variant, encoding, number⟩]
    rw [List.append_nil] at kept
    exact kept

/-- A new member shows the binding before its first call. -/
theorem view_of_add {variant : Variant} {number index : Nat} {made : Family} {dumper : Dumper}
    (held : family.dumpers[number]? = some dumper)
    (added : family.add variant number = (.ok index, made)) :
    ∃ encoding, Ground.checkedEncoding ⟨family.converter, dumper⟩ = .ok encoding ∧
      made.view index = some ⟨.fresh variant, encoding, dumper.transformer⟩ := by
  rcases add_cases family variant number with ⟨_, refused⟩ | ⟨_, encoding, there, checked, adds⟩
  · rw [refused] at added
    cases added
  · rw [adds] at added
    cases added
    cases held.symm.trans there
    refine ⟨encoding, checked, ?_⟩
    exact view_eq_some_iff.mpr ⟨_, dumper, List.getElem?_concat_length, held, rfl⟩

end Add

section Run

variable {family : Family} (sound : family.Sound)

include sound

/-- Responding to an event leaves a sound family. -/
theorem Sound.respond (event : Event) : (family.respond event).2.Sound := by
  cases event with
  | transformer transformer => exact ⟨sound.converter, sound.plain, sound.settled⟩
  | member variant number => exact sound.add variant number
  | call index call => exact sound.step index call

/-- What a member shows changes in its own calls only. -/
theorem view_respond {index : Nat} {view : View} (shown : family.view index = some view)
    (event : Event) :
    (family.respond event).2.view index = some ((event.callOn index).elim view view.next) := by
  cases event with
  | transformer transformer =>
      have kept := view_append shown [⟨transformer, none⟩] []
      rw [List.append_nil] at kept
      exact kept
  | member variant number => exact view_add shown variant number
  | call target call =>
      by_cases same : target = index
      · subst same
        rw [Event.callOn, if_pos rfl]
        exact (view_step sound shown call).2
      · rw [Event.callOn, if_neg same]
        exact (view_step_of_ne sound same call).trans shown

/-- What is recorded of a call is what the view records. -/
theorem record?_eq {index : Nat} {view : View} (shown : family.view index = some view)
    (call : Call) : family.record? index call = some (view.record call) := by
  obtain ⟨outcome, left⟩ := view_step sound shown call
  simp only [record?, outcome, binding?_of_view left, Option.bind_eq_bind, Option.bind_some]
  rfl

/-- A run leaves a sound family. -/
theorem Sound.run (events : List Event) : (family.run events).2.Sound := by
  induction events generalizing family with
  | nil => exact sound
  | cons event rest ih => exact ih (sound.respond event)

/-- **The history of a member is its own.** What its calls come to, and what it shows behind any
events, can be told from what it showed before and from its own calls. -/
theorem history_eq {index : Nat} {view : View} (shown : family.view index = some view)
    (events : List Event) :
    family.history index events = view.records (callsOn index events) ∧
      (family.run events).2.view index = some ((callsOn index events).foldl View.next view) := by
  -- What the member shows is carried along; calls on other members leave it as it is.
  induction events generalizing family view with
  | nil => exact ⟨rfl, shown⟩
  | cons event rest ih =>
      obtain ⟨records, last⟩ := ih (sound.respond event) (view_respond sound shown event)
      unfold callsOn at records last ⊢
      cases own : event.callOn index with
      | none =>
          rw [own] at records last
          rw [List.filterMap_cons_none own]
          refine ⟨?_, last⟩
          rw [history, own]
          exact records
      | some call =>
          rw [own] at records last
          rw [List.filterMap_cons_some own]
          refine ⟨?_, last⟩
          rw [history, own, Option.bind_some, record?_eq sound shown]
          exact congrArg (view.record call :: ·) records

end Run

/-- A family that came about in a run over a converter whose caches had been empty. -/
def Reachable (family : Family) : Prop :=
  ∃ (start : Converter) (events : List Event), start.Used ∧
    family = (run { converter := start } events).2

/-- Whatever can be reached is sound. -/
theorem Reachable.sound {family : Family} (reachable : family.Reachable) : family.Sound := by
  obtain ⟨start, events, used, rfl⟩ := reachable
  have empty : Sound { converter := start } := ⟨used.sound, nofun, nofun⟩
  exact empty.run events

/-- What is reached by a run can be reached. -/
theorem Reachable.run {family : Family} (reachable : family.Reachable) (events : List Event) :
    (family.run events).2.Reachable := by
  obtain ⟨start, before, used, rfl⟩ := reachable
  exact ⟨start, before ++ events, used, (run_append _ before events).symm⟩

/-- What is reached by adding a member can be reached. -/
theorem Reachable.add {family made : Family} (reachable : family.Reachable) {variant : Variant}
    {number index : Nat} (added : family.add variant number = (.ok index, made)) :
    made.Reachable := by
  have next := reachable.run [.member variant number]
  rw [run_cons, Family.respond, added] at next
  exact next

section Alone

/-- A family of one bound query. -/
def alone (converter : Converter) (transformer : Transformer) (variant : Variant) :
    Except Fault Nat × Family :=
  Family.add { converter, dumpers := [⟨transformer, none⟩] } variant 0

/-- A bound query on its own is a family of one member. -/
theorem alone_of_checked {own : Converter} {transformer : Transformer} {encoding : String}
    (checked : Ground.checkedEncoding ⟨own, ⟨transformer, none⟩⟩ = .ok encoding)
    (variant : Variant) :
    alone own transformer variant =
      (.ok 0, ⟨own, [⟨transformer, none⟩], [⟨.fresh variant, encoding, 0⟩]⟩) := by
  have held : ([⟨transformer, none⟩] : List Dumper)[0]? = some ⟨transformer, none⟩ := rfl
  simp only [alone, add, held, checked, List.length_nil, List.nil_append]

/-- A bound query on its own can be reached. -/
theorem reachable_alone {own : Converter} (used : own.Used) {transformer : Transformer}
    {variant : Variant} {apart : Family} (adds : alone own transformer variant = (.ok 0, apart)) :
    apart.Reachable := by
  have start : Reachable { converter := own, dumpers := [⟨transformer, none⟩] } :=
    ⟨own, [.transformer transformer], used, rfl⟩
  exact start.add adds

/-- The calls on a member among calls on it alone are all of them. -/
theorem callsOn_map (index : Nat) (calls : List Call) :
    callsOn index (calls.map (.call index)) = calls := by
  unfold callsOn
  rw [List.filterMap_map]
  have own : (Event.callOn index ∘ Event.call index) = some := by
    funext call
    exact if_pos rfl
  rw [own, List.filterMap_some]

/-- The check of an encoding depends on the transformer and the configuration alone. -/
theorem checkedEncoding_congr {ground other : Ground}
    (transformer : ground.dumper.transformer = other.dumper.transformer)
    (config : ground.converter.config = other.converter.config) :
    ground.checkedEncoding = other.checkedEncoding := by
  unfold Ground.checkedEncoding Ground.encoding
  rw [transformer, config]

/-- A member that was made in a family can be made alone, and shows the same. -/
theorem exists_alone {family made : Family} (reachable : family.Reachable) {own : Converter}
    (used : own.Used) (config : own.config = family.converter.config) {variant : Variant}
    {number index : Nat} {dumper : Dumper} (held : family.dumpers[number]? = some dumper)
    (added : family.add variant number = (.ok index, made)) :
    ∃ apart encoding, alone own dumper.transformer variant = (.ok 0, apart) ∧ apart.Sound ∧
      made.Sound ∧ made.view index = some ⟨.fresh variant, encoding, dumper.transformer⟩ ∧
      apart.view 0 = some ⟨.fresh variant, encoding, dumper.transformer⟩ := by
  obtain ⟨encoding, checked, shown⟩ := view_of_add held added
  have same : Ground.checkedEncoding ⟨own, { transformer := dumper.transformer }⟩ =
      Ground.checkedEncoding ⟨family.converter, dumper⟩ := by
    apply checkedEncoding_congr
    · rfl
    · exact config
  rw [checked] at same
  have adds := alone_of_checked same variant
  refine ⟨_, encoding, adds, (reachable_alone used adds).sound, (reachable.add added).sound, shown,
    ?_⟩
  exact view_eq_some_iff.mpr ⟨_, _, rfl, rfl, rfl⟩

end Alone

end QueryBind.Family
