import Mathlib
import QueryBind.Proofs.Binding.Histories

/-! # Calls that fail

A call that fails leaves every member of its family and every transformer as they were. What it may
change is a cache, and that does not show: families that differ in their caches at most answer alike
(`Family.Alike.run`), so nothing that happens later depends on the call (`Family.run_of_failed`).
-/

namespace QueryBind.Family

/-- Families that differ in their caches at most. -/
structure Alike (family other : Family) : Prop where
  members : family.members = other.members
  dumpers : family.dumpers = other.dumpers
  config : family.converter.config = other.converter.config

section Alike

variable {family other : Family}

private theorem Alike.view (alike : family.Alike other) (index : Nat) :
    family.view index = other.view index := by
  unfold Family.view transformer?
  rw [alike.members, alike.dumpers]

/-- Families that are alike answer a call alike, and stay alike. -/
theorem Alike.step (alike : family.Alike other) (sound : family.Sound) (soundToo : other.Sound)
    (index : Nat) (call : Call) :
    (family.step index call).1 = (other.step index call).1 ∧
      (family.step index call).2.Alike (other.step index call).2 := by
  rcases step_cases sound index call with ⟨absent, same⟩ | ⟨member, dumper, found, held, stepped⟩
  · rw [alike.view index] at absent
    rw [same, step_of_view_eq_none absent]
    exact ⟨rfl, alike⟩
  · rw [alike.members] at found
    rw [alike.dumpers] at held
    have steppedToo := Family.stepped soundToo found held call
    refine ⟨stepped.outcome.trans steppedToo.outcome.symm, ?_, ?_, ?_⟩
    · rw [stepped.members, steppedToo.members, alike.members]
    · rw [stepped.dumpers, steppedToo.dumpers, alike.dumpers]
    · rw [stepped.config, steppedToo.config, alike.config]

/-- Families that are alike add a member alike, and stay alike. -/
theorem Alike.add (alike : family.Alike other) (variant : Variant) (number : Nat) :
    (family.add variant number).1 = (other.add variant number).1 ∧
      (family.add variant number).2.Alike (other.add variant number).2 := by
  cases held : other.dumpers[number]? with
  | none =>
      have heldToo := alike.dumpers ▸ held
      simp only [Family.add, held, heldToo]
      exact ⟨trivial, alike⟩
  | some dumper =>
      have heldToo := alike.dumpers ▸ held
      have same : Ground.checkedEncoding ⟨family.converter, dumper⟩ =
          Ground.checkedEncoding ⟨other.converter, dumper⟩ := by
        apply checkedEncoding_congr
        · rfl
        · exact alike.config
      simp only [Family.add, held, heldToo, same]
      cases Ground.checkedEncoding ⟨other.converter, dumper⟩ with
      | error fault => exact ⟨rfl, alike⟩
      | ok encoding =>
          simp only [alike.members]
          exact ⟨trivial, rfl, alike.dumpers, alike.config⟩

/-- Families that are alike respond to any event alike, and stay alike. -/
theorem Alike.respond (alike : family.Alike other) (sound : family.Sound) (soundToo : other.Sound)
    (event : Event) :
    (family.respond event).1 = (other.respond event).1 ∧
      (family.respond event).2.Alike (other.respond event).2 := by
  cases event with
  | transformer transformer =>
      refine ⟨congrArg Reply.transformer (congrArg List.length alike.dumpers), alike.members, ?_,
        alike.config⟩
      exact congrArg (· ++ [⟨transformer, none⟩]) alike.dumpers
  | member variant number =>
      obtain ⟨reply, left⟩ := alike.add variant number
      exact ⟨congrArg Reply.member reply, left⟩
  | call index call =>
      obtain ⟨reply, left⟩ := alike.step sound soundToo index call
      exact ⟨congrArg Reply.call reply, left⟩

/-- Caches do not show in any run. -/
theorem Alike.run (alike : family.Alike other) (sound : family.Sound) (soundToo : other.Sound)
    (events : List Event) :
    (family.run events).1 = (other.run events).1 ∧
      (family.run events).2.Alike (other.run events).2 := by
  induction events generalizing family other with
  | nil => exact ⟨rfl, alike⟩
  | cons event rest ih =>
      obtain ⟨reply, left⟩ := alike.respond sound soundToo event
      obtain ⟨replies, last⟩ := ih left (sound.respond event) (soundToo.respond event)
      rw [run_cons, run_cons, reply, replies]
      exact ⟨rfl, last⟩

end Alike

private theorem set_of_getElem?_eq_some {α : Type} {xs : List α} {i : Nat} {x : α}
    (found : xs[i]? = some x) : xs.set i x = xs := by
  obtain ⟨there, rfl⟩ := List.getElem?_eq_some_iff.mp found
  exact List.set_getElem_self there

/-- A call that fails changes a cache at most. -/
theorem alike_of_failed {family : Family} (sound : family.Sound) {index : Nat} {call : Call}
    {fault : Fault} (failed : (family.step index call).1 = some (.error fault)) :
    (family.step index call).2.Alike family := by
  rcases step_cases sound index call with ⟨_, same⟩ | ⟨member, dumper, found, held, stepped⟩
  · rw [same] at failed
    cases failed
  · have outcome := stepped.outcome
    rw [failed] at outcome
    cases came : call.result dumper.transformer member.encoding member.binding with
    | ok next =>
        rw [came] at outcome
        cases outcome
    | error refused =>
        -- Member and transformer are put back into the places that they were taken from.
        rw [came] at stepped
        refine ⟨?_, ?_, stepped.config⟩
        · rw [stepped.members]
          exact set_of_getElem?_eq_some found
        · rw [stepped.dumpers]
          exact set_of_getElem?_eq_some held

/-- **A failing call changes nothing.** Behind a call that fails all members, with the queries that
they bind to, and all descriptions are as before, and whatever happens later happens as if the call
had not been made. -/
theorem run_of_failed {family left : Family} (reachable : family.Reachable) {index : Nat}
    {call : Call} {fault : Fault}
    (failed : family.step index call = (some (.error fault), left)) :
    left.members = family.members ∧ left.dumpers = family.dumpers ∧
      ∀ later : List Event, (left.run later).1 = (family.run later).1 ∧
        (left.run later).2.members = (family.run later).2.members ∧
        (left.run later).2.dumpers = (family.run later).2.dumpers := by
  have sound := reachable.sound
  have soundToo := sound.step index call
  have alike := alike_of_failed sound (congrArg Prod.fst failed)
  rw [failed] at soundToo alike
  refine ⟨alike.members, alike.dumpers, ?_⟩
  intro later
  obtain ⟨replies, last⟩ := alike.run soundToo sound later
  exact ⟨replies, last.members, last.dumpers⟩

/-- The second value has no binary form. That comes out when the new query has pushed the bound one
out of a cache for one, and the first value has been dumped. -/
theorem run_of_failed_of_second_value :
    let converter : Converter := ⟨.standard, { capacity := .int 1 }, { capacity := .int 1 }, {}⟩
    let made : Family := ⟨converter, [⟨.text "utf8", none⟩], [⟨.server {}, "utf8", 0⟩]⟩
    let first : Call := .convert (.text "a = %s") (.list [.text "b"])
    let family := (made.run [.call 0 first]).2
    let call : Call := .convert (.text "%s, %b") (.list [.null, .bool true])
    let fault : Fault := QueryError.conversion (.noBinaryForm "boolean" 2)
    family.Reachable ∧ family.binding? 0 = some (.server ⟨[0x61, 0x20, 0x3D, 0x20, 0x24, 0x31],
        some [some [0x62]], [0], some [.text], some ⟨[0x61, 0x20, 0x3D, 0x20, 0x24, 0x31], [.auto],
          none, ⟨[⟨[0x61, 0x20, 0x3D, 0x20], .position 0, .auto⟩], []⟩⟩⟩) ∧
      ∃ left, family.step 0 call = (some (.error fault), left) ∧
        left.members = family.members ∧ left.dumpers = family.dumpers ∧
        ∀ later : List Event, (left.run later).1 = (family.run later).1 ∧
          (left.run later).2.members = (family.run later).2.members ∧
          (left.run later).2.dumpers = (family.run later).2.dumpers := by
  intro converter made first family call fault
  have used : converter.Used := ⟨converter, [], rfl, rfl, nofun, rfl⟩
  have selected : Encoding.codec "utf8" = .ok .utf8 := Encoding.codec_name .utf8
  have checked := checkedEncoding_text selected converter none
  have began : made.Reachable := reachable_alone used (alone_of_checked checked .server)
  have reachable : family.Reachable := began.run _
  have shown : made.view 0 = some ⟨.server {}, "utf8", .text "utf8"⟩ := rfl
  have bound := (history_eq began.sound shown [.call 0 first]).2
  have own : callsOn 0 [.call 0 first] = [first] := rfl
  rw [own, List.foldl_cons, List.foldl_nil] at bound
  have refused : View.result (View.next ⟨.server {}, "utf8", .text "utf8"⟩ first) call =
      .error fault := by cbv
  have failed := (view_step reachable.sound bound call).1
  rw [refused] at failed
  refine ⟨reachable, ?_, ?_⟩
  · rw [binding?_of_view bound]
    cbv
  · cases stepped : family.step 0 call with
    | mk outcome left =>
        rw [stepped] at failed
        cases failed
        exact ⟨left, rfl, run_of_failed reachable stepped⟩

end QueryBind.Family
