import QueryBind.Proofs.Binding.Histories

/-! # Bound queries do not disturb one another

Members of a family share a converter and may share a transformer. What a member goes through is all
the same what it would go through in a family of its own (`Family.history_eq_alone`).
-/

namespace QueryBind.Family

/-- **Bound queries are isolated.** A member is made in a family, and anything happens to the family
afterwards. Each call on the member has an outcome, and outcomes and bindings are those of the same
calls on a bound query that is made over a converter with the same configuration and a transformer
of its own. -/
theorem history_eq_alone {family made : Family} (reachable : family.Reachable) {own : Converter}
    (used : own.Used) (config : own.config = family.converter.config) {variant : Variant}
    {number index : Nat} {dumper : Dumper} (held : family.dumpers[number]? = some dumper)
    (added : family.add variant number = (.ok index, made)) (events : List Event) :
    ∃ apart, alone own dumper.transformer variant = (.ok 0, apart) ∧
      (made.history index events).map (·.call) = callsOn index events ∧
      made.history index events = apart.history 0 ((callsOn index events).map (.call 0)) ∧
      (made.run events).2.binding? index =
        (apart.run ((callsOn index events).map (.call 0))).2.binding? 0 := by
  obtain ⟨apart, encoding, adds, apartSound, madeSound, shown, shownApart⟩ :=
    exists_alone reachable used config held added
  obtain ⟨records, last⟩ := history_eq madeSound shown events
  obtain ⟨recordsApart, lastApart⟩ :=
    history_eq apartSound shownApart ((callsOn index events).map (.call 0))
  rw [callsOn_map] at recordsApart lastApart
  refine ⟨apart, adds, ?_, records.trans recordsApart.symm, ?_⟩
  · rw [records, View.map_call_records]
  · rw [binding?_of_view last, binding?_of_view lastApart]

/-- Two members over one transformer, which push each other's query out of caches for one; the other
one is called in between, with success and without. -/
theorem history_eq_alone_of_one_place :
    let own : Converter := ⟨.standard, { capacity := .int 1 }, { capacity := .int 1 }, {}⟩
    let family : Family := ⟨own, [⟨.text "utf8", none⟩], [⟨.server {}, "utf8", 0⟩]⟩
    let made : Family := ⟨own, [⟨.text "utf8", none⟩],
      [⟨.server {}, "utf8", 0⟩, ⟨.server {}, "utf8", 0⟩]⟩
    let asked : List Call := [.convert (.text "a = %s") (.list [.bool true]),
      .dump (.list []), .dump (.list [.text "b"])]
    let events : List Event := [.call 0 (.convert (.text "c = %(d)s") (.record [("d", .null)])),
      .call 1 (.convert (.text "a = %s") (.list [.bool true])), .call 0 (.dump (.list [.null])),
      .member .client 0, .call 2 (.convert (.text "%s, %s") (.list [.text "e", .null])),
      .call 1 (.dump (.list [])), .call 2 (.dump .null), .call 1 (.dump (.list [.text "b"]))]
    family.Reachable ∧ own.Used ∧ family.add .server 0 = (.ok 1, made) ∧
      ∃ apart, alone own (.text "utf8") .server = (.ok 0, apart) ∧
        (made.history 1 events).map (·.call) = asked ∧
        made.history 1 events = apart.history 0 (asked.map (.call 0)) ∧
        (made.run events).2.binding? 1 = (apart.run (asked.map (.call 0))).2.binding? 0 := by
  intro own family made asked events
  have used : own.Used := ⟨own, [], rfl, rfl, nofun, rfl⟩
  have selected : Encoding.codec "utf8" = .ok .utf8 := Encoding.codec_name .utf8
  have checked := checkedEncoding_text selected own none
  have reachable : family.Reachable := reachable_alone used (alone_of_checked checked .server)
  have added : family.add .server 0 = (.ok 1, made) := by
    simp [family, add, checked, Binding.fresh, made]
  have isolated := history_eq_alone reachable used rfl rfl added events
  have mine : callsOn 1 events = asked := rfl
  rw [mine] at isolated
  exact ⟨reachable, used, added, isolated⟩

end QueryBind.Family
