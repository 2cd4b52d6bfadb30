import Mathlib
import QueryBind.Proofs.Outcome
import QueryBind.Proofs.Statement.Agreement

/-! # Numbered placeholders

How the placeholders of a query come by their markers. The first placeholder that asks for another
format than the first one with its key ends the numbering (`Assignment.extend_eq_error_iff`), and
nothing else does. Positional placeholders have keys of their own, so they are numbered in order;
named ones are numbered by the first occurrences of their names, and the number of a placeholder
leads to its own name and format (`ServerQuery.ofBytes_numbers`).
-/

namespace QueryBind

/-- The first placeholder with the same key asks for another format. -/
def Slot.Clashes (front : List (Key × Format)) (slot : Slot) : Prop :=
  ∃ format, front.lookup slot.key = some format ∧ format ≠ slot.format

/-- The earliest placeholder that clashes with those in front of it, some lying in front of all. -/
def Slot.ClashesFirst (front : List (Key × Format)) (slots : List Slot) (slot : Slot) : Prop :=
  ∃ before after, slots = before ++ slot :: after ∧ slot.Clashes (front ++ before.map demand) ∧
    ∀ earlier other later, before = earlier ++ other :: later →
      ¬ other.Clashes (front ++ earlier.map demand)

namespace Slot

variable {front other : List (Key × Format)} {head slot : Slot} {rest : List Slot}

private theorem not_clashesFirst_nil : ¬ ClashesFirst front [] slot := by
  rintro ⟨before, after, split, _⟩
  cases before <;> cases split

/-- The first clash is at the head or behind it. -/
theorem clashesFirst_cons_iff :
    ClashesFirst front (head :: rest) slot ↔
      (head.Clashes front ∧ slot = head) ∨
        (¬ head.Clashes front ∧ ClashesFirst (front ++ [head.demand]) rest slot) := by
  constructor
  · rintro ⟨before, after, split, clashes, earliest⟩
    cases before with
    | nil =>
        obtain ⟨rfl, rfl⟩ := List.cons.inj split
        exact .inl ⟨by simpa using clashes, rfl⟩
    | cons first before =>
        obtain ⟨rfl, rfl⟩ := List.cons.inj split
        refine .inr ⟨?_, before, after, rfl, ?_, ?_⟩
        · simpa using earliest [] head before rfl
        · rw [List.append_assoc]
          exact clashes
        · rintro earlier another later rfl
          rw [List.append_assoc]
          exact earliest (head :: earlier) another later rfl
  · rintro (⟨clashes, rfl⟩ | ⟨sound, before, after, rfl, clashes, earliest⟩)
    · refine ⟨[], rest, rfl, by simpa using clashes, ?_⟩
      intro earlier another later split
      cases earlier <;> cases split
    · refine ⟨head :: before, after, rfl, ?_, ?_⟩
      · rw [List.append_assoc] at clashes
        exact clashes
      · intro earlier another later split
        cases earlier with
        | nil =>
            obtain ⟨rfl, _⟩ := List.cons.inj split
            simpa using sound
        | cons first earlier =>
            obtain ⟨rfl, behind⟩ := List.cons.inj split
            have apart := earliest earlier another later behind
            rw [List.append_assoc] at apart
            exact apart

/-- Only the first format of every key counts. -/
theorem clashesFirst_congr (same : ∀ key, front.lookup key = other.lookup key) :
    ClashesFirst front rest slot ↔ ClashesFirst other rest slot := by
  have lookups : ∀ (more : List (Key × Format)) (key : Key),
      (front ++ more).lookup key = (other ++ more).lookup key := by
    intro more key
    rw [List.lookup_append, List.lookup_append, same]
  simp only [ClashesFirst, Clashes, lookups]

end Slot

namespace Assignment

private theorem find?_eq_lookup (key : Key) (number : Nat) (entries : List (Key × Format)) :
    (find? key number entries).map Prod.snd = entries.lookup key := by
  induction entries generalizing number with
  | nil => rfl
  | cons entry rest ih =>
      obtain ⟨known, format⟩ := entry
      rw [find?, List.lookup_cons]
      by_cases same : known = key
      · simp [same]
      · have other : (key == known) = false := beq_false_of_ne (Ne.symm same)
        simp [same, other, ih]

private theorem find?_of_not_mem {key : Key} {known : List (Key × Format)}
    (fresh : key ∉ known.map Prod.fst) (number : Nat) : find? key number known = none := by
  rw [Option.eq_none_iff_forall_ne_some]
  rintro ⟨marker, format⟩ found
  exact fresh (List.mem_map.mpr ⟨_, List.mem_of_getElem? (find?_eq_some found).2, rfl⟩)

/-- A key that is known keeps its first format. -/
theorem lookup_append_demand {known : List (Key × Format)} {slot : Slot} {format : Format}
    (found : known.lookup slot.key = some format) (key : Key) :
    (known ++ [slot.demand]).lookup key = known.lookup key := by
  rw [List.lookup_append, Slot.demand, List.lookup_cons, List.lookup_nil]
  by_cases same : key = slot.key
  · rw [same, found, Option.some_or]
  · rw [beq_false_of_ne same, Option.or_none]

/-- **The numbering fails at the earliest clash,** and at nothing else. -/
theorem extend_eq_error_iff {known : List (Key × Format)} {slots : List Slot}
    {error : QueryError} :
    extend known slots = .error error ↔
      ∃ slot, Slot.ClashesFirst known slots slot ∧ error = .conflictingFormat slot.key.text := by
  induction slots generalizing known with
  | nil => simp [extend, Slot.not_clashesFirst_nil]
  | cons head rest ih =>
      have looked := find?_eq_lookup head.key 1 known
      simp only [Slot.clashesFirst_cons_iff, extend]
      cases found : find? head.key 1 known with
      | none =>
          rw [found, Option.map_none] at looked
          have sound : ¬ head.Clashes known := by
            rintro ⟨format, there, _⟩
            cases looked.trans there
          simp only [Outcome.map_eq_error, ih, sound, false_and, false_or, not_false_eq_true,
            true_and]
          rfl
      | some held =>
          obtain ⟨marker, format⟩ := held
          rw [found, Option.map_some] at looked
          by_cases same : format = head.format
          · have sound : ¬ head.Clashes known := by
              rintro ⟨other, there, different⟩
              exact different ((Option.some.inj (looked.trans there)).symm.trans same)
            simp only [same, if_true, Outcome.map_eq_error, ih, sound, false_and, false_or,
              not_false_eq_true, true_and,
              Slot.clashesFirst_congr (lookup_append_demand looked.symm)]
          · have clashes : head.Clashes known := ⟨format, looked.symm, same⟩
            simp only [same, if_false, clashes, true_and, not_true_eq_false, false_and, or_false,
              exists_eq_left, Except.error.injEq]
            exact eq_comm

/-- A placeholder's key and format are those of a marker. -/
theorem demand_mem_entries {slots : List Slot} {assigned : Assignment}
    (success : ofSlots slots = .ok assigned) {slot : Slot} (member : slot ∈ slots) :
    slot.demand ∈ assigned.entries := by
  have led := forall₂_markers success
  obtain ⟨position, bound, rfl⟩ := List.getElem_of_mem member
  exact List.mem_of_getElem? (led.get bound (led.length_eq ▸ bound)).2

/-- A placeholder that clashes is preceded by one with its key and another format. -/
theorem exists_twin {slots : List Slot} {slot : Slot}
    (clashes : Slot.ClashesFirst [] slots slot) :
    slot ∈ slots ∧ ∃ first ∈ slots, first.key = slot.key ∧ first.format ≠ slot.format := by
  obtain ⟨before, after, rfl, ⟨format, found, different⟩, _⟩ := clashes
  rw [List.nil_append] at found
  obtain ⟨_, _, split, _⟩ := List.lookup_eq_some_iff.mp found
  have among : (slot.key, format) ∈ before.map Slot.demand := by
    rw [split]
    exact List.mem_append_right _ List.mem_cons_self
  obtain ⟨first, member, same⟩ := List.mem_map.mp among
  obtain ⟨sameKey, rfl⟩ := Prod.mk.inj same
  exact ⟨List.mem_append_right _ List.mem_cons_self, first, List.mem_append_left _ member,
    sameKey, different⟩

/-- Two placeholders with one key and two formats make some placeholder clash. -/
theorem exists_clashesFirst {slots : List Slot} {first second : Slot} (firstThere : first ∈ slots)
    (secondThere : second ∈ slots) (sameKey : first.key = second.key)
    (different : first.format ≠ second.format) : ∃ slot, Slot.ClashesFirst [] slots slot := by
  cases came : ofSlots slots with
  | error error =>
      obtain ⟨slot, clashes, _⟩ := extend_eq_error_iff.mp came
      exact ⟨slot, clashes⟩
  | ok assigned =>
      have equal := List.inj_on_of_nodup_map (nodup_ofSlots came)
        (demand_mem_entries came firstThere) (demand_mem_entries came secondThere) sameKey
      exact absurd (congrArg Prod.snd equal) different

/-- Placeholders that all have keys of their own are numbered in order. -/
theorem extend_of_nodup {known : List (Key × Format)} {slots : List Slot}
    (distinct : (known.map Prod.fst ++ slots.map (·.key)).Nodup) :
    extend known slots = .ok ⟨List.range' (known.length + 1) slots.length,
      known ++ slots.map Slot.demand⟩ := by
  induction slots generalizing known with
  | nil => simp [extend]
  | cons head rest ih =>
      have fresh : head.key ∉ known.map Prod.fst := by
        intro member
        exact (List.nodup_append.mp distinct).2.2 _ member _ List.mem_cons_self rfl
      have later : ((known ++ [head.demand]).map Prod.fst ++ rest.map (·.key)).Nodup := by
        rw [List.map_append, List.append_assoc]
        exact distinct
      have tail := ih later
      rw [List.length_append, List.append_assoc] at tail
      rw [extend, find?_of_not_mem fresh]
      change (extend (known ++ [head.demand]) rest).map _ = _
      rw [tail]
      rfl

end Assignment

namespace Scan

variable {scan : Scan}

/-- A query has placeholders with names, or no two of its placeholders have one key. -/
theorem Keyed.names_or_nodup {style : Style} (keyed : scan.Keyed style) :
    (scan.isNamed = true ∧ ∃ names : List String, scan.keys = names.map Key.name) ∨
      (scan.isNamed = false ∧ scan.keys.Nodup) := by
  rcases keyed.kinds with ⟨empty, unnamed, _⟩ | ⟨keyed, named, _⟩ | ⟨keyed, unnamed, _⟩
  · exact .inr ⟨unnamed, empty ▸ List.nodup_nil⟩
  · refine .inl ⟨named, scan.keys.map Key.text, ?_⟩
    rw [List.map_map]
    refine (List.map_id _).symm.trans (List.map_congr_left fun key member => ?_)
    obtain ⟨name, rfl⟩ := keyed.exists_name member
    rfl
  · exact .inr ⟨unnamed, keyed.nodup_keys⟩

private theorem ofSlots_of_nodup (distinct : scan.keys.Nodup) :
    Assignment.ofSlots scan.slots =
      .ok ⟨List.range' 1 scan.count, scan.slots.map Slot.demand⟩ := by
  have apart : (([] : List (Key × Format)).map Prod.fst ++ scan.slots.map (·.key)).Nodup := distinct
  exact Assignment.extend_of_nodup apart

/-- Two placeholders have one name and different formats. -/
def Conflicting (scan : Scan) : Prop :=
  ∃ first ∈ scan.slots, ∃ second ∈ scan.slots, ∃ name, first.key = .name name ∧
    second.key = .name name ∧ first.format ≠ second.format

/-- Only placeholders with names have one key and two formats. -/
theorem Keyed.exists_name_of_same {style : Style} (keyed : scan.Keyed style) {first second : Slot}
    (firstThere : first ∈ scan.slots) (secondThere : second ∈ scan.slots)
    (sameKey : first.key = second.key) (different : first.format ≠ second.format) :
    ∃ name, first.key = .name name ∧ second.key = .name name := by
  rcases keyed.names_or_nodup with ⟨_, names, listed⟩ | ⟨_, distinct⟩
  · have member : first.key ∈ names.map Key.name := listed ▸ List.mem_map_of_mem firstThere
    obtain ⟨name, _, same⟩ := List.mem_map.mp member
    exact ⟨name, same.symm, sameKey.symm.trans same.symm⟩
  · have equal := List.inj_on_of_nodup_map distinct firstThere secondThere sameKey
    exact absurd (congrArg Slot.format equal) different

/-- A clash is one of a name that is used in two formats. -/
theorem Keyed.conflict_of_clash {style : Style} (keyed : scan.Keyed style) {slot : Slot}
    (clashes : Slot.ClashesFirst [] scan.slots slot) :
    scan.Conflicting ∧ ∃ name, slot.key = .name name := by
  obtain ⟨there, first, firstThere, sameKey, different⟩ := Assignment.exists_twin clashes
  obtain ⟨name, firstNamed, named⟩ := keyed.exists_name_of_same firstThere there sameKey different
  exact ⟨⟨first, firstThere, slot, there, name, firstNamed, named, different⟩, name, named⟩

/-- A name that is used in two formats clashes. -/
theorem Conflicting.exists_clash (conflict : scan.Conflicting) :
    ∃ slot, Slot.ClashesFirst [] scan.slots slot := by
  obtain ⟨first, firstThere, second, secondThere, name, firstNamed, named, different⟩ := conflict
  have sameKey : first.key = second.key := firstNamed.trans named.symm
  exact Assignment.exists_clashesFirst firstThere secondThere sameKey different

end Scan

namespace ServerQuery

/-- What the placeholders of a positional query come to: the markers in order, with the formats
of the placeholders. -/
structure Positional (server : ServerQuery) (scan : Scan) (markers : List Nat) : Prop where
  inOrder : markers = List.range' 1 scan.count
  formats : server.formats = scan.slots.map (·.format)
  nameless : server.order = none

/-- What the placeholders of a query with these names come to: one marker for every name, in the
order of their first occurrences, and each placeholder's marker leads to its name and format. -/
structure Named (server : ServerQuery) (scan : Scan) (names : List String)
    (markers : List Nat) : Prop where
  order : server.order = some names.eraseDups
  distinct : names.eraseDups.Nodup
  balanced : server.formats.length = names.eraseDups.length
  leads : List.Forall₂ (fun slot marker => ∃ number name, marker = number + 1 ∧
    slot.key = .name name ∧ names.eraseDups[number]? = some name ∧
      server.formats[number]? = some slot.format) scan.slots markers

/-- What the server's and the client's form of a query come to, the placeholders of the former
being replaced by markers. -/
structure Numbered (server : ServerQuery) (client : ClientQuery) (scan : Scan) : Prop where
  order : server.order = client.order.map List.eraseDups
  markers : ∃ markers, markers.length = scan.count ∧
    server.query = scan.weave (markers.map markerBytes) ∧
    ((scan.isNamed = false ∧ server.Positional scan markers) ∨
      (scan.isNamed = true ∧ ∃ names : List String, scan.keys = names.map .name ∧
        client.order = some names ∧ server.Named scan names markers))

section Numbered

variable {scan : Scan} {assigned : Assignment}

private theorem positional_of_nodup (unnamed : scan.isNamed = false) (distinct : scan.keys.Nodup)
    (marked : Assignment.ofSlots scan.slots = .ok assigned) :
    (ofAssignment scan assigned).Positional scan assigned.markers := by
  rw [Scan.ofSlots_of_nodup distinct] at marked
  cases marked
  refine ⟨rfl, ?_, if_neg (ne_true_of_eq_false unnamed)⟩
  rw [ofAssignment, List.map_map]
  rfl

private theorem named_of_names {names : List String} (named : scan.isNamed = true)
    (listed : scan.keys = names.map Key.name)
    (marked : Assignment.ofSlots scan.slots = .ok assigned) :
    (ofAssignment scan assigned).Named scan names assigned.markers := by
  have entries : assigned.entries.map Prod.fst = names.eraseDups.map Key.name := by
    rw [Assignment.keys_ofSlots marked, ← Scan.keys, listed]
    exact eraseDups_map fun _ _ _ _ same => Key.name.inj same
  have texts : assigned.entries.map (·.1.text) = names.eraseDups := by
    have both := congrArg (List.map Key.text) entries
    rw [List.map_map, List.map_map] at both
    exact both.trans (List.map_id _)
  refine ⟨?_, nodup_eraseDups names, ?_, ?_⟩
  · rw [← texts]
    exact if_pos named
  · rw [← texts, List.length_map]
    exact List.length_map _
  · refine (Assignment.forall₂_markers marked).imp ?_
    rintro slot marker ⟨positive, there⟩
    have lookedUp : names.eraseDups[marker - 1]?.map Key.name = some slot.key := by
      rw [← List.getElem?_map, ← entries, List.getElem?_map, there]
      rfl
    obtain ⟨name, placed, same⟩ := Option.map_eq_some_iff.mp lookedUp
    refine ⟨marker - 1, name, (Nat.sub_add_cancel positive).symm, same.symm, placed, ?_⟩
    change (assigned.entries.map Prod.snd)[marker - 1]? = _
    rw [List.getElem?_map, there]
    rfl

/-- Both forms of a query, their scans having the same placeholders. -/
theorem numbered_ofAssignment {style : Style} (keyed : scan.Keyed style) {counterpart : Scan}
    (same : counterpart.demands = scan.demands)
    (marked : Assignment.ofSlots scan.slots = .ok assigned) :
    (ofAssignment scan assigned).Numbered (ClientQuery.ofScan counterpart) scan := by
  have listed : (ClientQuery.ofScan counterpart).order = Params.orderOf scan scan.keys := by
    rw [Assignment.order_ofScan, Scan.keys_of_demands same]
    simp only [Params.orderOf, Scan.isNamed_of_demands same]
  have enough := Assignment.length_markers marked
  rcases keyed.names_or_nodup with ⟨named, names, keys⟩ | ⟨unnamed, distinct⟩
  · have led := named_of_names named keys marked
    have full : (ClientQuery.ofScan counterpart).order = some names := by
      rw [listed, Params.orderOf, if_pos named, keys, List.map_map]
      exact congrArg some (List.map_id names)
    refine ⟨?_, assigned.markers, enough, rfl, .inr ⟨named, names, keys, full, led⟩⟩
    rw [full, led.order]
    rfl
  · have led := positional_of_nodup unnamed distinct marked
    refine ⟨?_, assigned.markers, enough, rfl, .inl ⟨unnamed, led⟩⟩
    rw [listed, led.nameless, Params.orderOf, if_neg (ne_true_of_eq_false unnamed)]
    rfl

end Numbered

section Scanned

variable {encoding : String} {query : Bytes} {scan : Scan}
  (scanned : Scan.ofBytes encoding true query = .ok scan)

include scanned

private theorem ofBytes_of_scan :
    ofBytes encoding query = (Assignment.ofSlots scan.slots).map (ofAssignment scan) := by
  rw [ofBytes, scanned]
  rfl

/-- A query that is scanned is refused at the earliest clash. -/
theorem ofBytes_eq_error_iff {style : Style} (keyed : scan.Keyed style) (error : QueryError) :
    ofBytes encoding query = .error error ↔
      ∃ slot name, Slot.ClashesFirst [] scan.slots slot ∧ slot.key = .name name ∧
        error = .conflictingFormat name := by
  rw [ofBytes_of_scan scanned, Outcome.map_eq_error, Assignment.ofSlots,
    Assignment.extend_eq_error_iff]
  constructor
  · rintro ⟨slot, clashes, rfl⟩
    obtain ⟨_, name, named⟩ := keyed.conflict_of_clash clashes
    exact ⟨slot, name, clashes, named, by rw [named]; rfl⟩
  · rintro ⟨slot, name, clashes, named, rfl⟩
    exact ⟨slot, clashes, by rw [named]; rfl⟩

/-- **Placeholders are numbered by their first occurrences.** A query that is scanned is refused
exactly if two of its placeholders have one name and different formats, with the name of the first
placeholder whose format is not the one of its name's first occurrence. Otherwise its placeholders
are replaced by markers: in order for a positional query, and by names otherwise. The names of the
server's query are those of the client's, each once. -/
theorem ofBytes_numbers {codec : Text.Codec} (selected : Encoding.codec encoding = .ok codec) :
    ((∃ error, ofBytes encoding query = .error error) ↔ scan.Conflicting) ∧
      (∀ error, ofBytes encoding query = .error error ↔
        ∃ slot name, Slot.ClashesFirst [] scan.slots slot ∧ slot.key = .name name ∧
          error = .conflictingFormat name) ∧
      ∃ client, ClientQuery.ofBytes encoding query = .ok client ∧
        ∀ server, ofBytes encoding query = .ok server → server.Numbered client scan := by
  obtain ⟨style, keyed⟩ := Scan.keyed_ofBytes selected scanned
  obtain ⟨counterpart, scannedToo, same⟩ := Scan.exists_scan_of_mode selected false scanned
  have refusals := ofBytes_eq_error_iff scanned keyed
  refine ⟨⟨?_, ?_⟩, refusals, ClientQuery.ofScan counterpart, ?_, ?_⟩
  · rintro ⟨error, refused⟩
    obtain ⟨slot, _, clashes, _⟩ := (refusals error).mp refused
    exact (keyed.conflict_of_clash clashes).1
  · intro conflict
    obtain ⟨slot, clashes⟩ := conflict.exists_clash
    obtain ⟨_, name, named⟩ := keyed.conflict_of_clash clashes
    exact ⟨_, (refusals _).mpr ⟨slot, name, clashes, named, rfl⟩⟩
  · rw [ClientQuery.ofBytes, scannedToo]
    rfl
  · intro server came
    obtain ⟨_, assigned, scannedAgain, marked, rfl⟩ := ofBytes_eq_ok came
    cases scanned.symm.trans scannedAgain
    exact numbered_ofAssignment keyed same marked

end Scanned

/-- Three placeholders of which the outer ones have one name, and so one marker. -/
theorem ofBytes_numbers_of_repetition :
    let query : Bytes := [0x25, 0x28, 0x78, 0x29, 0x73, 0x25, 0x25, 0x25, 0x28, 0x79, 0x29, 0x74,
      0x25, 0x28, 0x78, 0x29, 0x73]
    let scan : Scan := ⟨[⟨[], .name "x", .auto⟩, ⟨[0x25], .name "y", .text⟩,
      ⟨[], .name "x", .auto⟩], []⟩
    let server : ServerQuery := ⟨[0x24, 0x31, 0x25, 0x24, 0x32, 0x24, 0x31], [.auto, .text],
      some ["x", "y"], scan⟩
    Encoding.codec "utf8" = .ok .utf8 ∧ Scan.ofBytes "utf8" true query = .ok scan ∧
      ¬ scan.Conflicting ∧ ∃ client : ClientQuery, client.order = some ["x", "y", "x"] ∧
        server.Numbered client scan := by
  intro query scan server
  have selected : Encoding.codec "utf8" = .ok .utf8 :=
    Encoding.codec_eq_ok.mpr (Text.Codec.ofName?_name .utf8)
  have scanned : Scan.ofBytes "utf8" true query = .ok scan := by cbv
  have assembled : ofBytes "utf8" query = .ok server := by cbv
  let kept : Scan := ⟨[⟨[], .name "x", .auto⟩, ⟨[0x25, 0x25], .name "y", .text⟩,
    ⟨[], .name "x", .auto⟩], []⟩
  have templated : ClientQuery.ofBytes "utf8" query = .ok ⟨[0x25, 0x73, 0x25, 0x25, 0x25, 0x73,
      0x25, 0x73], some ["x", "y", "x"], kept⟩ := by cbv
  obtain ⟨conflicts, _, client, came, numbers⟩ := ofBytes_numbers scanned selected
  refine ⟨selected, scanned, ?_, client, ?_, numbers server assembled⟩
  · intro conflict
    obtain ⟨error, refused⟩ := conflicts.mpr conflict
    cases assembled.symm.trans refused
  · cases templated.symm.trans came
    rfl

end ServerQuery

end QueryBind
