import Mathlib
import QueryBind.Proofs.Observe.Ledger
import QueryBind.Proofs.Text.Separated
import QueryBind.Proofs.Text.Whole

/-! # Series and their keys

A series is known to callers by its name and its tags, whatever their order, and to a collector by
one text. Series with the same name and tags have the same key (`Label.key_congr`). The converse
does not hold, since nothing in a key marks off the signs that divide it. It holds among series
whose parts do without these signs (`Label.same_of_key_of_plain`); and a series whose key no other
one has is a series without tags and with a name that does not look like a key with tags
(`Label.alone_iff`).
-/

namespace QueryBind

/-! ## Tags in the order of their names -/

namespace Tags

private theorem increasing_sorted {tags : Tags} (distinct : (tags.map Prod.fst).Nodup) :
    tags.sorted.Pairwise fun first second => Text.units first.1 < Text.units second.1 := by
  have total (first second : String × List UInt16) :
      (Text.nameLe first.1 second.1 || Text.nameLe second.1 first.1) = true :=
    Text.unitsLe_total (Text.units first.1) (Text.units second.1)
  have transitive (first second third : String × List UInt16)
      (le : Text.nameLe first.1 second.1 = true) (leToo : Text.nameLe second.1 third.1 = true) :
      Text.nameLe first.1 third.1 = true :=
    Text.nameLe_trans le leToo
  have ordered := List.pairwise_mergeSort transitive total tags
  have apart : (tags.sorted.map Prod.fst).Nodup :=
    ((List.mergeSort_perm tags _).map Prod.fst).nodup_iff.mpr distinct
  exact ordered.imp₂ (fun _ _ => Text.units_lt_of_nameLe) (List.pairwise_map.mp apart)

/-- Sorted tags are determined by which ones they are. -/
theorem sorted_congr {first second : Tags} (distinct : (first.map Prod.fst).Nodup)
    (distinctToo : (second.map Prod.fst).Nodup) (same : ∀ tag, tag ∈ first ↔ tag ∈ second) :
    first.sorted = second.sorted := by
  have irreflexive : Std.Irrefl fun first second : String × List UInt16 =>
      Text.units first.1 < Text.units second.1 :=
    ⟨fun tag => List.lt_irrefl (Text.units tag.1)⟩
  have antisymmetric : Std.Antisymm fun first second : String × List UInt16 =>
      Text.units first.1 < Text.units second.1 :=
    ⟨fun first second below above => absurd above (List.lt_asymm below)⟩
  have members (tag : String × List UInt16) : tag ∈ first.sorted ↔ tag ∈ second.sorted :=
    List.mem_mergeSort.trans ((same tag).trans List.mem_mergeSort.symm)
  exact @List.Pairwise.eq_of_mem_iff _ _ antisymmetric irreflexive _ _
    (increasing_sorted distinct) (increasing_sorted distinctToo) members

private theorem sorted_ne_nil {tags : Tags} (tagged : tags ≠ []) : tags.sorted ≠ [] := by
  rw [Ne, sorted, ← List.length_eq_zero_iff, List.length_mergeSort, List.length_eq_zero_iff]
  exact tagged

/-- A tag as it stands in a key. -/
def pair (tag : String × List UInt16) : List UInt16 :=
  Text.units tag.1 ++ Text.units "=" ++ tag.2

/-- Tags as they stand in a key. -/
def joined (tags : Tags) : List UInt16 :=
  (Text.units ",").intercalate (tags.sorted.map pair)

end Tags

private theorem seriesKey_of_tags (name : String) {tags : Tags} (tagged : tags ≠ []) :
    seriesKey name tags =
      Text.units name ++ Text.units "\x7b" ++ tags.joined ++ Text.units "\x7d" :=
  if_neg tagged

namespace Metrics

/-- The brace in front of the tags of a key. -/
def openingUnit : UInt16 := 0x7B

/-- The brace behind the tags. -/
def closingUnit : UInt16 := 0x7D

/-- The sign between the name of a tag and its value. -/
def equalsUnit : UInt16 := 0x3D

/-- The sign between two tags. -/
def commaUnit : UInt16 := 0x2C

/-- The name of a series with its tags, no two of which have one name. -/
structure Label where
  name : String
  tags : Tags
  distinct : (tags.map Prod.fst).Nodup

namespace Label

/-- The text that a series is known by. -/
def key (label : Label) : List UInt16 :=
  seriesKey label.name label.tags

/-- One series: one name and the same tags. -/
def Same (first second : Label) : Prop :=
  first.name = second.name ∧ ∀ tag, tag ∈ first.tags ↔ tag ∈ second.tags

variable {first second : Label}

/-- Series are the same if they have one name and the same tags. -/
theorem same_iff : first.Same second ↔ first.name = second.name ∧
    (∀ tag ∈ first.tags, tag ∈ second.tags) ∧ ∀ tag ∈ second.tags, tag ∈ first.tags := by
  refine and_congr_right fun _ => ⟨fun same => ?_, fun both tag => ?_⟩
  · exact ⟨fun tag => (same tag).mp, fun tag => (same tag).mpr⟩
  · exact ⟨both.1 tag, both.2 tag⟩

instance : Decidable (first.Same second) :=
  decidable_of_iff _ same_iff.symm

private theorem Same.tags_eq_nil (same : first.Same second) :
    first.tags = [] ↔ second.tags = [] := by
  rw [List.eq_nil_iff_forall_not_mem, List.eq_nil_iff_forall_not_mem]
  exact forall_congr' fun tag => not_congr (same.2 tag)

/-- The order of tags does not show in a key. -/
theorem key_congr (same : first.Same second) : first.key = second.key := by
  by_cases tagged : first.tags = []
  · rw [key, key, same.1, tagged, same.tags_eq_nil.mp tagged]
  · have taggedToo : second.tags ≠ [] := fun untagged =>
      tagged (same.tags_eq_nil.mpr untagged)
    rw [key, key, seriesKey_of_tags _ tagged, seriesKey_of_tags _ taggedToo, same.1, Tags.joined,
      Tags.joined, Tags.sorted_congr first.distinct second.distinct same.2]

/-! ## Series that do without the signs of a key -/

/-- The signs that end a part of a key are not in that part: no brace is in the name, no equals sign
in the name of a tag, and no comma in the value of one. -/
structure Plain (label : Label) : Prop where
  name : openingUnit ∉ Text.units label.name
  tags : ∀ tag ∈ label.tags, equalsUnit ∉ Text.units tag.1 ∧ commaUnit ∉ tag.2

private theorem pair_append (tag : String × List UInt16) (rest : List UInt16) :
    Tags.pair tag ++ Text.units "," ++ rest =
      Text.units tag.1 ++ equalsUnit :: (tag.2 ++ commaUnit :: rest) := by
  rw [Tags.pair, List.append_assoc, List.append_assoc, List.append_assoc]
  rfl

/-- Tags with a comma behind each are read in one way. -/
theorem flatMap_pair_injective {tags others : Tags}
    (plain : ∀ tag ∈ tags, equalsUnit ∉ Text.units tag.1 ∧ commaUnit ∉ tag.2)
    (plainToo : ∀ tag ∈ others, equalsUnit ∉ Text.units tag.1 ∧ commaUnit ∉ tag.2)
    (same : tags.flatMap (Tags.pair · ++ Text.units ",") =
      others.flatMap (Tags.pair · ++ Text.units ",")) : tags = others := by
  have filled (tag : String × List UInt16) (rest : Tags) :
      (tag :: rest).flatMap (Tags.pair · ++ Text.units ",") ≠ [] := by
    rw [List.flatMap_cons, pair_append]
    exact List.append_ne_nil_of_right_ne_nil _ (List.cons_ne_nil _ _)
  induction tags generalizing others with
  | nil =>
      cases others with
      | nil => rfl
      | cons other others => exact absurd same.symm (filled other others)
  | cons tag tags ih =>
      cases others with
      | nil => exact absurd same (filled tag tags)
      | cons other others =>
          obtain ⟨⟨name, value⟩, later⟩ := List.forall_mem_cons.mp plain
          obtain ⟨⟨nameToo, valueToo⟩, laterToo⟩ := List.forall_mem_cons.mp plainToo
          rw [List.flatMap_cons, List.flatMap_cons, pair_append, pair_append] at same
          obtain ⟨names, behind⟩ := Text.append_separator_injective name nameToo same
          obtain ⟨values, rest⟩ := Text.append_separator_injective value valueToo behind
          rw [ih later laterToo rest, Prod.ext (Text.units_injective names) values]

/-- Plain tags are told from the text that they are joined to. -/
theorem sorted_of_joined {tags others : Tags} (tagged : tags ≠ []) (taggedToo : others ≠ [])
    (plain : ∀ tag ∈ tags, equalsUnit ∉ Text.units tag.1 ∧ commaUnit ∉ tag.2)
    (plainToo : ∀ tag ∈ others, equalsUnit ∉ Text.units tag.1 ∧ commaUnit ∉ tag.2)
    (same : tags.joined = others.joined) : tags.sorted = others.sorted := by
  have filled {given : Tags} (present : given ≠ []) : given.sorted.map Tags.pair ≠ [] :=
    mt List.map_eq_nil_iff.mp (Tags.sorted_ne_nil present)
  have ended := congrArg (· ++ Text.units ",") same
  simp only [Tags.joined] at ended
  rw [Text.intercalate_append_separator _ (filled tagged),
    Text.intercalate_append_separator _ (filled taggedToo), List.flatMap_map, List.flatMap_map]
    at ended
  refine flatMap_pair_injective ?_ ?_ ended
  · exact fun tag among => plain tag (List.mem_mergeSort.mp among)
  · exact fun tag among => plainToo tag (List.mem_mergeSort.mp among)

/-- A series with tags has a brace in its key. -/
theorem opening_mem_key {label : Label} (tagged : label.tags ≠ []) : openingUnit ∈ label.key := by
  rw [key, seriesKey_of_tags _ tagged]
  simp only [List.mem_append]
  exact .inl (.inl (.inr List.mem_cons_self))

private theorem key_of_untagged {label : Label} (untagged : label.tags = []) :
    label.key = Text.units label.name :=
  if_pos untagged

private theorem same_of_untagged (untagged : first.tags = []) (untaggedToo : second.tags = [])
    (same : first.key = second.key) : first.Same second := by
  rw [key_of_untagged untagged, key_of_untagged untaggedToo] at same
  exact ⟨Text.units_injective same, fun tag => by rw [untagged, untaggedToo]⟩

/-- The key of a plain series shows whether it has tags. -/
theorem tagged_of_key (plain : second.Plain) (same : first.key = second.key)
    (tagged : first.tags ≠ []) : second.tags ≠ [] := by
  intro untagged
  have among := opening_mem_key tagged
  rw [same, key_of_untagged untagged] at among
  exact plain.name among

/-- **Plain series have keys of their own.** -/
theorem same_of_key_of_plain (plain : first.Plain) (plainToo : second.Plain)
    (same : first.key = second.key) : first.Same second := by
  by_cases tagged : first.tags = []
  · have untagged : second.tags = [] :=
      by_contra fun taggedToo => tagged_of_key plain same.symm taggedToo tagged
    exact same_of_untagged tagged untagged same
  · have taggedToo := tagged_of_key plainToo same tagged
    rw [key, key, seriesKey_of_tags _ tagged, seriesKey_of_tags _ taggedToo] at same
    have whole := List.append_cancel_right same
    rw [List.append_assoc, List.append_assoc] at whole
    obtain ⟨names, tags⟩ := Text.append_separator_injective plain.name plainToo.name whole
    have sorted := sorted_of_joined tagged taggedToo plain.tags plainToo.tags tags
    refine ⟨Text.units_injective names, fun tag => ?_⟩
    rw [← List.mem_mergeSort, ← Tags.sorted, sorted, Tags.sorted, List.mem_mergeSort]

/-! ## Series whose keys no other series has -/

/-- The values of the tags are texts. -/
def Spelled (label : Label) : Prop :=
  ∀ tag ∈ label.tags, Text.IsWhole tag.2

/-- A series without tags whose name does not look like a key with tags. -/
structure Alone (label : Label) : Prop where
  untagged : label.tags = []
  unlike : ∀ front tag value : String,
    label.name ≠ front ++ "\x7b" ++ tag ++ "=" ++ value ++ "\x7d"

private theorem Spelled.isWhole_key {label : Label} (spelled : label.Spelled) :
    Text.IsWhole label.key := by
  by_cases tagged : label.tags = []
  · rw [key_of_untagged tagged]
    exact .units _
  · rw [key, seriesKey_of_tags _ tagged]
    have inner : Text.IsWhole label.tags.joined := by
      refine .intercalate (.units _) (List.forall_mem_map.mpr fun tag among => ?_)
      exact (((Text.IsWhole.units _).append (.units _))).append
        (spelled tag (List.mem_mergeSort.mp among))
    exact ((((Text.IsWhole.units _).append (.units _)).append inner).append (.units _))

/-- A series without tags that is named as the key of another one. -/
theorem untagged_of_key {label : Label} (spelled : label.Spelled)
    (only : ∀ other : Label, other.key = label.key → other.Same label) : label.tags = [] := by
  obtain ⟨text, written⟩ := spelled.isWhole_key
  let other : Label := ⟨text, [], List.nodup_nil⟩
  exact (only other written.symm).tags_eq_nil.mp rfl

/-- What a key with tags looks like. -/
theorem exists_key_eq {label : Label} (tagged : label.tags ≠ []) :
    ∃ (tag : String) (value : List UInt16), label.key =
      Text.units (label.name ++ "\x7b" ++ tag ++ "=") ++ value ++ [closingUnit] := by
  obtain ⟨tag, rest, sorted⟩ := List.exists_cons_of_ne_nil (Tags.sorted_ne_nil tagged)
  obtain ⟨value, begins⟩ : ∃ value, label.tags.joined =
      Text.units tag.1 ++ Text.units "=" ++ value := by
    rw [Tags.joined, sorted, List.map_cons]
    cases rest with
    | nil => exact ⟨tag.2, List.intercalate_singleton⟩
    | cons next rest =>
        refine ⟨tag.2 ++ Text.units "," ++
          (Text.units ",").intercalate (Tags.pair next :: rest.map Tags.pair), ?_⟩
        rw [List.map_cons, List.intercalate_cons_cons, Tags.pair]
        simp only [List.append_assoc]
  refine ⟨tag.1, value, ?_⟩
  rw [key, seriesKey_of_tags _ tagged, begins]
  simp only [Text.units_append, List.append_assoc]
  rfl

/-- **Hardly any key is safe.** -/
theorem alone_iff {label : Label} (spelled : label.Spelled) :
    label.Alone ↔ ∀ other : Label, other.key = label.key → other.Same label := by
  constructor
  · intro alone other same
    by_cases tagged : other.tags = []
    · exact same_of_untagged tagged alone.untagged same
    · obtain ⟨tag, value, spelled⟩ := exists_key_eq tagged
      rw [same, key_of_untagged alone.untagged] at spelled
      have whole : Text.IsWhole (Text.units label.name) := .units _
      rw [spelled] at whole
      obtain ⟨text, rfl⟩ := (whole.of_append_single (by decide)).of_append
      have looks : label.name = other.name ++ "\x7b" ++ tag ++ "=" ++ text ++ "\x7d" := by
        apply Text.units_injective
        rw [spelled, Text.units_append _ "\x7d", Text.units_append _ text]
        rfl
      exact absurd looks (alone.unlike other.name tag text)
  · intro only
    have untagged := untagged_of_key spelled only
    refine ⟨untagged, fun front tag value looks => ?_⟩
    let other : Label := ⟨front, [(tag, Text.units value)], List.nodup_singleton _⟩
    have written : other.key = label.key := by
      rw [key_of_untagged untagged, looks, key, seriesKey_singleton]
      simp only [Text.units_append, List.append_assoc]
      rfl
    cases (only other written).tags_eq_nil.mpr untagged

end Label

end Metrics

end QueryBind
