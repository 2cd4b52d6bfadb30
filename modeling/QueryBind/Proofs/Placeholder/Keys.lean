import Mathlib.Data.List.Nodup
import QueryBind.Proofs.Placeholder.Acceptance

/-! # Keys of a scan

The placeholders of a query have one style, so the keys of its scan are all names or they are the
positions from zero on. Neither the keys nor the formats depend on what becomes of two marks.
-/

namespace QueryBind.Scan

open Text (Codec)

/-- The keys of the slots. -/
def keys (scan : Scan) : List Key :=
  scan.slots.map (·.key)

/-- All keys have this style, and positional keys are the positions of their slots. -/
def Keyed (style : Style) (scan : Scan) : Prop :=
  ∀ (position : Nat) (key : Key), scan.keys[position]? = some key →
    key.style = style ∧ (style = .positional → key = .position position)

private theorem keys_eq_demands (scan : Scan) : scan.keys = scan.demands.map Prod.fst := by
  rw [keys, demands, List.map_map]
  rfl

/-- Bytes in front of a scan add no keys. -/
@[simp] theorem keys_prepend (bytes : Bytes) (scan : Scan) :
    (scan.prepend bytes).keys = scan.keys := by
  rw [keys_eq_demands, demands_prepend, keys_eq_demands]

/-- A placeholder adds its key. -/
@[simp] theorem keys_push (key : Key) (format : Format) (scan : Scan) :
    (scan.push key format).keys = key :: scan.keys := rfl

/-- The first demand says the style. -/
theorem style?_eq_head? (scan : Scan) : scan.style? = scan.demands.head?.map (·.1.style) := by
  obtain ⟨slots, tail⟩ := scan
  cases slots <;> rfl

section Demands

variable {first second : Scan} (same : first.demands = second.demands)

include same

/-- Scans that demand the same have one style. -/
theorem style?_of_demands : first.style? = second.style? := by
  rw [style?_eq_head?, same, style?_eq_head?]

/-- Scans that demand the same are both named, or neither is. -/
theorem isNamed_of_demands : first.isNamed = second.isNamed := by
  rw [isNamed, style?_of_demands same, isNamed]

/-- Scans that demand the same have as many placeholders. -/
theorem count_of_demands : first.count = second.count := by
  rw [count, ← length_demands, same, length_demands, count]

/-- Scans that demand the same have the same keys. -/
theorem keys_of_demands : first.keys = second.keys := by
  rw [keys_eq_demands, same, keys_eq_demands]

end Demands

/-- The style of the first placeholder is the style of all of them. -/
theorem Keyed.style?_eq {style : Style} {scan : Scan} (keyed : scan.Keyed style)
    (filled : scan.slots ≠ []) : scan.style? = some style := by
  obtain ⟨slots, tail⟩ := scan
  cases slots with
  | nil => exact absurd rfl filled
  | cons slot rest => exact congrArg some (keyed 0 slot.key rfl).1

/-- A query has a placeholder of this style. -/
def Holds (style : Style) (scan : Scan) : Prop :=
  ∃ key ∈ scan.keys, key.style = style

/-- A query has no placeholders, or it has named ones, or it has positional ones. -/
theorem Keyed.kinds {style : Style} {scan : Scan} (keyed : scan.Keyed style) :
    (scan.keys = [] ∧ scan.isNamed = false ∧ scan.isPositional = false) ∨
      (scan.Keyed .named ∧ scan.isNamed = true ∧ scan.isPositional = false) ∨
      (scan.Keyed .positional ∧ scan.isNamed = false ∧ scan.isPositional = true) := by
  by_cases filled : scan.slots = []
  · refine .inl ⟨?_, ?_, ?_⟩ <;> simp [keys, isNamed, isPositional, style?, filled]
  · have common := keyed.style?_eq filled
    cases style with
    | named => exact .inr (.inl ⟨keyed, by simp [isNamed, common], by simp [isPositional, common]⟩)
    | positional =>
        exact .inr (.inr ⟨keyed, by simp [isNamed, common], by simp [isPositional, common]⟩)

/-- In a positional query a key is the place of its placeholder. -/
theorem Keyed.getElem_keys {scan : Scan} (keyed : scan.Keyed .positional) {position : Nat}
    {key : Key} (placed : scan.keys[position]? = some key) : key = .position position :=
  (keyed position key placed).2 rfl

/-- No two positional placeholders have one key. -/
theorem Keyed.nodup_keys {scan : Scan} (keyed : scan.Keyed .positional) : scan.keys.Nodup := by
  rw [List.nodup_iff_getElem?_ne_getElem?]
  intro first second before bound same
  have placed : scan.keys[second]? = some scan.keys[second] := List.getElem?_eq_getElem bound
  rw [placed] at same
  have earlier := keyed.getElem_keys same
  rw [keyed.getElem_keys placed] at earlier
  cases earlier
  exact Nat.lt_irrefl _ before

/-- In a named query every key is a name. -/
theorem Keyed.exists_name {scan : Scan} (keyed : scan.Keyed .named) {key : Key}
    (member : key ∈ scan.keys) : ∃ name, key = .name name := by
  obtain ⟨position, placed⟩ := List.mem_iff_getElem?.mp member
  have named := (keyed position key placed).1
  cases key with
  | position index => cases named
  | name name => exact ⟨name, rfl⟩

/-- Names are apart when they are read as texts. -/
theorem Keyed.text_injective {scan : Scan} (keyed : scan.Keyed .named) :
    ∀ a ∈ scan.keys, ∀ b ∈ scan.keys, a.text = b.text → a = b := by
  intro a first b second same
  obtain ⟨name, rfl⟩ := keyed.exists_name first
  obtain ⟨other, rfl⟩ := keyed.exists_name second
  exact congrArg Key.name same

/-- Every slot of a cut has a placeholder token, and says what the token says. -/
theorem exists_standsFor (codec : Codec) (collapse : Bool) {tokens : List Token}
    (wellEnded : ∀ token ∈ tokens, token.WellEnded) {position : Nat} {slot : Slot}
    (placed : (cut codec collapse 0 tokens).slots[position]? = some slot) :
    ∃ token ∈ tokens, (Token.placeholders tokens)[position]? = some token ∧
      token.StandsFor codec position slot := by
  have bound : position < (Token.placeholders tokens).length := by
    rw [← length_slots_cut codec collapse 0]
    exact (List.getElem?_eq_some_iff.mp placed).1
  obtain ⟨token, stands⟩ : ∃ token, (Token.placeholders tokens)[position]? = some token :=
    ⟨_, List.getElem?_eq_getElem bound⟩
  have member : token ∈ tokens := (List.mem_filter.mp (List.mem_of_getElem? stands)).1
  exact ⟨token, member, stands, standsFor_cut codec collapse wellEnded placed stands⟩

/-- What is cut from accepted tokens is keyed. -/
theorem keyed_cut (codec : Codec) (collapse : Bool) {tokens : List Token}
    (accepted : Token.Accepted none tokens) :
    ∃ style, (cut codec collapse 0 tokens).Keyed style := by
  obtain ⟨common, _, uniform⟩ := accepted.uniform
  refine ⟨common, fun position key placed => ?_⟩
  rw [keys, List.getElem?_map, Option.map_eq_some_iff] at placed
  obtain ⟨slot, placed, rfl⟩ := placed
  obtain ⟨token, member, -, stated⟩ := exists_standsFor codec collapse accepted.wellEnded placed
  cases token with
  | plain | doubled | lone => exact stated.elim
  | named name last =>
      have named : Style.named = common := uniform _ member .named rfl
      subst named
      rw [stated.2]
      exact ⟨rfl, fun positional => nomatch positional⟩
  | short last =>
      have positional : Style.positional = common := uniform _ member .positional rfl
      subst positional
      rw [stated.2]
      exact ⟨rfl, fun _ => rfl⟩

/-- The scan of a query is keyed by one style. -/
theorem keyed_ofBytes {encoding : String} {codec : Codec}
    (selected : Encoding.codec encoding = .ok codec) {collapse : Bool} {query : Bytes}
    {scan : Scan} (success : ofBytes encoding collapse query = .ok scan) :
    ∃ style, scan.Keyed style := by
  obtain ⟨accepted, rfl⟩ := (ofBytes_eq_ok_iff selected collapse query scan).mp success
  exact keyed_cut codec collapse accepted

/-- Two marks may be made one or be kept: a query that has a scan either way has one both ways,
with the same keys and formats. -/
theorem exists_scan_of_mode {encoding : String} {codec : Codec}
    (selected : Encoding.codec encoding = .ok codec) {collapse : Bool} (other : Bool)
    {query : Bytes} {scan : Scan} (success : ofBytes encoding collapse query = .ok scan) :
    ∃ counterpart, ofBytes encoding other query = .ok counterpart ∧
      counterpart.demands = scan.demands := by
  obtain ⟨accepted, rfl⟩ := (ofBytes_eq_ok_iff selected collapse query scan).mp success
  refine ⟨_, (ofBytes_eq_ok_iff selected other query _).mpr ⟨accepted, rfl⟩, ?_⟩
  rw [demands_cut, demands_cut]

end QueryBind.Scan
