import Mathlib
import QueryBind.Proofs.Placeholder.Nameless
import QueryBind.Proofs.Statement.Expansion

/-! # Expansion as a scan

Expansion looks for `%s` and for two marks, and knows nothing of names, formats and styles. On
bytes whose scan has only placeholders that are written `%s` it finds what the scan finds: what it
makes of them are the fragments of the scan that turns two marks into one, with the literals in
between (`Template.expand_rereads`). Every template of a query is such bytes, since a slot in the
place of a placeholder is read as a placeholder again and no other token is touched
(`Token.Reads.slotted`).
-/

namespace QueryBind

open Text (Codec)

namespace Token

/-- A token as it stands in a template. -/
def slotted (token : Token) : Token :=
  if token.isPlaceholder then .short Format.auto.byte else token

/-- Text stays as it is. -/
theorem slotted_of_text {token : Token} (text : token.isPlaceholder = false) :
    token.slotted = token := by
  simp [slotted, text]

/-- A placeholder becomes a slot. -/
theorem slotted_of_placeholder {token : Token} (placeholder : token.isPlaceholder = true) :
    token.slotted = .short Format.auto.byte := by
  simp [slotted, placeholder]

/-- A template is read as the tokens that it was put together from. -/
theorem Reads.slotted {query : Bytes} {tokens : List Token} (reads : Reads query tokens) :
    Reads ((tokens.map Token.slotted).flatMap bytes) (tokens.map Token.slotted) := by
  have notMark : Format.auto.byte ≠ markByte := by decide
  have notNewline : Format.auto.byte ≠ newlineByte := by decide
  have notOpen : Format.auto.byte ≠ openByte := by decide
  induction reads with
  | done => exact .done
  | plain notMark _ ih => exact .plain notMark ih
  | doubled _ ih => exact .doubled ih
  | atEnd => exact .atEnd
  | beforeNewline more ih =>
      -- The newline behind the mark is a token of its own.
      cases more with
      | plain _ _ => exact .beforeNewline ih
  | named _ _ ih => exact .short notMark notNewline (fun opens => absurd opens notOpen) ih
  | short _ _ _ _ ih => exact .short notMark notNewline (fun opens => absurd opens notOpen) ih

private theorem slotted_slotted (token : Token) : token.slotted.slotted = token.slotted := by
  by_cases placeholder : token.isPlaceholder = true
  · rw [slotted_of_placeholder placeholder]
    rfl
  · rw [slotted_of_text (eq_false_of_ne_true placeholder),
      slotted_of_text (eq_false_of_ne_true placeholder)]

private theorem isPlaceholder_slotted (token : Token) :
    token.slotted.isPlaceholder = token.isPlaceholder := by
  by_cases placeholder : token.isPlaceholder = true
  · rw [slotted_of_placeholder placeholder, placeholder]
    rfl
  · rw [slotted_of_text (eq_false_of_ne_true placeholder)]

private theorem length_placeholders_slotted (tokens : List Token) :
    (placeholders (tokens.map slotted)).length = (placeholders tokens).length := by
  have same : isPlaceholder ∘ slotted = isPlaceholder := funext isPlaceholder_slotted
  rw [placeholders, List.filter_map, List.length_map, same, placeholders]

private theorem style?_slotted {token : Token} {own : Style}
    (styled : token.slotted.style? = some own) : own = .positional := by
  by_cases placeholder : token.isPlaceholder = true
  · rw [slotted_of_placeholder placeholder] at styled
    exact (Option.some.inj styled).symm
  · rw [slotted_of_text (eq_false_of_ne_true placeholder)] at styled
    exact absurd (isPlaceholder_of_style? styled) placeholder

private theorem wellEnded_slotted (token : Token) : token.slotted.WellEnded := by
  by_cases placeholder : token.isPlaceholder = true
  · rw [slotted_of_placeholder placeholder]
    decide
  · have text := eq_false_of_ne_true placeholder
    rw [slotted_of_text text]
    exact wellEnded_of_text text

private theorem accepted_slotted (tokens : List Token) : Accepted none (tokens.map slotted) where
  wellEnded := List.forall_mem_map.mpr fun token _ => token.wellEnded_slotted
  uniform := ⟨.positional, nofun, List.forall_mem_map.mpr fun _ _ _ styled => style?_slotted styled⟩

/-- A sound placeholder is written `%s` if it is positional and leaves the format open. -/
theorem slotted_eq_self_iff (codec : Codec) (count : Nat) {token : Token}
    (placeholder : token.isPlaceholder = true) (wellEnded : token.WellEnded) :
    token.slotted = token ↔
      (token.key codec count).style = .positional ∧ token.format = .auto := by
  rw [slotted_of_placeholder placeholder]
  constructor
  · rintro rfl
    exact ⟨rfl, rfl⟩
  · rintro ⟨positional, open_⟩
    cases token with
    | plain | doubled | lone => cases placeholder
    | named name last => cases positional
    | short last =>
        have ends := ofByte?_of_wellEnded rfl wellEnded
        rw [open_, Format.ofByte?_eq_some_iff] at ends
        rw [ends]

end Token

namespace Scan

/-- All placeholders are written `%s`. -/
def Slotted (scan : Scan) : Prop :=
  ∀ slot ∈ scan.slots, slot.key.style = .positional ∧ slot.format = .auto

private theorem slotted_iff_demands (scan : Scan) :
    scan.Slotted ↔ ∀ demand ∈ scan.demands, demand.1.style = .positional ∧ demand.2 = .auto := by
  simp [Slotted, demands, Slot.demand]

/-- The placeholders of a cut are written `%s` if a template would not change them. -/
theorem slotted_cut_iff (codec : Codec) (collapse : Bool) (count : Nat) {tokens : List Token}
    (wellEnded : ∀ token ∈ tokens, token.WellEnded) :
    (cut codec collapse count tokens).Slotted ↔ tokens.map Token.slotted = tokens := by
  induction tokens generalizing count with
  | nil => exact ⟨fun _ => rfl, fun _ => nofun⟩
  | cons token rest ih =>
      obtain ⟨sound, later⟩ := List.forall_mem_cons.mp wellEnded
      rw [List.map_cons, List.cons.injEq]
      by_cases placeholder : token.isPlaceholder = true
      · rw [cut_cons _ _ _ placeholder, slotted_iff_demands, demands_push, List.forall_mem_cons,
          ← slotted_iff_demands, ih (count + 1) later,
          Token.slotted_eq_self_iff codec count placeholder sound]
      · have text := eq_false_of_ne_true placeholder
        rw [cut_cons_of_text _ _ _ text, slotted_iff_demands, demands_prepend,
          ← slotted_iff_demands, ih count later, Token.slotted_of_text text]
        exact (and_iff_right rfl).symm

end Scan

namespace Template

/-- The template of tokens is their text, placeholders being written `%s`. -/
theorem ofTokens_eq (codec : Codec) (count : Nat) (tokens : List Token) :
    ofTokens codec count tokens = (tokens.map Token.slotted).flatMap Token.bytes := by
  induction tokens generalizing count with
  | nil => rfl
  | cons token rest ih =>
      rw [List.map_cons, List.flatMap_cons]
      by_cases placeholder : token.isPlaceholder = true
      · rw [ofTokens_cons codec count placeholder, Token.slotted_of_placeholder placeholder, ih]
        rfl
      · have text := eq_false_of_ne_true placeholder
        rw [ofTokens_cons_of_text codec count text, Token.slotted_of_text text, ih]

/-- Tokens with literals at the placeholders, two marks being one. -/
def spell : List Token → List Bytes → Bytes
  | [], _ => []
  | token :: rest, literals =>
    if token.isPlaceholder then literals.headD [] ++ spell rest literals.tail
    else token.textBytes true ++ spell rest literals

private theorem weave_cut_eq_spell (codec : Codec) (count : Nat) {tokens : List Token}
    {literals : List Bytes} (enough : literals.length = (Token.placeholders tokens).length) :
    (Scan.cut codec true count tokens).weave literals = spell tokens literals := by
  induction tokens generalizing count literals with
  | nil =>
      rw [List.length_eq_zero_iff.mp enough]
      rfl
  | cons token rest ih =>
      by_cases placeholder : token.isPlaceholder = true
      · rw [Token.placeholders_cons placeholder, List.length_cons] at enough
        obtain ⟨literal, others, rfl⟩ := List.exists_cons_of_length_eq_add_one enough
        rw [Scan.cut_cons _ _ _ placeholder, Scan.weave_push, ih (count + 1) (Nat.succ.inj enough)]
        exact (if_pos placeholder).symm
      · have text := eq_false_of_ne_true placeholder
        rw [weave_cut_cons_of_text codec count text enough]
        rw [Token.placeholders_cons_of_text text] at enough
        rw [ih count enough]
        exact (if_neg placeholder).symm

/-- Bytes with slots for placeholders are a template of their own. -/
theorem template_of_slotted {encoding : String} {codec : Codec}
    (selected : Encoding.codec encoding = .ok codec) {template : Bytes} {kept : Scan}
    (scanned : Scan.ofBytes encoding false template = .ok kept) (slotted : kept.Slotted) :
    (ClientQuery.ofScan kept).template = template := by
  obtain ⟨accepted, rfl⟩ := (Scan.ofBytes_eq_ok_iff selected false template kept).mp scanned
  have unchanged := (Scan.slotted_cut_iff codec false 0 accepted.wellEnded).mp slotted
  rw [template_ofScan, ofTokens_eq, unchanged, Token.bytes_tokenize]

/-- The template of a query has a slot for every placeholder, and no other placeholders. -/
theorem exists_slotted {encoding : String} {codec : Codec}
    (selected : Encoding.codec encoding = .ok codec) {query : Bytes} {scan : Scan}
    (scanned : Scan.ofBytes encoding false query = .ok scan) :
    ∃ kept, Scan.ofBytes encoding false (ClientQuery.ofScan scan).template = .ok kept ∧
      kept.Slotted ∧ kept.count = scan.count := by
  obtain ⟨_, rfl⟩ := (Scan.ofBytes_eq_ok_iff selected false query scan).mp scanned
  have reread := (Token.reads_tokenize query).slotted.eq_tokenize
  have accepted := Token.accepted_slotted (Token.tokenize query)
  refine ⟨Scan.cut codec false 0 ((Token.tokenize query).map Token.slotted), ?_, ?_, ?_⟩
  · rw [template_ofScan, ofTokens_eq, Scan.ofBytes_eq_ok_iff selected, ← reread]
    exact ⟨accepted, rfl⟩
  · rw [Scan.slotted_cut_iff codec false 0 accepted.wellEnded, List.map_map]
    exact List.map_congr_left fun token _ => token.slotted_slotted
  · rw [Scan.count, Scan.count, Scan.length_slots_cut, Scan.length_slots_cut,
      Token.length_placeholders_slotted]

/-- **Expansion agrees with the scan.** Take bytes whose scan has only placeholders that are written
`%s`. They have a scan that makes one mark of two, and with one literal for every placeholder they
are expanded to its fragments with the literals in between, whatever is in the literals: every
token of the bytes is copied, two marks as one, but for the placeholders. Every template of a query
is such bytes. -/
theorem expand_rereads (encoding : String) :
    (∀ template kept, Scan.ofBytes encoding false template = .ok kept → kept.Slotted →
      ∃ collapsed, Scan.ofBytes encoding true template = .ok collapsed ∧
        collapsed.count = kept.count ∧
        ∀ literals, literals.length = kept.count →
          expand template literals = .ok (collapsed.weave literals) ∧
            collapsed.weave literals = spell (Token.tokenize template) literals) ∧
      ∀ query client, ClientQuery.ofBytes encoding query = .ok client →
        ∃ kept, Scan.ofBytes encoding false client.template = .ok kept ∧ kept.Slotted ∧
          kept.count = client.scan.count := by
  constructor
  · intro template kept scanned slotted
    obtain ⟨other, codec, selected, same⟩ := Scan.exists_codec scanned
    have scannedToo := (same false kept).mp scanned
    obtain ⟨collapsed, collapses, demands⟩ := Scan.exists_scan_of_mode selected true scannedToo
    have counts := Scan.count_of_demands demands
    refine ⟨collapsed, (same true collapsed).mpr collapses, counts, ?_⟩
    refine fun literals enough => ⟨?_, ?_⟩
    · have expands := expand_ofScan selected collapses scannedToo (enough.trans counts.symm)
      rw [template_of_slotted selected scannedToo slotted] at expands
      exact expands
    · obtain ⟨_, rfl⟩ := (Scan.ofBytes_eq_ok_iff selected true template collapsed).mp collapses
      rw [← counts, Scan.count, Scan.length_slots_cut] at enough
      exact weave_cut_eq_spell codec 0 enough
  · intro query client parsed
    obtain ⟨scan, scanned, rfl⟩ := Outcome.map_eq_ok.mp parsed
    obtain ⟨other, codec, selected, same⟩ := Scan.exists_codec scanned
    obtain ⟨kept, scannedToo, slotted, counts⟩ :=
      exists_slotted selected ((same false scan).mp scanned)
    have nameless : kept.Nameless := fun slot among => (slotted slot among).1
    exact ⟨kept, Scan.ofTokensFrom_of_nameless encoding scannedToo nameless, slotted, counts⟩

/-- Literals with slots and marks in them, between two marks, a mark before a newline and a mark at
the end; and a template that such bytes are. -/
theorem expand_rereads_of_marks :
    let template : Bytes := [0x25, 0x25, 0x25, 0x73, 0x25, 0x0A, 0x25, 0x73, 0x25]
    let kept : Scan := ⟨[⟨[0x25, 0x25], .position 0, .auto⟩, ⟨[0x25, 0x0A], .position 1, .auto⟩],
      [0x25]⟩
    let literals : List Bytes := [[0x25, 0x73], [0x25, 0x25]]
    let query : Bytes := [0x25, 0x25, 0x25, 0x28, 0x78, 0x29, 0x74, 0x25, 0x0A, 0x25, 0x28, 0x78,
      0x29, 0x74, 0x25]
    Scan.ofBytes "utf8" false template = .ok kept ∧ kept.Slotted ∧ literals.length = kept.count ∧
      expand template literals = .ok [0x25, 0x25, 0x73, 0x25, 0x0A, 0x25, 0x25, 0x25] ∧
      ∃ client, ClientQuery.ofBytes "utf8" query = .ok client ∧ client.template = template ∧
        ∃ again, Scan.ofBytes "utf8" false client.template = .ok again ∧ again.Slotted := by
  intro template kept literals query
  obtain ⟨expands, templates⟩ := expand_rereads "utf8"
  have scanned : Scan.ofBytes "utf8" false template = .ok kept := by cbv
  have slotted : kept.Slotted := by
    intro slot among
    fin_cases among <;> exact ⟨rfl, rfl⟩
  obtain ⟨collapsed, collapses, _, filled⟩ := expands template kept scanned slotted
  have found : Scan.ofBytes "utf8" true template = .ok ⟨[⟨[0x25], .position 0, .auto⟩,
    ⟨[0x25, 0x0A], .position 1, .auto⟩], [0x25]⟩ := by cbv
  cases found.symm.trans collapses
  obtain ⟨client, parsed, same⟩ : ∃ client, ClientQuery.ofBytes "utf8" query = .ok client ∧
      client.template = template := ⟨_, by cbv, rfl⟩
  obtain ⟨again, rescanned, all, _⟩ := templates query client parsed
  have expanded := (filled literals rfl).1
  exact ⟨scanned, slotted, rfl, expanded, client, parsed, same, again, rescanned, all⟩

end Template

end QueryBind
