import Mathlib
import QueryBind.Proofs.Statement.Rereading

/-! # Templates as queries

A template is a query of its own: it is read as the tokens of the query that it came from, with
`%s` for every placeholder (`Token.Reads.slotted`). So its scan has the fragments of the query and
as many placeholders, counted from zero, and its template is itself
(`ClientQuery.ofBytes_template`).
-/

namespace QueryBind

open Text (Codec)

namespace Scan

/-- A scan behind `count` placeholders beside that of its template: the fragments are the same, and
the placeholders are numbered and leave their formats open. -/
structure Rewritten (count : Nat) (own template : Scan) : Prop where
  fragments : template.fragments = own.fragments
  demands : template.demands =
    (List.range' count own.count).map fun index => (.position index, .auto)

namespace Rewritten

variable {count : Nat} {own template : Scan}

private theorem prepend (rewritten : Rewritten count own template) (bytes : Bytes) :
    Rewritten count (own.prepend bytes) (template.prepend bytes) where
  fragments := by rw [fragments_prepend, fragments_prepend, rewritten.fragments]
  demands := by
    rw [demands_prepend, rewritten.demands, Scan.count, Scan.count, slots_prepend_length]

private theorem push (rewritten : Rewritten (count + 1) own template) (key : Key)
    (format : Format) :
    Rewritten count (own.push key format) (template.push (.position count) .auto) where
  fragments := by rw [fragments_push, fragments_push, rewritten.fragments]
  demands := by
    rw [demands_push, rewritten.demands]
    rfl

/-- A template has no names. -/
theorem isNamed (rewritten : Rewritten count own template) : template.isNamed = false := by
  rw [Scan.isNamed, style?_eq_head?, rewritten.demands]
  cases own.count <;> rfl

end Rewritten

private theorem rewritten_cut (codec : Codec) (count : Nat) (tokens : List Token) :
    Rewritten count (cut codec false count tokens)
      (cut codec false count (tokens.map Token.slotted)) := by
  induction tokens generalizing count with
  | nil => exact ⟨rfl, rfl⟩
  | cons token rest ih =>
      rw [List.map_cons]
      by_cases placeholder : token.isPlaceholder = true
      · rw [Token.slotted_of_placeholder placeholder, cut_cons _ _ _ placeholder,
          cut_cons _ _ _ rfl]
        exact (ih (count + 1)).push _ _
      · have text := eq_false_of_ne_true placeholder
        rw [Token.slotted_of_text text, cut_cons_of_text _ _ _ text, cut_cons_of_text _ _ _ text]
        exact (ih count).prepend _

/-- The scan of a query's template, in any encoding in which the query has a scan. -/
theorem exists_rewritten {encoding : String} {query : Bytes} {scan : Scan}
    (scanned : ofBytes encoding false query = .ok scan) :
    ∃ kept, ofBytes encoding false (ClientQuery.ofScan scan).template = .ok kept ∧
      Rewritten 0 scan kept ∧
      (ClientQuery.ofScan kept).template = (ClientQuery.ofScan scan).template := by
  obtain ⟨other, codec, selected, same⟩ := exists_codec scanned
  have scannedToo := (same false scan).mp scanned
  obtain ⟨kept, rescanned, slotted, -⟩ := Template.exists_slotted selected scannedToo
  have nameless : kept.Nameless := fun slot among => (slotted slot among).1
  refine ⟨kept, ofTokensFrom_of_nameless encoding rescanned nameless, ?_,
    Template.template_of_slotted selected rescanned slotted⟩
  obtain ⟨-, rfl⟩ := (ofBytes_eq_ok_iff selected false query scan).mp scannedToo
  obtain ⟨-, rfl⟩ := (ofBytes_eq_ok_iff selected false _ kept).mp rescanned
  have reread := (Token.reads_tokenize query).slotted.eq_tokenize
  rw [Template.template_ofScan, Template.ofTokens_eq, ← reread]
  exact rewritten_cut codec 0 (Token.tokenize query)

end Scan

namespace ClientQuery

/-- **Templates are fixed points.** The template of a query is a query whose template is itself. It
has the fragments of the query that it came from, and a placeholder `%s` for each of that query's,
whatever its name and its format: no seam makes a placeholder, joins two or hides one. -/
theorem ofBytes_template {encoding : String} {query : Bytes} {client : ClientQuery}
    (parsed : ofBytes encoding query = .ok client) :
    ∃ again, ofBytes encoding client.template = .ok again ∧
      again.template = client.template ∧ again.order = none ∧
      again.scan.fragments = client.scan.fragments ∧
      again.scan.demands =
        (List.range client.scan.count).map fun index => (.position index, .auto) := by
  obtain ⟨scan, scanned, rfl⟩ := Outcome.map_eq_ok.mp parsed
  obtain ⟨kept, rescanned, rewritten, unchanged⟩ := Scan.exists_rewritten scanned
  refine ⟨ofScan kept, Outcome.map_eq_ok.mpr ⟨kept, rescanned, rfl⟩, unchanged, ?_,
    rewritten.fragments, ?_⟩
  · rw [ofScan, if_neg (ne_true_of_eq_false rewritten.isNamed)]
  · rw [List.range_eq_range']
    exact rewritten.demands

/-- Two marks in front of a named placeholder, a mark before a newline between two of them, and a
mark at the end. -/
theorem ofBytes_template_of_names :
    let query : Bytes := [0x25, 0x25, 0x25, 0x28, 0x78, 0x29, 0x74, 0x25, 0x0A, 0x25, 0x28, 0x78,
      0x29, 0x74, 0x25]
    let template : Bytes := [0x25, 0x25, 0x25, 0x73, 0x25, 0x0A, 0x25, 0x73, 0x25]
    ∃ client again, ofBytes "utf8" query = .ok client ∧ client.template = template ∧
      client.order = some ["x", "x"] ∧ ofBytes "utf8" template = .ok again ∧
      again.template = template ∧ again.order = none ∧
      again.scan.fragments = [[0x25, 0x25], [0x25, 0x0A], [0x25]] ∧
      again.scan.demands = [(.position 0, .auto), (.position 1, .auto)] := by
  intro query template
  obtain ⟨client, parsed, written, named, fragments, counted⟩ :
      ∃ client, ofBytes "utf8" query = .ok client ∧ client.template = template ∧
        client.order = some ["x", "x"] ∧
        client.scan.fragments = [[0x25, 0x25], [0x25, 0x0A], [0x25]] ∧ client.scan.count = 2 :=
    ⟨_, by cbv, rfl, rfl, rfl, rfl⟩
  obtain ⟨again, reparsed, rewritten, nameless, same, demands⟩ := ofBytes_template parsed
  rw [written] at reparsed rewritten
  rw [fragments] at same
  rw [counted] at demands
  exact ⟨client, again, parsed, written, named, reparsed, rewritten, nameless, same, demands⟩

end ClientQuery

end QueryBind
