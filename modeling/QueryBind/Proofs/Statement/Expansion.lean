import QueryBind.Proofs.Placeholder.Acceptance
import QueryBind.Statement.Client
import QueryBind.Statement.Template

/-! # Expanding the template of a query

A template is read a second time when literals are put into it. That reading agrees with the
first one: it fills exactly the slots that stand for placeholders and makes one mark of two
exactly where the query has two (`Template.fill_ofTokens`). A mark that is text could only deceive
it by standing in front of a slot, and a mark that is text stands before a newline or at the end.
-/

namespace QueryBind.Template

open Text (Codec)

private theorem fill_cons_of_ne {b : UInt8} (notMark : b ≠ markByte) (filled : Nat) (rest : Bytes)
    (literals : List Bytes) :
    fill filled (b :: rest) literals = (fill filled rest literals).map (b :: ·) := by
  cases rest with
  | nil =>
      simp only [fill]
      split <;> rfl
  | cons next rest => simp only [fill, if_neg notMark]

private theorem fill_doubled (filled : Nat) (rest : Bytes) (literals : List Bytes) :
    fill filled (markByte :: markByte :: rest) literals =
      (fill filled rest literals).map (markByte :: ·) := by
  simp only [fill, if_true]

private theorem fill_beforeNewline (filled : Nat) (rest : Bytes) (literals : List Bytes) :
    fill filled (markByte :: newlineByte :: rest) literals =
      (fill filled (newlineByte :: rest) literals).map (markByte :: ·) := by
  have notMark : newlineByte ≠ markByte := by decide
  have notSlot : newlineByte ≠ Format.auto.byte := by decide
  simp only [fill, if_true, if_neg notMark, if_neg notSlot]

private theorem fill_slot (filled : Nat) (rest literal : Bytes) (others : List Bytes) :
    fill filled (slotBytes ++ rest) (literal :: others) =
      (fill (filled + 1) rest others).map (literal ++ ·) := by
  have notMark : Format.auto.byte ≠ markByte := by decide
  simp only [slotBytes, List.cons_append, List.nil_append, fill, if_true, if_neg notMark]

/-- What a query's tokens leave in its template, with a slot for every placeholder. -/
def ofTokens (codec : Codec) (count : Nat) (tokens : List Token) : Bytes :=
  (Scan.cut codec false count tokens).weave
    (List.replicate (Token.placeholders tokens).length slotBytes)

/-- Text is text of the template. -/
theorem ofTokens_cons_of_text (codec : Codec) (count : Nat) {token : Token}
    (text : token.isPlaceholder = false) (rest : List Token) :
    ofTokens codec count (token :: rest) = token.bytes ++ ofTokens codec count rest := by
  have enough : (Scan.cut codec false count rest).slots.length =
      (List.replicate (Token.placeholders rest).length slotBytes).length := by
    rw [Scan.length_slots_cut, List.length_replicate]
  rw [ofTokens, Token.placeholders_cons_of_text text, Scan.cut_cons_of_text _ _ _ text,
    Scan.weave_prepend _ _ _ enough, Token.textBytes_false]
  rfl

/-- A placeholder is a slot of the template. -/
theorem ofTokens_cons (codec : Codec) (count : Nat) {token : Token}
    (placeholder : token.isPlaceholder = true) (rest : List Token) :
    ofTokens codec count (token :: rest) = slotBytes ++ ofTokens codec (count + 1) rest := by
  rw [ofTokens, Token.placeholders_cons placeholder, Scan.cut_cons _ _ _ placeholder,
    List.length_cons, List.replicate_succ, Scan.weave_push]
  rfl

/-- Text stands in front of what is woven behind it. -/
theorem weave_cut_cons_of_text (codec : Codec) (count : Nat) {token : Token}
    (text : token.isPlaceholder = false) {rest : List Token} {literals : List Bytes}
    (enough : literals.length = (Token.placeholders (token :: rest)).length) :
    (Scan.cut codec true count (token :: rest)).weave literals =
      token.textBytes true ++ (Scan.cut codec true count rest).weave literals := by
  rw [Token.placeholders_cons_of_text text] at enough
  rw [Scan.cut_cons_of_text _ _ _ text, Scan.weave_prepend]
  rw [Scan.length_slots_cut, enough]

private theorem fill_ofTokens_cons (codec : Codec) {filled count : Nat} {token : Token}
    (placeholder : token.isPlaceholder = true) {rest : List Token}
    (later : ∀ {literals : List Bytes}, literals.length = (Token.placeholders rest).length →
      fill (filled + 1) (ofTokens codec (count + 1) rest) literals =
        .ok ((Scan.cut codec true (count + 1) rest).weave literals))
    {literals : List Bytes}
    (enough : literals.length = (Token.placeholders (token :: rest)).length) :
    fill filled (ofTokens codec count (token :: rest)) literals =
      .ok ((Scan.cut codec true count (token :: rest)).weave literals) := by
  rw [Token.placeholders_cons placeholder, List.length_cons] at enough
  obtain ⟨literal, others, rfl⟩ := List.exists_cons_of_length_eq_add_one enough
  rw [ofTokens_cons codec count placeholder, fill_slot, Scan.cut_cons _ _ _ placeholder,
    Scan.weave_push, later (Nat.succ.inj enough)]
  rfl

/-- **The second reading agrees with the first.** With one literal for every placeholder, the
template of a query becomes the query with two marks made one and the literals at the
placeholders. -/
theorem fill_ofTokens (codec : Codec) {query : Bytes} {tokens : List Token}
    (reads : Token.Reads query tokens) (filled count : Nat) {literals : List Bytes}
    (enough : literals.length = (Token.placeholders tokens).length) :
    fill filled (ofTokens codec count tokens) literals =
      .ok ((Scan.cut codec true count tokens).weave literals) := by
  induction reads generalizing filled count literals with
  | done =>
      rw [List.length_eq_zero_iff.mp enough]
      rfl
  | plain notMark _ ih =>
      rw [ofTokens_cons_of_text codec count rfl, weave_cut_cons_of_text codec count rfl enough]
      rw [Token.bytes, List.singleton_append, fill_cons_of_ne notMark, ih filled count enough]
      rfl
  | doubled _ ih =>
      rw [ofTokens_cons_of_text codec count rfl, weave_cut_cons_of_text codec count rfl enough]
      rw [Token.bytes, List.cons_append, List.singleton_append, fill_doubled,
        ih filled count enough]
      rfl
  | atEnd =>
      rw [List.length_eq_zero_iff.mp enough]
      rfl
  | @beforeNewline rest tokens more ih =>
      rw [ofTokens_cons_of_text codec count rfl, weave_cut_cons_of_text codec count rfl enough]
      -- The newline is a token of its own, so the template goes on with it.
      cases more with
      | plain notMark more =>
          have next := ih filled count enough
          rw [ofTokens_cons_of_text codec count rfl, Token.bytes, List.singleton_append] at next ⊢
          rw [Token.bytes, List.singleton_append, fill_beforeNewline, next]
          rfl
  | named _ _ ih => exact fill_ofTokens_cons codec rfl (fun more => ih _ _ more) enough
  | short _ _ _ _ ih => exact fill_ofTokens_cons codec rfl (fun more => ih _ _ more) enough

/-- The template of a query is made from its tokens. -/
theorem template_ofScan (codec : Codec) (tokens : List Token) :
    (ClientQuery.ofScan (Scan.cut codec false 0 tokens)).template = ofTokens codec 0 tokens := by
  rw [ClientQuery.ofScan, ofTokens, List.map_const', Scan.length_slots_cut]

/-- With one literal for every placeholder, the template becomes the query for the server with
the literals at its markers. -/
theorem expand_ofScan {encoding : String} {codec : Codec}
    (selected : Encoding.codec encoding = .ok codec) {query : Bytes} {scan counterpart : Scan}
    (scanned : Scan.ofBytes encoding true query = .ok scan)
    (kept : Scan.ofBytes encoding false query = .ok counterpart) {literals : List Bytes}
    (enough : literals.length = scan.count) :
    expand (ClientQuery.ofScan counterpart).template literals = .ok (scan.weave literals) := by
  obtain ⟨_, rfl⟩ := (Scan.ofBytes_eq_ok_iff selected true query scan).mp scanned
  obtain ⟨_, rfl⟩ := (Scan.ofBytes_eq_ok_iff selected false query counterpart).mp kept
  rw [Scan.count, Scan.length_slots_cut] at enough
  rw [expand, template_ofScan, fill_ofTokens codec (Token.reads_tokenize query) 0 0 enough]

end QueryBind.Template
