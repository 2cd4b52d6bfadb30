import QueryBind.Proofs.Statement.Agreement
import QueryBind.Proofs.Statement.Expansion

/-! # Templates and literals that fit

A template takes one literal for every pair `%s` that is met when it is read from left to right and
two marks are taken as a pair of their own (`Template.pairs`). Two loops count these pairs when
literals do not fit. The one that fills the template stops after the byte of a mark that begins no
pair; the other one steps over the byte behind it as well. Since that byte is no mark, both come to
the same number, whatever marks there are (`Template.expand_fits`).
-/

namespace QueryBind.Template

/-- The number of pairs `%s`, two marks being a pair of their own. A byte that begins no pair is
passed over alone. -/
def pairs : Bytes → Nat
  | b :: next :: rest =>
    if [b, next] = [markByte, markByte] then pairs rest
    else if [b, next] = slotBytes then pairs rest + 1
    else pairs (next :: rest)
  | _ => 0

private theorem pairs_cons_of_ne {b : UInt8} (notMark : b ≠ markByte) (rest : Bytes) :
    pairs (b :: rest) = pairs rest := by
  cases rest with
  | nil => rfl
  | cons next rest => simp [pairs, slotBytes, notMark]

private theorem pairs_doubled (rest : Bytes) :
    pairs (markByte :: markByte :: rest) = pairs rest := by
  simp [pairs]

private theorem pairs_slot (rest : Bytes) :
    pairs (markByte :: Format.auto.byte :: rest) = pairs rest + 1 := by
  have notMark : Format.auto.byte ≠ markByte := by decide
  simp [pairs, slotBytes, notMark]

/-- A mark in front of any other byte begins no pair, and neither does that byte. -/
theorem pairs_mark {next : UInt8} (notMark : next ≠ markByte) (notSlot : next ≠ Format.auto.byte)
    (rest : Bytes) : pairs (markByte :: next :: rest) = pairs rest := by
  have alone : pairs (markByte :: next :: rest) = pairs (next :: rest) := by
    simp [pairs, slotBytes, notMark, notSlot]
  rw [alone, pairs_cons_of_ne notMark]

/-- The count that steps over the byte behind every mark finds the same pairs. -/
theorem slotCount_eq_pairs (template : Bytes) : slotCount template = pairs template := by
  fun_induction slotCount template with
  | case1 rest ih => rw [pairs_slot, ih]
  | case2 next rest notSlot ih =>
      by_cases doubles : next = markByte
      · rw [doubles, pairs_doubled, ih]
      · rw [pairs_mark doubles notSlot, ih]
  | case3 b next rest notMark ih => rw [pairs_cons_of_ne notMark, ih]
  | case4 template short =>
      match template with
      | [] | [_] => rfl
      | b :: next :: rest => exact absurd rfl (short b next rest)

/-- What filling comes to if so many slots lie in front, and so many slots and literals are left. -/
inductive Fits (filled slots given : Nat) : Except Misfit Bytes → Prop
  | exactly (bytes : Bytes) (same : given = slots) : Fits filled slots given (.ok bytes)
  | tooFew (fewer : given < slots) : Fits filled slots given (.error .tooFew)
  | tooMany (more : slots < given) : Fits filled slots given (.error (.tooMany (filled + slots)))

namespace Fits

variable {filled slots given : Nat} {outcome : Except Misfit Bytes}

private theorem map (fits : Fits filled slots given outcome) (f : Bytes → Bytes) :
    Fits filled slots given (outcome.map f) := by
  cases fits with
  | exactly bytes same => exact .exactly (f bytes) same
  | tooFew fewer => exact .tooFew fewer
  | tooMany more => exact .tooMany more

/-- A slot that takes a literal. -/
theorem slot (fits : Fits (filled + 1) slots given outcome) :
    Fits filled (slots + 1) (given + 1) outcome := by
  cases fits with
  | exactly bytes same => exact .exactly bytes (congrArg (· + 1) same)
  | tooFew fewer => exact .tooFew (Nat.succ_lt_succ fewer)
  | tooMany more =>
      rw [Nat.add_assoc, Nat.add_comm 1]
      exact .tooMany (Nat.succ_lt_succ more)

end Fits

/-- Filling a template compares its slots with the literals. -/
theorem fill_fits (filled : Nat) (template : Bytes) (literals : List Bytes) :
    Fits filled (pairs template) literals.length (fill filled template literals) := by
  fun_induction fill filled template literals with
  | case1 filled rest literals ih =>
      rw [pairs_doubled]
      exact ih.map _
  | case2 filled rest notMark =>
      rw [pairs_slot]
      exact .tooFew (Nat.succ_pos _)
  | case3 filled rest literal others notMark ih =>
      rw [pairs_slot]
      exact (ih.map _).slot
  | case4 filled next rest literals notMark notSlot ih =>
      rw [pairs_mark notMark notSlot, ← pairs_cons_of_ne notMark]
      exact ih.map _
  | case5 filled b next rest literals notMark ih =>
      rw [pairs_cons_of_ne notMark]
      exact ih.map _
  | case6 filled b => exact .exactly [b] rfl
  | case8 filled => exact .exactly [] rfl
  | case7 filled b literals left | case9 filled literals left =>
      exact .tooMany (List.length_pos_iff.mpr left)

/-- A template that is filled takes one literal for every slot. -/
theorem length_of_fill {filled : Nat} {template expanded : Bytes} {literals : List Bytes}
    (came : fill filled template literals = .ok expanded) :
    literals.length = slotCount template := by
  have fits := fill_fits filled template literals
  rw [came] at fits
  cases fits with
  | exactly _ same => exact same.trans (slotCount_eq_pairs template).symm

/-- A template has one pair `%s` for every placeholder of its query. -/
theorem pairs_template {encoding : String} {codec : Text.Codec}
    (selected : Encoding.codec encoding = .ok codec) {query : Bytes} {client : ClientQuery}
    (parsed : ClientQuery.ofBytes encoding query = .ok client) :
    pairs client.template = client.scan.count := by
  obtain ⟨scan, scanned, rfl⟩ := Outcome.map_eq_ok.mp parsed
  obtain ⟨_, rfl⟩ := (Scan.ofBytes_eq_ok_iff selected false query scan).mp scanned
  have filled := fill_ofTokens codec (Token.reads_tokenize query) 0 0
    (List.length_replicate (a := ([] : Bytes)))
  rw [template_ofScan, ← slotCount_eq_pairs, ← length_of_fill filled, List.length_replicate]
  exact (Scan.length_slots_cut codec false 0 _).symm

/-- The values that a query for the client takes are as many as the pairs of its template. -/
theorem length_of_bind {encoding : String} {codec : Text.Codec}
    (selected : Encoding.codec encoding = .ok codec) {query : Bytes} {client : ClientQuery}
    (parsed : ClientQuery.ofBytes encoding query = .ok client) {params : Value}
    {values : List Value} (bound : Params.bind client.scan client.order params = .ok values) :
    values.length = pairs client.template :=
  (ClientQuery.length_of_bind selected parsed bound).trans (pairs_template selected parsed).symm

/-- As many literals as there are pairs fit. -/
theorem exists_expand {template : Bytes} {literals : List Bytes}
    (enough : literals.length = pairs template) :
    ∃ bytes, expand template literals = .ok bytes := by
  have fits := fill_fits 0 template literals
  unfold expand
  generalize fill 0 template literals = filled at fits
  cases fits with
  | exactly bytes _ => exact ⟨bytes, rfl⟩
  | tooFew fewer => exact absurd enough (Nat.ne_of_lt fewer)
  | tooMany more => exact absurd enough (Nat.ne_of_gt more)

/-- **Expansion fails exactly if the counts differ, and reports both.** Whatever marks a template
has, it is expanded if there is one literal for each of its pairs; if there are fewer or more, the
error has the number of pairs and the number of literals. -/
theorem expand_fits (template : Bytes) (literals : List Bytes) :
    ((∃ bytes, expand template literals = .ok bytes) ↔ literals.length = pairs template) ∧
      ∀ error, expand template literals = .error error ↔
        literals.length ≠ pairs template ∧
          error = .paramCount (pairs template) literals.length := by
  have fits := fill_fits 0 template literals
  unfold expand
  generalize fill 0 template literals = filled at fits
  cases fits with
  | exactly bytes same => simp [same]
  | tooFew fewer => simp [slotCount_eq_pairs, Nat.ne_of_lt fewer, eq_comm]
  | tooMany more => simp [Nat.ne_of_gt more, eq_comm]

/-- A mark before another letter, two marks in front of an `s`, and a mark at the end. -/
example :
    let template : Bytes := [0x25, 0x78, 0x25, 0x25, 0x73, 0x25, 0x73, 0x25]
    expand template [] = .error (.paramCount 1 0) ∧
      expand template [[], []] = .error (.paramCount 1 2) :=
  ⟨rfl, rfl⟩

end QueryBind.Template
