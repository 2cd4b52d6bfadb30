import QueryBind.Proofs.Placeholder.Seams

/-! # Inert text

Text in which each mark is one of two or stands in front of a newline. Among bytes this is exactly
the text that adds no placeholder wherever it stands: its tokens are text, and a slot letter behind
it stays a letter (`Token.Reads.inert_iff`). Whether text is inert can be told before it is spelled
in other items, as long as marks and newlines stand for themselves (`Marks.Spells.inert_flatMap`).
-/

namespace QueryBind

/-- The mark and the newline that may follow it, among items of any kind. -/
structure Marks (α : Type) where
  mark : α
  newline : α
  apart : newline ≠ mark

namespace Marks

/-- The signs as bytes. -/
def bytes : Marks UInt8 :=
  ⟨markByte, newlineByte, by decide⟩

/-- The signs as characters. -/
def chars : Marks Char :=
  ⟨'%', '\n', by decide⟩

variable {α β : Type} [DecidableEq α] [DecidableEq β] (signs : Marks α)

/-- Each mark is one of two or stands in front of a newline. -/
def inert : List α → Bool
  | [] => true
  | [a] => a ≠ signs.mark
  | a :: b :: rest =>
    if a = signs.mark then
      if b = signs.mark then inert rest else b = signs.newline && inert (b :: rest)
    else inert (b :: rest)

variable {signs}

/-- What is no mark does not decide whether items are inert. -/
theorem inert_cons_of_ne {a : α} (plain : a ≠ signs.mark) (rest : List α) :
    signs.inert (a :: rest) = signs.inert rest := by
  cases rest with
  | nil => simp [inert, plain]
  | cons b rest => simp only [inert, if_neg plain]

/-- Two marks stand for one. -/
theorem inert_mark_mark (rest : List α) :
    signs.inert (signs.mark :: signs.mark :: rest) = signs.inert rest := by
  simp only [inert, if_true]

/-- A mark at the end of a line is inert. -/
theorem inert_mark_newline (rest : List α) :
    signs.inert (signs.mark :: signs.newline :: rest) = signs.inert rest := by
  simp only [inert, if_true, if_neg signs.apart, decide_true, Bool.true_and]
  exact inert_cons_of_ne signs.apart rest

/-- A mark that nothing makes text. -/
theorem inert_mark_of_head {rest : List α} (notMark : rest.head? ≠ some signs.mark)
    (notNewline : rest.head? ≠ some signs.newline) :
    signs.inert (signs.mark :: rest) = false := by
  cases rest with
  | nil => simp [inert]
  | cons b rest =>
      have other : b ≠ signs.mark := fun same => notMark (congrArg some same)
      have also : b ≠ signs.newline := fun same => notNewline (congrArg some same)
      simp [inert, other, also]

/-- Items without a mark may stand in front. -/
theorem inert_append_of_not_mem {front : List α} (absent : signs.mark ∉ front) (rest : List α) :
    signs.inert (front ++ rest) = signs.inert rest := by
  induction front with
  | nil => rfl
  | cons a front ih =>
      have plain : a ≠ signs.mark := fun same => absent (same ▸ List.mem_cons_self)
      rw [List.cons_append, inert_cons_of_ne plain, ih (List.not_mem_of_not_mem_cons absent)]

/-- Items without a mark are inert. -/
theorem inert_of_not_mem {items : List α} (absent : signs.mark ∉ items) :
    signs.inert items = true := by
  rw [← List.append_nil items, inert_append_of_not_mem absent]
  rfl

/-- A way of spelling items in other ones: mark and newline stand for themselves, and every other
item is spelled with something else. -/
structure Spells (signs : Marks α) (others : Marks β) (spell : α → List β) : Prop where
  mark : spell signs.mark = [others.mark]
  newline : spell signs.newline = [others.newline]
  plain : ∀ a, a ≠ signs.mark → a ≠ signs.newline →
    spell a ≠ [] ∧ others.mark ∉ spell a ∧ others.newline ∉ spell a

omit [DecidableEq α] in
/-- Items spell themselves. -/
theorem spells_singleton (signs : Marks α) : signs.Spells signs (fun a => [a]) where
  mark := rfl
  newline := rfl
  plain := by
    intro a notMark notNewline
    rw [List.mem_singleton, List.mem_singleton]
    exact ⟨List.cons_ne_nil _ _, Ne.symm notMark, Ne.symm notNewline⟩

/-- Text may be spelled, and closed with what keeps a mark at its end a mark, before or after it
is told inert. -/
theorem Spells.inert_flatMap {others : Marks β} {spell : α → List β}
    (spells : signs.Spells others spell) (close : List β)
    (notMark : close.head? ≠ some others.mark) (notNewline : close.head? ≠ some others.newline)
    (items : List α) :
    others.inert (items.flatMap spell ++ close) = (signs.inert items && others.inert close) := by
  have absent : ∀ a, a ≠ signs.mark → others.mark ∉ spell a := by
    intro a other
    by_cases newline : a = signs.newline
    · rw [newline, spells.newline, List.mem_singleton]
      exact others.apart.symm
    · exact (spells.plain a other newline).2.1
  fun_induction signs.inert items with
  | case1 => rfl
  | case2 a =>
      by_cases marked : a = signs.mark
      · simp [marked, spells.mark, inert_mark_of_head notMark notNewline]
      · simp [marked, inert_append_of_not_mem (absent a marked)]
  | case3 rest ih =>
      rw [List.flatMap_cons, List.flatMap_cons, spells.mark, ← ih]
      exact inert_mark_mark _
  | case4 b rest notMarkToo ih =>
      rw [List.flatMap_cons, spells.mark]
      by_cases newline : b = signs.newline
      · subst newline
        rw [List.flatMap_cons, spells.newline] at ih ⊢
        rw [decide_eq_true rfl, Bool.true_and, ← ih]
        exact (inert_mark_newline _).trans (inert_cons_of_ne others.apart _).symm
      · obtain ⟨filled, noMark, noNewline⟩ := spells.plain b notMarkToo newline
        obtain ⟨c, spelled, split⟩ := List.exists_cons_of_ne_nil filled
        rw [split] at noMark noNewline
        simp only [newline, decide_false, Bool.false_and, List.flatMap_cons, split]
        refine inert_mark_of_head ?_ ?_
        · rintro ⟨⟩
          exact noMark List.mem_cons_self
        · rintro ⟨⟩
          exact noNewline List.mem_cons_self
  | case5 a b rest other ih =>
      rw [List.flatMap_cons, List.append_assoc, inert_append_of_not_mem (absent a other), ih]

end Marks

namespace Token

private theorem getLast?_cons_ne_lone {token : Token} (other : token ≠ .lone)
    (tokens : List Token) :
    (token :: tokens).getLast? ≠ some .lone ↔ tokens.getLast? ≠ some .lone := by
  rw [List.getLast?_cons]
  cases tokens.getLast? <;> simp [other]

/-- A query whose last token is a lone mark ends in a mark. -/
theorem getLast?_of_lone {query : Bytes} (lone : (tokenize query).getLast? = some .lone) :
    query.getLast? = some markByte := by
  obtain ⟨front, split⟩ := List.getLast?_eq_some_iff.mp lone
  rw [← bytes_tokenize query, split, List.flatMap_append]
  exact List.getLast?_concat

/-- **Inert bytes.** They have no placeholder, and none begins at their end. -/
theorem Reads.inert_iff {bytes : Bytes} {tokens : List Token} (reads : Reads bytes tokens) :
    Marks.bytes.inert bytes = true ↔
      placeholders tokens = [] ∧ tokens.getLast? ≠ some .lone := by
  induction reads with
  | done => simp [Marks.inert, placeholders]
  | @plain byte rest tokens notMark _ ih =>
      have step : Marks.bytes.inert (byte :: rest) = Marks.bytes.inert rest :=
        Marks.inert_cons_of_ne notMark rest
      have other : Token.plain byte ≠ .lone := by
        intro same
        cases same
      rw [step, ih, placeholders_cons_of_text rfl, getLast?_cons_ne_lone other]
  | @doubled rest tokens _ ih =>
      have step : Marks.bytes.inert (markByte :: markByte :: rest) = Marks.bytes.inert rest :=
        Marks.inert_mark_mark rest
      have other : Token.doubled ≠ .lone := by
        intro same
        cases same
      rw [step, ih, placeholders_cons_of_text rfl, getLast?_cons_ne_lone other]
  | atEnd => simp [Marks.inert, Marks.bytes]
  | @beforeNewline rest tokens more ih =>
      have step : Marks.bytes.inert (markByte :: newlineByte :: rest) =
          Marks.bytes.inert (newlineByte :: rest) :=
        (Marks.inert_mark_newline rest).trans (Marks.inert_cons_of_ne Marks.bytes.apart rest).symm
      -- The newline is a token of its own, so the mark is not the last one.
      cases more with
      | plain notMark more =>
          have text := placeholders_cons_of_text (show Token.lone.isPlaceholder = false from rfl)
          rw [step, ih, text, List.getLast?_cons_cons]
  | @named bytes name rest last tokens _ _ _ =>
      have notMark : openByte ≠ markByte := by decide
      have notNewline : openByte ≠ newlineByte := by decide
      have refused : Marks.bytes.inert (markByte :: openByte :: bytes) = false :=
        Marks.inert_mark_of_head (fun same => notMark (Option.some.inj same))
          fun same => notNewline (Option.some.inj same)
      rw [refused, placeholders_cons rfl]
      simp
  | @short last rest tokens notMark notNewline _ _ _ =>
      have refused : Marks.bytes.inert (markByte :: last :: rest) = false :=
        Marks.inert_mark_of_head (fun same => notMark (Option.some.inj same))
          fun same => notNewline (Option.some.inj same)
      rw [refused, placeholders_cons rfl]
      simp

end Token

end QueryBind
