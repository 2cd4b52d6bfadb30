import QueryBind.Placeholder.Token

/-! # The grammar of query tokens

The reading of raw query bytes as rules that do not mention the reader: `Token.Reads` relates
bytes to the tokens that they are read as from left to right. The reader finds a reading of
any bytes, and there is no other one (`Token.reads_iff`).
-/

namespace QueryBind.Token

/-- The bytes behind an opening parenthesis complete a named placeholder: a name that is not
empty and runs to the first closing parenthesis, and one byte more that is no newline. -/
structure Completes (bytes name : Bytes) (last : UInt8) (rest : Bytes) : Prop where
  spelled : bytes = name ++ closeByte :: last :: rest
  notEmpty : name ≠ []
  first : closeByte ∉ name
  lastByte : last ≠ newlineByte

/-- The tokens that bytes are read as, from left to right. -/
inductive Reads : Bytes → List Token → Prop where
  | done : Reads [] []
  | plain {byte : UInt8} {rest : Bytes} {tokens : List Token} (notMark : byte ≠ markByte)
      (more : Reads rest tokens) : Reads (byte :: rest) (.plain byte :: tokens)
  | doubled {rest : Bytes} {tokens : List Token} (more : Reads rest tokens) :
      Reads (markByte :: markByte :: rest) (.doubled :: tokens)
  | atEnd : Reads [markByte] [.lone]
  | beforeNewline {rest : Bytes} {tokens : List Token}
      (more : Reads (newlineByte :: rest) tokens) :
      Reads (markByte :: newlineByte :: rest) (.lone :: tokens)
  | named {bytes name rest : Bytes} {last : UInt8} {tokens : List Token}
      (complete : Completes bytes name last rest) (more : Reads rest tokens) :
      Reads (markByte :: openByte :: bytes) (.named name last :: tokens)
  | short {last : UInt8} {rest : Bytes} {tokens : List Token} (notMark : last ≠ markByte)
      (notNewline : last ≠ newlineByte)
      (incomplete : last = openByte → ∀ name final after, ¬ Completes rest name final after)
      (more : Reads rest tokens) : Reads (markByte :: last :: rest) (.short last :: tokens)

/-- A name is cut off at the first closing parenthesis. -/
theorem splitName?_append (name rest : Bytes) (first : closeByte ∉ name) :
    splitName? (name ++ closeByte :: rest) = some (name, rest) := by
  induction name with
  | nil => simp [splitName?]
  | cons b name ih =>
      have different : closeByte ≠ b := List.ne_of_not_mem_cons first
      have later : closeByte ∉ name := List.not_mem_of_not_mem_cons first
      simp [splitName?, Ne.symm different, ih later]

private theorem not_mem_of_splitName? {bytes name rest : Bytes}
    (split : splitName? bytes = some (name, rest)) : closeByte ∉ name := by
  induction bytes generalizing name with
  | nil => simp [splitName?] at split
  | cons b tail ih =>
      unfold splitName? at split
      split at split
      · simp only [Option.some.injEq, Prod.mk.injEq] at split
        simp [← split.1]
      · next different =>
          obtain ⟨⟨inner, after⟩, found, same⟩ := Option.map_eq_some_iff.mp split
          simp only [Prod.mk.injEq] at same
          obtain ⟨rfl, rfl⟩ := same
          exact List.not_mem_cons_of_ne_of_not_mem (Ne.symm different) (ih found)

/-- A named placeholder is found exactly where bytes complete one. -/
theorem named?_eq_some_iff {bytes rest : Bytes} {token : Token} :
    named? bytes = some (token, rest) ↔
      ∃ name last, token = .named name last ∧ Completes bytes name last rest := by
  constructor
  · intro found
    unfold named? at found
    split at found
    · next name last after split =>
        split at found
        · simp at found
        · next proper =>
            simp only [Option.some.injEq, Prod.mk.injEq] at found
            obtain ⟨rfl, rfl⟩ := found
            rw [not_or] at proper
            exact ⟨name, last, rfl, splitName?_eq_some split, proper.1,
              not_mem_of_splitName? split, proper.2⟩
    · simp at found
  · rintro ⟨name, last, rfl, complete⟩
    have split := splitName?_append name (last :: rest) complete.first
    rw [← complete.spelled] at split
    simp [named?, split, complete.notEmpty, complete.lastByte]

/-- The reader finds a reading. -/
theorem reads_tokenize (query : Bytes) : Reads query (tokenize query) := by
  fun_induction tokenize query with
  | case1 => exact .done
  | case3 b rest notMark ih => exact .plain notMark ih
  | case2 rest ih =>
      cases rest with
      | nil =>
          simp only [afterMark, tokenize]
          exact .atEnd
      | cons b rest =>
          by_cases newline : b = newlineByte
          · subst newline
            simp only [afterMark, if_true] at ih ⊢
            exact .beforeNewline ih
          by_cases doubles : b = markByte
          · subst doubles
            simp only [afterMark, newline, if_true, if_false] at ih ⊢
            exact .doubled ih
          by_cases opens : b = openByte
          · subst opens
            simp only [afterMark, newline, doubles, if_true, if_false] at ih ⊢
            cases found : named? rest with
            | none =>
                rw [found] at ih
                refine .short doubles newline (fun _ name final after complete => ?_) ih
                have present := named?_eq_some_iff.mpr ⟨name, final, rfl, complete⟩
                simp [found] at present
            | some pair =>
                obtain ⟨token, after⟩ := pair
                rw [found] at ih
                obtain ⟨name, last, rfl, complete⟩ := named?_eq_some_iff.mp found
                exact .named complete ih
          · simp only [afterMark, newline, doubles, opens, if_false] at ih ⊢
            exact .short doubles newline (fun open_ => absurd open_ opens) ih

/-- There is no other reading than the reader's. -/
theorem Reads.eq_tokenize {query : Bytes} {tokens : List Token} (reads : Reads query tokens) :
    tokens = tokenize query := by
  induction reads with
  | done => simp [tokenize]
  | plain notMark _ ih => rw [tokenize, if_neg notMark, ih]
  | doubled _ ih => simp [tokenize, afterMark, show markByte ≠ newlineByte by decide, ih]
  | atEnd => simp [tokenize, afterMark]
  | beforeNewline _ ih => rw [tokenize, if_pos rfl, ih]; simp [afterMark]
  | @named bytes name rest last tokens complete _ ih =>
      have found : named? bytes = some (.named name last, rest) :=
        named?_eq_some_iff.mpr ⟨name, last, rfl, complete⟩
      rw [tokenize, if_pos rfl, ih]
      simp [afterMark, found, show openByte ≠ newlineByte by decide,
        show openByte ≠ markByte by decide]
  | @short last rest tokens notMark notNewline incomplete _ ih =>
      rw [tokenize, if_pos rfl, ih]
      by_cases opens : last = openByte
      · have absent : named? rest = none := by
          cases found : named? rest with
          | none => rfl
          | some pair =>
              obtain ⟨name, final, _, complete⟩ := named?_eq_some_iff.mp found
              exact absurd complete (incomplete opens name final pair.2)
        subst opens
        simp [afterMark, notMark, notNewline, absent]
      · simp [afterMark, notMark, notNewline, opens]

/-- **Every query is read in exactly one way.** The rules determine the tokens of a query, and
the reader computes them. -/
theorem reads_iff {query : Bytes} {tokens : List Token} :
    Reads query tokens ↔ tokens = tokenize query :=
  ⟨Reads.eq_tokenize, fun same => same ▸ reads_tokenize query⟩

end QueryBind.Token
