import QueryBind.Sql.Quoted
import QueryBind.Proofs.Text.Octets

/-! # Reading literals

Literals as the server reads them when backslashes are ordinary characters outside the escape form:
the syntax as a judgement (`Sql.Reads`), and a reader that follows it and is also defined where the
judgement says nothing (`Sql.Reads.readLiteral`). The server reads bytes, and a text is written as
characters, so both work on items of any kind. A literal that was quoted is read back wherever each
character is spelled so that quotes and backslashes stand for themselves and occur nowhere else
(`Sql.reads_literalChars`), so quoting a text says that text and nothing else, in front of whatever
does not begin with a quote (`Sql.quoteText_reads`).
-/

namespace QueryBind.Sql

/-- The signs as bytes. -/
def Signs.bytes : Signs UInt8 :=
  ⟨0x20, 0x45, 0x27, 0x5C, by decide, by decide, by decide⟩

/-! ## The syntax -/

section Judgement

variable {α : Type} (signs : Signs α)

/-- What stands behind the opening quote of a literal, with the content of the literal and with
what stands behind it. Two quotes are one and, in the escape form, two backslashes are one; the
first quote that is not one of two ends the literal. -/
inductive ReadsBody (escapes : Bool) : List α → List α → List α → Prop
  | close {rest : List α} (single : rest.head? ≠ some signs.quote) :
    ReadsBody escapes (signs.quote :: rest) [] rest
  | quotes {items content rest : List α} (body : ReadsBody escapes items content rest) :
    ReadsBody escapes (signs.quote :: signs.quote :: items) (signs.quote :: content) rest
  | backslashes {items content rest : List α} (escaped : escapes = true)
    (body : ReadsBody escapes items content rest) :
    ReadsBody escapes (signs.backslash :: signs.backslash :: items) (signs.backslash :: content)
      rest
  | plain {a : α} {items content rest : List α} (notQuote : a ≠ signs.quote)
    (notBackslash : escapes = true → a ≠ signs.backslash)
    (body : ReadsBody escapes items content rest) :
    ReadsBody escapes (a :: items) (a :: content) rest

/-- A literal in either form, with its content and what stands behind it. -/
inductive ReadsForm : List α → List α → List α → Prop
  | plain {items content rest : List α} (body : ReadsBody signs false items content rest) :
    ReadsForm (signs.quote :: items) content rest
  | escape {items content rest : List α} (body : ReadsBody signs true items content rest) :
    ReadsForm (signs.letter :: signs.quote :: items) content rest

/-- A literal, which a space may precede. -/
inductive Reads : List α → List α → List α → Prop
  | bare {items content rest : List α} (form : ReadsForm signs items content rest) :
    Reads items content rest
  | spaced {items content rest : List α} (form : ReadsForm signs items content rest) :
    Reads (signs.space :: items) content rest

variable {signs}

/-- Plain items are read as they are. -/
theorem ReadsBody.append {escapes : Bool} {front items content rest : List α}
    (plain : ∀ a ∈ front, a ≠ signs.quote ∧ (escapes = true → a ≠ signs.backslash))
    (body : ReadsBody signs escapes items content rest) :
    ReadsBody signs escapes (front ++ items) (front ++ content) rest := by
  induction front with
  | nil => exact body
  | cons a front ih =>
      obtain ⟨⟨notQuote, notBackslash⟩, others⟩ := List.forall_mem_cons.mp plain
      exact .plain notQuote notBackslash (ih others)

private theorem ReadsForm.head {items content rest : List α}
    (form : ReadsForm signs items content rest) :
    items.head? = some signs.quote ∨ items.head? = some signs.letter := by
  cases form with
  | plain body => exact .inl rfl
  | escape body => exact .inr rfl

/-- A literal begins with a quote, with the letter of the escape form or with a space. -/
theorem Reads.head {items content rest : List α} (read : Reads signs items content rest) :
    items.head? = some signs.quote ∨ items.head? = some signs.letter ∨
      items.head? = some signs.space := by
  cases read with
  | bare form => exact form.head.imp_right .inl
  | spaced form => exact .inr (.inr rfl)

end Judgement

/-! ## The reader -/

section Reader

variable {α : Type} [DecidableEq α] (signs : Signs α)

/-- The content of a literal behind its opening quote, and what stands behind the literal. Two
quotes are one; in the escape form a backslash takes the next item, so that two of them are one.
The first quote that is not one of two ends the literal. -/
def readBody (escapes : Bool) : List α → Option (List α × List α)
  | [] => none
  | [a] => if a = signs.quote then some ([], []) else none
  | a :: b :: rest =>
    if a = signs.quote then
      if b = signs.quote then (readBody escapes rest).map (Prod.map (a :: ·) id)
      else some ([], b :: rest)
    else if escapes = true ∧ a = signs.backslash then
      (readBody escapes rest).map (Prod.map (b :: ·) id)
    else (readBody escapes (b :: rest)).map (Prod.map (a :: ·) id)

/-- A literal in either form. -/
def readForm : List α → Option (List α × List α)
  | [] => none
  | a :: rest =>
    if a = signs.quote then readBody signs false rest
    else if a = signs.letter ∧ rest.head? = some signs.quote then readBody signs true rest.tail
    else none

/-- The content of a literal, which a space may precede, and what stands behind it. -/
def readLiteral (items : List α) : Option (List α × List α) :=
  readForm signs (if items.head? = some signs.space then items.tail else items)

variable {signs} (escapes : Bool) (rest : List α)

/-- Two quotes are read as one. -/
@[simp] theorem readBody_quote_quote :
    readBody signs escapes (signs.quote :: signs.quote :: rest) =
      (readBody signs escapes rest).map (Prod.map (signs.quote :: ·) id) := by
  simp only [readBody, if_true]

/-- A quote that stands alone closes the literal. -/
theorem readBody_quote {rest : List α} (single : rest.head? ≠ some signs.quote) :
    readBody signs escapes (signs.quote :: rest) = some ([], rest) := by
  cases rest with
  | nil => simp only [readBody, if_true]
  | cons b rest =>
      have different : b ≠ signs.quote := fun same => single (congrArg some same)
      simp only [readBody, if_true, if_neg different]

/-- What follows a backslash is read as it is in an escaped literal. -/
@[simp] theorem readBody_backslash (b : α) :
    readBody signs true (signs.backslash :: b :: rest) =
      (readBody signs true rest).map (Prod.map (b :: ·) id) := by
  simp only [readBody, if_neg signs.backslash_ne, and_self, if_true]

/-- A plain item is read as it is. -/
theorem readBody_plain {escapes : Bool} {a : α} (notQuote : a ≠ signs.quote)
    (notBackslash : escapes = true → a ≠ signs.backslash) :
    readBody signs escapes (a :: rest) =
      (readBody signs escapes rest).map (Prod.map (a :: ·) id) := by
  have ordinary : ¬(escapes = true ∧ a = signs.backslash) := fun both =>
    notBackslash both.1 both.2
  cases rest with
  | nil => simp only [readBody, if_neg notQuote, Option.map_none]
  | cons b rest => simp only [readBody, if_neg notQuote, if_neg ordinary]

/-- The reader finds the body that can be read. -/
theorem ReadsBody.readBody {escapes : Bool} {items content rest : List α}
    (body : ReadsBody signs escapes items content rest) :
    readBody signs escapes items = some (content, rest) := by
  induction body with
  | close single => exact readBody_quote escapes single
  | quotes _ ih =>
      rw [readBody_quote_quote, ih]
      rfl
  | backslashes escaped _ ih =>
      subst escaped
      rw [readBody_backslash, ih]
      rfl
  | plain notQuote notBackslash _ ih =>
      rw [readBody_plain _ notQuote notBackslash, ih]
      rfl

/-- The reader finds the form that can be read. -/
theorem ReadsForm.readForm {items content rest : List α}
    (form : ReadsForm signs items content rest) :
    readForm signs items = some (content, rest) := by
  cases form with
  | plain body => simpa [Sql.readForm] using body.readBody
  | escape body => simpa [Sql.readForm, signs.letter_ne] using body.readBody

section Apart

variable (apart : signs.letter ≠ signs.space)

include apart

/-- The reader follows the syntax. -/
theorem Reads.readLiteral {items content rest : List α} (read : Reads signs items content rest) :
    readLiteral signs items = some (content, rest) := by
  cases read with
  | bare form =>
      have spaceless : items.head? ≠ some signs.space := by
        intro space
        rcases form.head with quote | letter
        · exact signs.space_ne (Option.some.inj (space.symm.trans quote))
        · exact apart (Option.some.inj (letter.symm.trans space))
      rw [Sql.readLiteral, if_neg spaceless]
      exact form.readForm
  | spaced form => simpa [Sql.readLiteral] using form.readForm

/-- A literal has one content, and ends at one place. -/
theorem Reads.iff {items content rest : List α} (read : Reads signs items content rest)
    {other behind : List α} :
    Reads signs items other behind ↔ other = content ∧ behind = rest := by
  constructor
  · intro also
    have same := (also.readLiteral apart).symm.trans (read.readLiteral apart)
    exact Prod.mk.inj (Option.some.inj same)
  · rintro ⟨rfl, rfl⟩
    exact read

end Apart

end Reader

/-- A way of spelling characters that the reader can follow: signs stand for themselves, and
quotes and backslashes occur nowhere else. -/
structure Spelling {α : Type} (signs : Signs α) (spell : Char → List α) : Prop where
  space : spell ' ' = [signs.space]
  letter : spell 'E' = [signs.letter]
  quote : spell '\'' = [signs.quote]
  backslash : spell '\\' = [signs.backslash]
  plain : ∀ c, c ≠ '\'' → c ≠ '\\' → ∀ a ∈ spell c, a ≠ signs.quote ∧ a ≠ signs.backslash

/-- A character between the quotes of a literal. -/
def written (c : Char) : List Char :=
  if c = '\'' ∨ c = '\\' then [c, c] else [c]

/-- What stands in front of a text with these characters, the opening quote included. -/
def opening (escapes : Bool) : List Char :=
  if escapes then [' ', 'E', '\''] else ['\'']

private theorem double_double (cs : List Char) :
    double '\\' (double '\'' cs) = cs.flatMap written := by
  induction cs with
  | nil => rfl
  | cons c cs ih =>
      rw [double_cons, double_append, ih, List.flatMap_cons]
      by_cases quote : c = '\''
      · subst quote
        rfl
      · by_cases backslash : c = '\\'
        · subst backslash
          rfl
        · simp [quote, backslash, written, double]

private theorem double_of_not_mem {cs : List Char} (absent : '\\' ∉ cs) :
    double '\'' cs = cs.flatMap written := by
  induction cs with
  | nil => rfl
  | cons c cs ih =>
      have other : c ≠ '\\' := fun same => absent (same ▸ List.mem_cons_self)
      rw [double_cons, ih (List.not_mem_of_not_mem_cons absent), List.flatMap_cons]
      simp only [written, other, or_false]

/-- Both forms write quotes and backslashes twice: in the plain form there are no backslashes. -/
theorem literalChars_eq (cs : List Char) :
    literalChars cs = opening (cs.contains '\\') ++ (cs.flatMap written ++ ['\'']) := by
  cases present : cs.contains '\\' with
  | true =>
      simp only [literalChars, literalOf, Signs.chars, opening, present, if_true]
      rw [double_double, List.append_assoc]
  | false =>
      have absent : '\\' ∉ cs := by simpa using present
      simp only [literalChars, literalOf, Signs.chars, opening, present, Bool.false_eq_true,
        if_false]
      rw [double_of_not_mem absent, List.append_assoc]

section Spelled

variable {α : Type} {signs : Signs α} {spell : Char → List α} (spelling : Spelling signs spell)

include spelling

/-- Characters that are no quotes stand for themselves, outside the escape form. -/
theorem readsBody_enclosed {cs : List Char} (free : '\'' ∉ cs) {rest : List α}
    (single : rest.head? ≠ some signs.quote) :
    ReadsBody signs false (cs.flatMap spell ++ signs.quote :: rest) (cs.flatMap spell) rest := by
  have plain : ∀ a ∈ cs.flatMap spell,
      a ≠ signs.quote ∧ (false = true → a ≠ signs.backslash) := by
    intro a member
    obtain ⟨c, among, within⟩ := List.mem_flatMap.mp member
    have notQuote : c ≠ '\'' := fun same => free (same ▸ among)
    by_cases backslash : c = '\\'
    · rw [backslash, spelling.backslash, List.mem_singleton] at within
      exact ⟨within ▸ signs.backslash_ne, nofun⟩
    · exact ⟨(spelling.plain c notQuote backslash a within).1, nofun⟩
  have read := ReadsBody.append plain (.close single)
  rwa [List.append_nil] at read

/-- A character that is written is read as itself. -/
theorem ReadsBody.written {escapes : Bool} {c : Char} (allowed : c = '\\' → escapes = true)
    {items content rest : List α} (body : ReadsBody signs escapes items content rest) :
    ReadsBody signs escapes ((written c).flatMap spell ++ items) (spell c ++ content) rest := by
  unfold Sql.written
  by_cases quote : c = '\''
  · subst quote
    simpa [spelling.quote] using body.quotes
  · by_cases backslash : c = '\\'
    · subst backslash
      simpa [spelling.backslash] using body.backslashes (allowed rfl)
    · simp only [quote, backslash, or_false, if_false, List.flatMap_singleton]
      exact body.append fun a member =>
        (spelling.plain c quote backslash a member).imp_right fun other _ => other

/-- The text between the quotes of a literal is its content. -/
theorem readsBody_flatMap_written {escapes : Bool} {cs : List Char}
    (allowed : '\\' ∈ cs → escapes = true) {rest : List α}
    (single : rest.head? ≠ some signs.quote) :
    ReadsBody signs escapes ((cs.flatMap written).flatMap spell ++ signs.quote :: rest)
      (cs.flatMap spell) rest := by
  induction cs with
  | nil => exact .close single
  | cons c cs ih =>
      have first : c = '\\' → escapes = true := fun same => allowed (same ▸ List.mem_cons_self)
      have later := ih fun member => allowed (List.mem_cons_of_mem c member)
      rw [List.flatMap_cons, List.flatMap_append, List.append_assoc, List.flatMap_cons]
      exact later.written spelling first

/-- **A quoted text is read back** in front of whatever does not begin with a quote. -/
theorem reads_literalChars (cs : List Char) {rest : List α}
    (single : rest.head? ≠ some signs.quote) :
    Reads signs ((literalChars cs).flatMap spell ++ rest) (cs.flatMap spell) rest := by
  rw [literalChars_eq]
  cases escapes : cs.contains '\\' with
  | true =>
      have body : ReadsBody signs true ((cs.flatMap written).flatMap spell ++ signs.quote :: rest)
          (cs.flatMap spell) rest :=
        readsBody_flatMap_written spelling (fun _ => rfl) single
      simpa [opening, spelling.space, spelling.letter, spelling.quote] using
        Reads.spaced (.escape body)
  | false =>
      have absent : '\\' ∉ cs := by simpa using escapes
      have body : ReadsBody signs false ((cs.flatMap written).flatMap spell ++ signs.quote :: rest)
          (cs.flatMap spell) rest :=
        readsBody_flatMap_written spelling (fun member => absurd member absent) single
      simpa [opening, spelling.quote] using Reads.bare (.plain body)

end Spelled

private theorem spelling_chars : Spelling Signs.chars (fun c => [c]) where
  space := rfl
  letter := rfl
  quote := rfl
  backslash := rfl
  plain := by
    intro c notQuote notBackslash a member
    rw [List.mem_singleton.mp member]
    exact ⟨notQuote, notBackslash⟩

/-- Octets spell characters. -/
theorem spelling_utf8 : Spelling Signs.bytes String.utf8EncodeChar where
  space := rfl
  letter := rfl
  quote := rfl
  backslash := rfl
  plain := by
    intro c notQuote notBackslash octet member
    constructor
    · rintro rfl
      have number := Text.Utf8.mem_utf8EncodeChar_of_small (by decide) member
      exact notQuote (Char.toNat_inj.mp number)
    · rintro rfl
      have number := Text.Utf8.mem_utf8EncodeChar_of_small (by decide) member
      exact notBackslash (Char.toNat_inj.mp number)

private theorem quoteText_eq_ok {text : String} (nulFree : '\x00' ∉ text.toList) :
    quoteText text = .ok (String.ofList (literalChars text.toList)) := by
  simp [quoteText, nulFree]

/-- **Quoting says the text, and nothing else.** A text with a NUL is refused. Every other text is
quoted, and in front of any text that does not begin with a quote the quoted text is read as one
literal with the given text as its content, ends where it was written to end, and can be read in no
other way. -/
theorem quoteText_reads (text : String) :
    ('\x00' ∈ text.toList ∧ quoteText text = .error (.conversion .nulInText)) ∨
      ('\x00' ∉ text.toList ∧ ∃ quoted, quoteText text = .ok quoted ∧
        ∀ rest : String, rest.toList.head? ≠ some '\'' → ∀ content behind : List Char,
          Reads Signs.chars (quoted ++ rest).toList content behind ↔
            content = text.toList ∧ behind = rest.toList) := by
  by_cases nul : '\x00' ∈ text.toList
  · exact .inl ⟨nul, by simp [quoteText, nul]⟩
  refine .inr ⟨nul, _, quoteText_eq_ok nul, fun rest single content behind => ?_⟩
  have read := reads_literalChars spelling_chars text.toList single
  rw [List.flatMap_singleton', List.flatMap_singleton'] at read
  rw [String.toList_append, String.toList_ofList]
  exact read.iff (by decide)

/-- A quote in front of a backslash at the end of a text, and a comment behind the literal. -/
theorem quoteText_reads_of_backslash :
    let text := "it's '\\"
    let rest := "--'"
    '\x00' ∉ text.toList ∧ rest.toList.head? ≠ some '\'' ∧
      ∃ quoted, quoteText text = .ok quoted ∧
        Reads Signs.chars (quoted ++ rest).toList text.toList rest.toList := by
  intro text rest
  have nulFree : '\x00' ∉ text.toList := by decide
  have single : rest.toList.head? ≠ some '\'' := by decide
  rcases quoteText_reads text with ⟨nul, _⟩ | ⟨_, quoted, success, reads⟩
  · exact absurd nul nulFree
  · exact ⟨nulFree, single, quoted, success, (reads rest single _ _).mpr ⟨rfl, rfl⟩⟩

end QueryBind.Sql
