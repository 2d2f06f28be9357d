import Mathlib
import InProcessSql.Sql.Placeholder

/-!
# Reading a text segment by segment

`nextSegment` tells the first segment of a text by its first characters. Here are the equations of its
pieces, one for each way they can go on, and the equations of `nextSegment` for the characters that open
something.

`ReadFirst before s rest` says that `s` is what is read first of its own text when `rest` follows. It is
the step by which all readings of longer texts are put together (`segmentsAfter_of_readFirst`).
-/

namespace InProcessSql.Sql

/-! ## Quoted sections -/

section Quoted

variable {q : Char} {escapes : Bool} {cs : List Char}

/-- A character that is neither the quote nor an escaping backslash stands for itself. -/
theorem spanQuoted_other {c : Char} (hq : c ≠ q) (he : escapes = true → c ≠ '\\') :
    spanQuoted q escapes (c :: cs)
      = (c :: (spanQuoted q escapes cs).1, (spanQuoted q escapes cs).2) := by
  have hesc : (escapes && c == '\\') = false := by
    cases escapes <;> simp_all
  cases cs with
  | nil => simp [spanQuoted]
  | cons d cs => rw [spanQuoted]; simp [hesc, hq]

/-- An escaping backslash takes the next character with it. -/
theorem spanQuoted_escaped (c : Char) :
    spanQuoted q true ('\\' :: c :: cs)
      = ('\\' :: c :: (spanQuoted q true cs).1, (spanQuoted q true cs).2) := by
  rw [spanQuoted]; simp

/-- A doubled quote does not close. -/
theorem spanQuoted_doubled (hq : escapes = true → q ≠ '\\') :
    spanQuoted q escapes (q :: q :: cs)
      = (q :: q :: (spanQuoted q escapes cs).1, (spanQuoted q escapes cs).2) := by
  have hesc : (escapes && q == '\\') = false := by
    cases escapes <;> simp_all
  rw [spanQuoted]; simp [hesc]

/-- A quote that no quote follows closes. -/
theorem spanQuoted_close (hq : escapes = true → q ≠ '\\') (hcs : cs.head? ≠ some q) :
    spanQuoted q escapes (q :: cs) = ([q], cs) := by
  have hesc : (escapes && q == '\\') = false := by
    cases escapes <;> simp_all
  cases cs with
  | nil => rfl
  | cons d cs =>
    have hd : d ≠ q := by simpa using hcs
    rw [spanQuoted]; simp [hesc, hd]

end Quoted

/-! ## Comments -/

section Comments

variable {depth : Nat} {cs : List Char}

/-- The line break ends a line comment. -/
theorem spanLine_append_newline {body : List Char} (hbody : '\n' ∉ body) (rest : List Char) :
    spanLine (body ++ '\n' :: rest) = (body ++ ['\n'], rest) := by
  induction body with
  | nil => simp [spanLine]
  | cons c body ih =>
    simp only [List.mem_cons, not_or] at hbody
    have hc : (c == '\n') = false := by simpa using Ne.symm hbody.1
    simp [spanLine, hc, ih hbody.2]

/-- A character that begins neither mark of a comment is passed over. -/
theorem spanBlockComment_other {c : Char} (ho : ¬(c = '/' ∧ cs.head? = some '*'))
    (hc : ¬(c = '*' ∧ cs.head? = some '/')) :
    spanBlockComment depth (c :: cs)
      = (c :: (spanBlockComment depth cs).1, (spanBlockComment depth cs).2) := by
  cases cs with
  | nil => simp [spanBlockComment]
  | cons d cs =>
    rw [spanBlockComment.eq_def]
    have ho' : (c == '/' && d == '*') = false := by simpa using ho
    have hc' : (c == '*' && d == '/') = false := by simpa using hc
    simp [ho', hc']

/-- A comment that opens inside a comment has to be closed first. -/
theorem spanBlockComment_open :
    spanBlockComment depth ('/' :: '*' :: cs)
      = ('/' :: '*' :: (spanBlockComment (depth + 1) cs).1, (spanBlockComment (depth + 1) cs).2) := by
  rw [spanBlockComment.eq_def]; simp

/-- The mark that closes the outermost comment ends it. -/
theorem spanBlockComment_close : spanBlockComment 0 ('*' :: '/' :: cs) = (['*', '/'], cs) := by
  rw [spanBlockComment]; simp

/-- The mark that closes an inner comment goes on with the one around it. -/
theorem spanBlockComment_close_succ :
    spanBlockComment (depth + 1) ('*' :: '/' :: cs)
      = ('*' :: '/' :: (spanBlockComment depth cs).1, (spanBlockComment depth cs).2) := by
  rw [spanBlockComment]; simp

end Comments

/-! ## Runs of characters -/

/-- A run of characters of a class is followed by none of them. -/
theorem any_head?_dropWhile (p : Char → Bool) (cs : List Char) : (cs.dropWhile p).head?.any p = false := by
  have h := List.head?_dropWhile_not p cs
  cases hd : (cs.dropWhile p).head? with
  | none => rfl
  | some c => simpa [hd] using h

/-- An identifier: a character that may start one, and characters that may continue it. -/
def IsIdentifier : List Char → Prop
  | [] => False
  | c :: cs => isIdentStart c = true ∧ ∀ d ∈ cs, isIdentChar d = true

/-- An identifier is made of identifier characters. -/
theorem IsIdentifier.isIdentChar_of_mem {name : List Char} (h : IsIdentifier name) {c : Char}
    (hc : c ∈ name) : isIdentChar c = true := by
  cases name with
  | nil => exact h.elim
  | cons d ds =>
    rcases List.mem_cons.1 hc with rfl | hc
    · exact isIdentChar_of_isIdentStart h.1
    · exact h.2 c hc

/-- An identifier ends in one of its characters. -/
theorem IsIdentifier.getLast? {name : List Char} (h : IsIdentifier name) :
    ∃ c, name.getLast? = some c ∧ isIdentChar c = true := by
  cases hc : name.getLast? with
  | none =>
    rw [List.getLast?_eq_none_iff.1 hc] at h
    exact h.elim
  | some c => exact ⟨c, rfl, h.isIdentChar_of_mem (List.mem_of_getLast? hc)⟩

/-- What starts an identifier is no digit. -/
theorem isDigit_of_isIdentStart {c : Char} (h : isIdentStart c = true) : c.isDigit = false := by
  simp only [isIdentStart, Char.isAlpha, Char.isUpper, Char.isLower, Bool.or_eq_true,
    decide_eq_true_eq, beq_iff_eq, Bool.and_eq_true, ge_iff_le, UInt32.le_iff_toNat_le] at h
  simp only [Char.isDigit, Bool.and_eq_false_iff, decide_eq_false_iff_not, ge_iff_le,
    UInt32.le_iff_toNat_le]
  rcases h with ((⟨h, -⟩ | ⟨h, -⟩) | rfl) | h
  · right; simp at h ⊢; omega
  · right; simp at h ⊢; omega
  · right; decide
  · right; simp at h ⊢; omega

/-- A run of characters of a class ends where a character outside it follows. -/
theorem takeWhile_append_of_head {p : Char → Bool} {run rest : List Char} (hrun : ∀ c ∈ run, p c = true)
    (hrest : rest.head?.any p = false) : (run ++ rest).takeWhile p = run := by
  rw [List.takeWhile_append_of_pos hrun]
  cases rest with
  | nil => simp
  | cons c rest =>
    have hc : p c = false := by simpa using hrest
    simp [hc]

/-- What follows a run of characters of a class begins with the first one outside it. -/
theorem dropWhile_append_of_head {p : Char → Bool} {run rest : List Char} (hrun : ∀ c ∈ run, p c = true)
    (hrest : rest.head?.any p = false) : (run ++ rest).dropWhile p = rest := by
  rw [List.dropWhile_append_of_pos hrun]
  cases rest with
  | nil => rfl
  | cons c rest =>
    have hc : p c = false := by simpa using hrest
    simp [hc]

/-! ## Dollar quotes -/

section Through

variable {d cs : List Char}

/-- A delimiter that stands in front is found at once. -/
theorem spanThrough?_append_self (hd : d ≠ []) (rest : List Char) :
    spanThrough? d (d ++ rest) = some (d, rest) := by
  cases d with
  | nil => exact absurd rfl hd
  | cons c d => simp [spanThrough?]

/-- Where no delimiter begins, the search goes on behind the first character. -/
theorem spanThrough?_cons {c : Char} (h : ¬d <+: c :: cs) :
    spanThrough? d (c :: cs) = (spanThrough? d cs).map fun (body, rest) => (c :: body, rest) := by
  rw [spanThrough?, if_neg (by simpa using h)]

end Through

/-- The tag of a dollar quote: nothing or an identifier. -/
def IsTag (tag : List Char) : Prop := tag = [] ∨ IsIdentifier tag

/-- A tag has the characters of identifiers only. -/
theorem IsTag.isIdentChar_of_mem {tag : List Char} (h : IsTag tag) {c : Char} (hc : c ∈ tag) :
    isIdentChar c = true := by
  rcases h with rfl | h
  · cases hc
  · exact h.isIdentChar_of_mem hc

/-- The delimiter of a dollar quote with the given tag. -/
def delimiter (tag : List Char) : List Char := '$' :: (tag ++ ['$'])

section Dollar

variable {tag cs rest : List Char}

/-- The tag of a dollar quote is found before the dollar sign that ends it. -/
theorem dollarTag_of_isTag (htag : IsTag tag) (cs : List Char) : dollarTag (tag ++ '$' :: cs) = tag := by
  rcases htag with rfl | htag
  · rfl
  · cases tag with
    | nil => exact htag.elim
    | cons c tag =>
      have hrun : (tag ++ '$' :: cs).takeWhile isIdentChar = tag :=
        takeWhile_append_of_head htag.2 rfl
      simp [dollarTag, htag.1, hrun]

/-- Digits after a dollar sign make a positional parameter. -/
theorem spanDollar_digits {ds : List Char} (hne : ds ≠ []) (hds : ∀ d ∈ ds, d.isDigit = true)
    (hrest : rest.head?.any Char.isDigit = false) : spanDollar (ds ++ rest) = (ds, rest) := by
  rw [spanDollar, takeWhile_append_of_head hds hrest, dropWhile_append_of_head hds hrest]
  simp [hne]

/-- No digit follows the dollar sign of a tag. -/
theorem takeWhile_isDigit_of_isTag (htag : IsTag tag) (cs : List Char) :
    (tag ++ '$' :: cs).takeWhile Char.isDigit = [] := by
  rcases htag with rfl | htag
  · rfl
  · cases tag with
    | nil => exact htag.elim
    | cons c tag => simp [isDigit_of_isIdentStart htag.1]

/-- A dollar quote takes the text up to its second delimiter. -/
theorem spanDollar_quoted {quoted : List Char} (htag : IsTag tag)
    (h : spanThrough? (delimiter tag) cs = some (quoted, rest)) :
    spanDollar (tag ++ '$' :: cs) = (tag ++ '$' :: quoted, rest) := by
  rw [spanDollar, takeWhile_isDigit_of_isTag htag, dollarTag_of_isTag htag]
  simp only [List.isEmpty_nil, if_true, List.drop_left]
  rw [List.cons_append, ← delimiter, h]

end Dollar

/-! ## The first segment -/

section First

variable {before cs : List Char}

/-- A single quote opens a string literal. -/
theorem nextSegment_singleQuote :
    nextSegment before '\x27' cs
      = (.verbatim ('\x27' :: (spanQuoted '\x27' (opensEscapes before) cs).1),
         (spanQuoted '\x27' (opensEscapes before) cs).2) := rfl

/-- A double quote opens a quoted identifier. -/
theorem nextSegment_doubleQuote :
    nextSegment before '\x22' cs
      = (.verbatim ('\x22' :: (spanQuoted '\x22' false cs).1), (spanQuoted '\x22' false cs).2) := rfl

/-- Two minus signs open a line comment. -/
theorem nextSegment_lineComment :
    nextSegment before '-' ('-' :: cs)
      = (.verbatim ('-' :: '-' :: (spanLine cs).1), (spanLine cs).2) := by
  simp [nextSegment, spanLine]

/-- A slash and a star open a block comment. -/
theorem nextSegment_blockComment :
    nextSegment before '/' ('*' :: cs)
      = (.verbatim ('/' :: '*' :: (spanBlockComment 0 cs).1), (spanBlockComment 0 cs).2) := by
  simp [nextSegment]

/-- A dollar sign takes along what belongs to it. -/
theorem nextSegment_dollar :
    nextSegment before '$' cs = (.verbatim ('$' :: (spanDollar cs).1), (spanDollar cs).2) := rfl

/-- An at sign takes along the run of identifier characters after it. -/
theorem nextSegment_at :
    nextSegment before '@' cs
      = (if isPlaceholderAt before (cs.takeWhile isIdentChar) then .placeholder (cs.takeWhile isIdentChar)
         else .verbatim ('@' :: cs.takeWhile isIdentChar), cs.dropWhile isIdentChar) := by
  by_cases h : isPlaceholderAt before (cs.takeWhile isIdentChar) <;> simp [nextSegment, h]

/-- A character that starts an identifier takes along the rest of the word. -/
theorem nextSegment_word {c : Char} (hc : isIdentStart c = true) :
    nextSegment before c cs = (.verbatim (c :: cs.takeWhile isWordChar), cs.dropWhile isWordChar) := by
  have hne : ∀ d : Char, isIdentStart d = false → (c == d) = false := by
    intro d hd
    simp only [beq_eq_false_iff_ne]
    rintro rfl
    simp [hc] at hd
  simp [nextSegment, hc, hne '\x27' (by decide), hne '\x22' (by decide), hne '-' (by decide),
    hne '/' (by decide), hne '$' (by decide), hne '@' (by decide)]

/-- Whether a character opens a quoted section, a comment or a dollar quote, given what follows. -/
def opensStretch (c : Char) (cs : List Char) : Bool :=
  c == '\x27' || c == '\x22' || c == '$' || (c == '-' && cs.head? == some '-')
    || (c == '/' && cs.head? == some '*')

/-- A character that opens nothing and starts no identifier is read alone. -/
theorem nextSegment_single {c : Char} (ho : opensStretch c cs = false) (ha : c ≠ '@')
    (hc : isIdentStart c = false) : nextSegment before c cs = (.verbatim [c], cs) := by
  simp only [opensStretch, Bool.or_eq_false_iff] at ho
  obtain ⟨⟨⟨⟨hq, hd⟩, hs⟩, hm⟩, hb⟩ := ho
  simp [nextSegment, hq, hd, hs, hm, hb, ha, hc]

end First

/-! ## Reading on -/

/-- `s` is what is read first of its own text when `rest` follows it. -/
def ReadFirst (before : List Char) (s : Segment) (rest : List Char) : Prop :=
  ∃ c cs, s.text = c :: cs ∧ nextSegment before c (cs ++ rest) = (s, rest)

section ReadFirst

variable {before rest : List Char}

/-- A word is one segment. -/
theorem readFirst_word {c : Char} {cs : List Char} (hc : isIdentStart c = true)
    (hcs : ∀ d ∈ cs, isWordChar d = true) (hrest : rest.head?.any isWordChar = false) :
    ReadFirst before (.verbatim (c :: cs)) rest := by
  refine ⟨c, cs, rfl, ?_⟩
  rw [nextSegment_word hc, takeWhile_append_of_head hcs hrest, dropWhile_append_of_head hcs hrest]

/-- A positional parameter is one segment. -/
theorem readFirst_positional {ds : List Char} (hne : ds ≠ []) (hds : ∀ d ∈ ds, d.isDigit = true)
    (hrest : rest.head?.any Char.isDigit = false) : ReadFirst before (.verbatim ('$' :: ds)) rest := by
  refine ⟨'$', ds, rfl, ?_⟩
  rw [nextSegment_dollar, spanDollar_digits hne hds hrest]

/-- A placeholder is one segment. -/
theorem readFirst_placeholder {ident : List Char} (hbefore : before.head?.any isIdentChar = false)
    (hident : IsIdentifier ident) (hrest : rest.head?.any isIdentChar = false) :
    ReadFirst before (.placeholder ident) rest := by
  cases ident with
  | nil => exact hident.elim
  | cons c cs =>
    have hrun : ∀ d ∈ c :: cs, isIdentChar d = true := fun d hd => hident.isIdentChar_of_mem hd
    refine ⟨'@', c :: cs, rfl, ?_⟩
    rw [nextSegment_at, takeWhile_append_of_head hrun hrest, dropWhile_append_of_head hrun hrest]
    simp [isPlaceholderAt, hident.1, hbefore]

end ReadFirst

/-- A segment that is read first is the first of the segments, and the others are those of the rest. -/
theorem segmentsAfter_of_readFirst {before rest : List Char} {s : Segment} (h : ReadFirst before s rest) :
    segmentsAfter before (s.text ++ rest) = s :: segmentsAfter (s.text.reverse ++ before) rest := by
  obtain ⟨c, cs, htext, hnext⟩ := h
  rw [htext, List.cons_append, segmentsAfter, hnext, htext]

@[simp] theorem segmentsAfter_nil (before : List Char) : segmentsAfter before [] = [] := by
  rw [segmentsAfter]

/-- A segment is kept, or it is a placeholder that a name fits. -/
theorem Segment.rewrite_cases (names : List String) (s : Segment) :
    s.rewrite names = s.text ∨ ∃ name k, s = .placeholder name ∧ positionOf? names name = some k ∧
      s.rewrite names = positional k := by
  cases s with
  | verbatim text => exact .inl rfl
  | placeholder name =>
    cases hp : positionOf? names name with
    | none => exact .inl (by simp only [Segment.rewrite, hp, Segment.text])
    | some k => exact .inr ⟨name, k, rfl, hp, by simp only [Segment.rewrite, hp]⟩

/-- The characters of the rewritten text `cs` that stands after the text `before`, which is given last
character first. -/
def rewriteAfter (names : List String) (before cs : List Char) : List Char :=
  (segmentsAfter before cs).flatMap (Segment.rewrite names)

@[simp] theorem rewriteAfter_nil (names : List String) (before : List Char) :
    rewriteAfter names before [] = [] := by
  simp [rewriteAfter]

/-- The segment that is read first is rewritten first. -/
theorem rewriteAfter_of_readFirst {names : List String} {before rest : List Char} {s : Segment}
    (h : ReadFirst before s rest) :
    rewriteAfter names before (s.text ++ rest)
      = s.rewrite names ++ rewriteAfter names (s.text.reverse ++ before) rest := by
  rw [rewriteAfter, segmentsAfter_of_readFirst h, List.flatMap_cons, rewriteAfter]

/-- The first segment of a text is read first of it. -/
theorem readFirst_nextSegment (before : List Char) (c : Char) (cs : List Char) :
    ReadFirst before (nextSegment before c cs).1 (nextSegment before c cs).2 := by
  have happ := nextSegment_append before c cs
  cases htext : (nextSegment before c cs).1.text with
  | nil => exact absurd htext (nextSegment_text_ne_nil before c cs)
  | cons d ds =>
    rw [htext, List.cons_append] at happ
    obtain ⟨rfl, hds⟩ := List.cons.inj happ
    exact ⟨d, ds, htext, by rw [hds]⟩

end InProcessSql.Sql
