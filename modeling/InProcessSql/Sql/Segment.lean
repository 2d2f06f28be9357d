/-!
# Segments of a command text

A command text falls into segments: placeholders `@name`, and verbatim stretches in which no
placeholder can stand. Verbatim are string literals, quoted identifiers, comments, dollar-quoted
bodies, positional parameters, words, and every other single character.

`segments` cuts a text into its segments. `flatten_segments` says that nothing is lost: the texts of
the segments, joined, are the text itself. The pieces are `spanQuoted`, `spanBlockComment`,
`spanDollar` and the two runs of identifier characters; each answers what it consumed and what is
left, and has a lemma that says so.
-/

namespace InProcessSql.Sql

/-! ## Characters of identifiers -/

/-- A character that may start an identifier: an ASCII letter, an underscore, or any character
outside ASCII. -/
def isIdentStart (c : Char) : Bool := c.isAlpha || c == '_' || decide (0x80 ≤ c.val)

/-- A character that may continue an identifier: one that may start it, or an ASCII digit. -/
def isIdentChar (c : Char) : Bool := isIdentStart c || c.isDigit

/-- What starts an identifier may also go on in it. -/
theorem isIdentChar_of_isIdentStart {c : Char} (h : isIdentStart c = true) : isIdentChar c = true := by
  simp [isIdentChar, h]

/-- A character inside a word: words also run through dollar signs. -/
def isWordChar (c : Char) : Bool := isIdentChar c || c == '$'

/-! ## Stretches that hide placeholders -/

/-- The rest of a quoted section whose opening quote has been read, and the text after it. A doubled
quote stands for itself; with `escapes`, so does the character after a backslash. A section that is
never closed runs to the end. -/
def spanQuoted (quote : Char) (escapes : Bool) : List Char → List Char × List Char
  | [] => ([], [])
  | [c] => ([c], [])
  | c :: d :: cs =>
    if escapes && c == '\\' then
      let (body, rest) := spanQuoted quote escapes cs
      (c :: d :: body, rest)
    else if c == quote then
      if d == quote then
        let (body, rest) := spanQuoted quote escapes cs
        (c :: d :: body, rest)
      else
        ([c], d :: cs)
    else
      let (body, rest) := spanQuoted quote escapes (d :: cs)
      (c :: body, rest)

/-- The rest of a line comment, with the line break that ends it. -/
def spanLine : List Char → List Char × List Char
  | [] => ([], [])
  | c :: cs =>
    if c == '\n' then ([c], cs)
    else
      let (body, rest) := spanLine cs
      (c :: body, rest)

/-- The rest of a block comment inside which `depth` further comments are open. Comments nest, and
one that is never closed runs to the end. -/
def spanBlockComment (depth : Nat) : List Char → List Char × List Char
  | [] => ([], [])
  | [c] => ([c], [])
  | c :: d :: cs =>
    if c == '/' && d == '*' then
      let (body, rest) := spanBlockComment (depth + 1) cs
      (c :: d :: body, rest)
    else if c == '*' && d == '/' then
      match depth with
      | 0 => ([c, d], cs)
      | depth + 1 =>
        let (body, rest) := spanBlockComment depth cs
        (c :: d :: body, rest)
    else
      let (body, rest) := spanBlockComment depth (d :: cs)
      (c :: body, rest)

/-- The text up to and with the first occurrence of `delimiter`, and the text after it. -/
def spanThrough? (delimiter : List Char) : List Char → Option (List Char × List Char)
  | [] => if delimiter.isEmpty then some ([], []) else none
  | c :: cs =>
    if delimiter.isPrefixOf (c :: cs) then
      some (delimiter, (c :: cs).drop delimiter.length)
    else
      (spanThrough? delimiter cs).map fun (body, rest) => (c :: body, rest)

/-- The tag of a dollar quote: an identifier or nothing. -/
def dollarTag : List Char → List Char
  | [] => []
  | c :: cs => if isIdentStart c then c :: cs.takeWhile isIdentChar else []

/-- What belongs to a dollar sign that has just been read, and the text after it: the digits of a
positional parameter, the tag and body of a dollar quote, or nothing when no dollar quote opens here
or it is never closed. -/
def spanDollar (cs : List Char) : List Char × List Char :=
  let digits := cs.takeWhile Char.isDigit
  if digits.isEmpty then
    let tag := dollarTag cs
    match cs.drop tag.length with
    | '$' :: body =>
      match spanThrough? ('$' :: tag ++ ['$']) body with
      | some (quoted, rest) => (tag ++ '$' :: quoted, rest)
      | none => ([], cs)
    | _ => ([], cs)
  else
    (digits, cs.dropWhile Char.isDigit)

/-! ## Segments -/

/-- A segment of a command text. -/
inductive Segment where
  /-- A stretch in which no placeholder can stand. -/
  | verbatim (text : List Char)
  | placeholder (name : List Char)
  deriving DecidableEq, Repr, Inhabited

/-- The characters of a segment, as they stand in the command text. -/
def Segment.text : Segment → List Char
  | .verbatim text => text
  | .placeholder name => '@' :: name

/-- Whether a quote opens an escape string, given the text before it, last character first: there
stands an `E` that no identifier character precedes. -/
def opensEscapes : List Char → Bool
  | [] => false
  | c :: before => (c == 'E' || c == 'e') && !before.head?.any isIdentChar

/-- Whether a name after `@` makes a placeholder, given the text before the `@`, last character
first: it starts as an identifier does, and the `@` itself does not follow one. -/
def isPlaceholderAt (before name : List Char) : Bool :=
  name.head?.any isIdentStart && !before.head?.any isIdentChar

/-- The segment that starts with the character `c`, and the text after it. The text before it is
given last character first. -/
def nextSegment (before : List Char) (c : Char) (cs : List Char) : Segment × List Char :=
  if c == '\x27' then
    let (body, rest) := spanQuoted '\x27' (opensEscapes before) cs
    (.verbatim (c :: body), rest)
  else if c == '\x22' then
    let (body, rest) := spanQuoted '\x22' false cs
    (.verbatim (c :: body), rest)
  -- A minus or slash alone is an operator; only its pair opens a comment.
  else if c == '-' && cs.head? == some '-' then
    let (body, rest) := spanLine cs
    (.verbatim (c :: body), rest)
  else if c == '/' && cs.head? == some '*' then
    let (body, rest) := spanBlockComment 0 (cs.drop 1)
    (.verbatim (c :: '*' :: body), rest)
  else if c == '$' then
    let (body, rest) := spanDollar cs
    (.verbatim (c :: body), rest)
  else if c == '@' then
    -- The whole run of identifier characters is taken, so that `@id` is not found inside `@id2`.
    let name := cs.takeWhile isIdentChar
    let rest := cs.dropWhile isIdentChar
    if isPlaceholderAt before name then (.placeholder name, rest) else (.verbatim (c :: name), rest)
  -- A word hides the dollar signs in it, which would otherwise open a dollar quote.
  else if isIdentStart c then
    (.verbatim (c :: cs.takeWhile isWordChar), cs.dropWhile isWordChar)
  else
    (.verbatim [c], cs)

/-! ## Nothing is lost -/

/-- Nothing of a quoted stretch is lost. -/
theorem spanQuoted_append (quote : Char) (escapes : Bool) (cs : List Char) :
    (spanQuoted quote escapes cs).1 ++ (spanQuoted quote escapes cs).2 = cs := by
  fun_induction spanQuoted quote escapes cs <;> simp_all

/-- Nothing of a line is lost. -/
theorem spanLine_append (cs : List Char) : (spanLine cs).1 ++ (spanLine cs).2 = cs := by
  fun_induction spanLine cs <;> simp_all

/-- Nothing of a block comment is lost. -/
theorem spanBlockComment_append (depth : Nat) (cs : List Char) :
    (spanBlockComment depth cs).1 ++ (spanBlockComment depth cs).2 = cs := by
  fun_induction spanBlockComment depth cs <;> simp_all

/-- Nothing is lost on the way through the delimiter. -/
theorem spanThrough?_append {delimiter cs body rest : List Char}
    (h : spanThrough? delimiter cs = some (body, rest)) : body ++ rest = cs := by
  induction cs generalizing body with
  | nil =>
    simp only [spanThrough?] at h
    split at h <;> simp_all
  | cons c cs ih =>
    simp only [spanThrough?] at h
    split at h
    · rename_i hp
      obtain ⟨rfl, rfl⟩ : delimiter = body ∧ (c :: cs).drop delimiter.length = rest := by simpa using h
      obtain ⟨t, ht⟩ := List.isPrefixOf_iff_prefix.1 hp
      simp [← ht]
    · simp only [Option.map_eq_some_iff, Prod.mk.injEq] at h
      obtain ⟨⟨b, r⟩, hs, rfl, rfl⟩ := h
      simp [ih hs]

theorem drop_length_takeWhile (p : Char → Bool) (cs : List Char) :
    cs.drop (cs.takeWhile p).length = cs.dropWhile p := by
  have h : (cs.takeWhile p ++ cs.dropWhile p).drop (cs.takeWhile p).length = cs.dropWhile p :=
    List.drop_left
  rwa [List.takeWhile_append_dropWhile] at h

theorem dollarTag_append (cs : List Char) : dollarTag cs ++ cs.drop (dollarTag cs).length = cs := by
  cases cs with
  | nil => rfl
  | cons c cs =>
    simp only [dollarTag]
    split
    · simp [drop_length_takeWhile]
    · simp

/-- Nothing of what starts with a dollar sign is lost. -/
theorem spanDollar_append (cs : List Char) : (spanDollar cs).1 ++ (spanDollar cs).2 = cs := by
  simp only [spanDollar]
  split
  · split
    · rename_i body hb
      have ht := dollarTag_append cs
      rw [hb] at ht
      split
      · rename_i quoted rest hs
        simp [spanThrough?_append hs, ht]
      · rfl
    · rfl
  · exact List.takeWhile_append_dropWhile

/-- A segment and what is left of the text make up the text. -/
theorem nextSegment_append (before : List Char) (c : Char) (cs : List Char) :
    (nextSegment before c cs).1.text ++ (nextSegment before c cs).2 = c :: cs := by
  simp only [nextSegment]
  split
  · simp [Segment.text, spanQuoted_append]
  split
  · simp [Segment.text, spanQuoted_append]
  split
  · simp [Segment.text, spanLine_append]
  split
  · rename_i h
    cases cs with
    | nil => simp at h
    | cons d cs => simp_all [Segment.text, spanBlockComment_append]
  split
  · simp [Segment.text, spanDollar_append]
  split
  · split <;> simp_all [Segment.text]
  split <;> simp [Segment.text]

/-- A segment takes at least a character. -/
theorem nextSegment_text_ne_nil (before : List Char) (c : Char) (cs : List Char) :
    (nextSegment before c cs).1.text ≠ [] := by
  simp only [nextSegment]
  repeat' split
  all_goals simp [Segment.text]

/-- Every segment takes at least one character. -/
theorem nextSegment_length_lt (before : List Char) (c : Char) (cs : List Char) :
    (nextSegment before c cs).2.length < (c :: cs).length := by
  have h := congrArg List.length (nextSegment_append before c cs)
  have hpos := List.length_pos_iff.2 (nextSegment_text_ne_nil before c cs)
  rw [List.length_append] at h
  omega

/-- The segments of the text `cs` that stands after the text `before`, which is given last character
first. -/
def segmentsAfter (before : List Char) (cs : List Char) : List Segment :=
  match cs with
  | [] => []
  | c :: cs =>
    let next := nextSegment before c cs
    next.1 :: segmentsAfter (next.1.text.reverse ++ before) next.2
termination_by cs.length
decreasing_by exact nextSegment_length_lt before c cs

/-- The segments of a command text, in order. -/
def segments (cs : List Char) : List Segment := segmentsAfter [] cs

/-- The segments make up the text. -/
theorem flatMap_text_segmentsAfter (before cs : List Char) :
    (segmentsAfter before cs).flatMap Segment.text = cs := by
  fun_induction segmentsAfter before cs with
  | case1 => rfl
  | case2 before c cs next ih =>
    rw [List.flatMap_cons, ih]
    exact nextSegment_append before c cs

/-- The texts of the segments, joined, are the text. -/
theorem flatten_segments (cs : List Char) : (segments cs).flatMap Segment.text = cs :=
  flatMap_text_segmentsAfter [] cs

end InProcessSql.Sql
