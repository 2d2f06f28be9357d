import InProcessSql.Proofs.Sql.Reading

/-!
# Placeholders among lexical items

A well-formed command text is made of lexical items: literals, quoted identifiers, comments, words,
numbers, operators, and placeholders. `Item` has the items as the language defines them, apart from how a
text is cut into segments. `exists_numbered_items` says that rewriting keeps every item but the
placeholders that a name fits, and that each of these becomes the number of the first such name.

An item that is no placeholder may fall into several verbatim segments. `ReadVerbatim` says that it falls
into verbatim ones only; there is one lemma for each kind of item.
-/

namespace InProcessSql.Sql

open InProcessSql.Number InProcessSql.Text

/-! ## Bodies -/

/-- The inside of a literal or of a quoted identifier: every quote in it is doubled. -/
inductive QuotedBody (q : Char) : List Char → Prop where
  | nil : QuotedBody q []
  | char {c : Char} {body : List Char} : c ≠ q → QuotedBody q body → QuotedBody q (c :: body)
  | doubled {body : List Char} : QuotedBody q body → QuotedBody q (q :: q :: body)

/-- The inside of an escape string: doubled quotes, pairs of a backslash and any character, and characters
that are neither quote nor backslash. -/
inductive EscapeBody : List Char → Prop where
  | nil : EscapeBody []
  | char {c : Char} {body : List Char} :
      c ≠ '\x27' → c ≠ '\\' → EscapeBody body → EscapeBody (c :: body)
  | doubled {body : List Char} : EscapeBody body → EscapeBody ('\x27' :: '\x27' :: body)
  | escaped {body : List Char} (c : Char) : EscapeBody body → EscapeBody ('\\' :: c :: body)

/-- What follows the opening mark of a block comment, with the mark that closes it: the comments inside are
closed, and no other mark stands in it. -/
inductive CommentTail : List Char → Prop where
  | close : CommentTail ['*', '/']
  | char {c : Char} {tail : List Char} : ¬(c = '/' ∧ tail.head? = some '*') →
      ¬(c = '*' ∧ tail.head? = some '/') → CommentTail tail → CommentTail (c :: tail)
  | nested {inner tail : List Char} :
      CommentTail inner → CommentTail tail → CommentTail ('/' :: '*' :: (inner ++ tail))

/-- The inside of a dollar quote: no delimiter begins before the one that closes it. -/
def DollarBody (tag body : List Char) : Prop :=
  ∀ stretch, stretch ++ delimiter tag <+: body ++ delimiter tag → stretch = body

/-- The rest of a number after its character `last`: digits, letters and points, and a sign after the
letter of an exponent. -/
inductive NumberTail : Char → List Char → Prop where
  | nil {last : Char} : NumberTail last []
  | char {last c : Char} {cs : List Char} :
      isIdentChar c = true ∨ c = '.' → NumberTail c cs → NumberTail last (c :: cs)
  | sign {last c : Char} {cs : List Char} :
      last = 'e' ∨ last = 'E' → c = '+' ∨ c = '-' → NumberTail c cs → NumberTail last (c :: cs)

/-- A number, which begins with a digit or with a point and a digit. -/
inductive IsNumber : List Char → Prop where
  | digit {c : Char} {cs : List Char} : c.isDigit = true → NumberTail c cs → IsNumber (c :: cs)
  | point {c : Char} {cs : List Char} :
      c.isDigit = true → NumberTail c cs → IsNumber ('.' :: c :: cs)

/-- A character of operators and punctuation: no identifier has it, and it is neither a quote nor a dollar
sign. -/
def isOperatorChar (c : Char) : Bool :=
  !isIdentChar c && c != '\x27' && c != '\x22' && c != '$'

/-! ## Items -/

/-- The lexical items that are no placeholders. -/
inductive Inert : List Char → Prop where
  | literal {body : List Char} : QuotedBody '\x27' body → Inert ('\x27' :: (body ++ ['\x27']))
  | escapeString {e : Char} {body : List Char} :
      e = 'E' ∨ e = 'e' → EscapeBody body → Inert (e :: '\x27' :: (body ++ ['\x27']))
  | quotedIdentifier {body : List Char} : QuotedBody '\x22' body → Inert ('\x22' :: (body ++ ['\x22']))
  | dollarQuote {tag body : List Char} :
      IsTag tag → DollarBody tag body → Inert (delimiter tag ++ (body ++ delimiter tag))
  | lineComment {body : List Char} : '\n' ∉ body → Inert ('-' :: '-' :: (body ++ ['\n']))
  | blockComment {tail : List Char} : CommentTail tail → Inert ('/' :: '*' :: tail)
  | word {c : Char} {cs : List Char} :
      isIdentStart c = true → (∀ d ∈ cs, isWordChar d = true) → Inert (c :: cs)
  | number {cs : List Char} : IsNumber cs → Inert cs
  | positional {ds : List Char} : ds ≠ [] → (∀ d ∈ ds, d.isDigit = true) → Inert ('$' :: ds)
  /-- Identifier characters are no operators, so that none follows an at sign. -/
  | operators {cs : List Char} : (∀ c ∈ cs, isOperatorChar c = true) →
      ¬['-', '-'] <:+: cs → ¬['/', '*'] <:+: cs → Inert cs

/-- A lexical item. -/
inductive Item where
  | inert (text : List Char) (h : Inert text)
  | placeholder (ident : List Char) (h : IsIdentifier ident)

def Item.text : Item → List Char
  | .inert text _ => text
  | .placeholder ident _ => '@' :: ident

/-- The text of items that single spaces part. -/
def spaced (texts : List (List Char)) : List Char := [' '].intercalate texts

/-- Whether a name means an identifier: without one leading at sign it is the identifier up to ASCII
case. -/
def Means (name : String) (ident : List Char) : Prop :=
  foldCase (bareName name.toList) = foldCase ident

/-- What becomes of an item: a placeholder becomes the number of the first name that means its identifier,
and everything else stays. -/
inductive Becomes (names : List String) : Item → List Char → Prop where
  | inert {text : List Char} {h : Inert text} : Becomes names (.inert text h) text
  | unknown {ident : List Char} {h : IsIdentifier ident} :
      (∀ name ∈ names, ¬Means name ident) → Becomes names (.placeholder ident h) ('@' :: ident)
  | numbered {ident : List Char} {h : IsIdentifier ident} {k : Nat} (hk : k < names.length) :
      Means names[k] ident → (∀ j (hj : j < k), ¬Means names[j] ident) →
      Becomes names (.placeholder ident h) ('$' :: (toString (k + 1)).toList)

/-! ## Breaks -/

/-- A text that is empty or begins with a space. The text before an item, last character first, and the
text after it are such texts. -/
def AtBreak (cs : List Char) : Prop := ∀ c, cs.head? = some c → c = ' '

theorem atBreak_nil : AtBreak [] := by simp [AtBreak]

theorem atBreak_space (cs : List Char) : AtBreak (' ' :: cs) := by simp [AtBreak]

/-- At a break no character follows but a space. -/
theorem AtBreak.head?_ne {cs : List Char} (h : AtBreak cs) {c : Char} (hc : c ≠ ' ') :
    cs.head? ≠ some c := fun hcs => hc (h c hcs)

/-- At a break no character of a class follows that spaces are not in. -/
theorem AtBreak.any_head? {cs : List Char} (h : AtBreak cs) {p : Char → Bool} (hp : p ' ' = false) :
    cs.head?.any p = false := by
  cases hcs : cs.head? with
  | none => rfl
  | some c => rw [h c hcs]; exact hp

/-- After a break no escape string opens. -/
theorem AtBreak.opensEscapes {cs : List Char} (h : AtBreak cs) : opensEscapes cs = false := by
  cases cs with
  | nil => rfl
  | cons c cs =>
    rw [h c rfl]
    rfl

/-! ## What the bodies consume -/

section Bodies

variable {body tail rest : List Char}

/-- The body of a literal is read up to the quote that closes it. -/
theorem spanQuoted_of_quotedBody {q : Char} (hbody : QuotedBody q body) (hrest : rest.head? ≠ some q) :
    spanQuoted q false (body ++ q :: rest) = (body ++ [q], rest) := by
  induction hbody with
  | nil => exact spanQuoted_close (by simp) hrest
  | char hc _ ih => rw [List.cons_append, spanQuoted_other hc (by simp), ih]; rfl
  | doubled _ ih => rw [List.cons_append, List.cons_append, spanQuoted_doubled (by simp), ih]; rfl

/-- The body of an escape string is read up to the quote that closes it. -/
theorem spanQuoted_of_escapeBody (hbody : EscapeBody body) (hrest : rest.head? ≠ some '\x27') :
    spanQuoted '\x27' true (body ++ '\x27' :: rest) = (body ++ ['\x27'], rest) := by
  induction hbody with
  | nil => exact spanQuoted_close (by decide) hrest
  | char hq hb _ ih => rw [List.cons_append, spanQuoted_other hq (fun _ => hb), ih]; rfl
  | doubled _ ih => rw [List.cons_append, List.cons_append, spanQuoted_doubled (by decide), ih]; rfl
  | escaped c _ ih => rw [List.cons_append, List.cons_append, spanQuoted_escaped, ih]; rfl

/-- What follows a comment does not change how it goes on. -/
theorem CommentTail.head?_append (h : CommentTail tail) (rest : List Char) :
    (tail ++ rest).head? = tail.head? := by
  cases h <;> rfl

/-- The tail of a comment inside another one closes that comment and no more. -/
theorem spanBlockComment_succ_of_commentTail (h : CommentTail tail) (depth : Nat) (rest : List Char) :
    spanBlockComment (depth + 1) (tail ++ rest)
      = (tail ++ (spanBlockComment depth rest).1, (spanBlockComment depth rest).2) := by
  induction h generalizing depth rest with
  | close => exact spanBlockComment_close_succ
  | char ho hc ht ih =>
    rw [List.cons_append, spanBlockComment_other, ih]
    · rfl
    · rwa [ht.head?_append]
    · rwa [ht.head?_append]
  | nested _ _ ihi iht =>
    rw [List.cons_append, List.cons_append, spanBlockComment_open, List.append_assoc, ihi, iht]
    simp

/-- The tail of a comment is read up to the mark that closes it. -/
theorem spanBlockComment_of_commentTail (h : CommentTail tail) (rest : List Char) :
    spanBlockComment 0 (tail ++ rest) = (tail, rest) := by
  induction h generalizing rest with
  | close => exact spanBlockComment_close
  | char ho hc ht ih =>
    rw [List.cons_append, spanBlockComment_other, ih]
    · rwa [ht.head?_append]
    · rwa [ht.head?_append]
  | nested hi _ _ iht =>
    rw [List.cons_append, List.cons_append, spanBlockComment_open, List.append_assoc,
      spanBlockComment_succ_of_commentTail hi, iht]

/-- The inside of a dollar quote is read up to the delimiter that closes it. -/
theorem spanThrough?_of_dollarBody {tag : List Char} (h : DollarBody tag body) (rest : List Char) :
    spanThrough? (delimiter tag) (body ++ (delimiter tag ++ rest))
      = some (body ++ delimiter tag, rest) := by
  induction body with
  | nil => exact spanThrough?_append_self (by simp [delimiter]) rest
  | cons c body ih =>
    have hno : ¬delimiter tag <+: c :: (body ++ (delimiter tag ++ rest)) := by
      intro hp
      have hlen : (delimiter tag).length ≤ (c :: body ++ delimiter tag).length := by simp; omega
      have hshort : delimiter tag <+: c :: body ++ delimiter tag :=
        List.prefix_of_prefix_length_le hp ⟨rest, by simp⟩ hlen
      exact absurd (h [] hshort) (by simp)
    have hbody : DollarBody tag body := by
      intro stretch hp
      have := h (c :: stretch) (by simpa using hp)
      simpa using this
    rw [List.cons_append, spanThrough?_cons hno, ih hbody]
    rfl

end Bodies

/-! ## Reading items -/

/-- The text `text` falls into verbatim segments when `rest` follows it. -/
def ReadVerbatim (before text rest : List Char) : Prop :=
  ∃ pieces : List (List Char), pieces.flatten = text ∧
    segmentsAfter before (text ++ rest)
      = pieces.map .verbatim ++ segmentsAfter (text.reverse ++ before) rest

section Verbatim

variable {before text rest : List Char}

theorem ReadVerbatim.nil : ReadVerbatim before [] rest := ⟨[], rfl, rfl⟩

/-- A verbatim segment that is read first is one piece. -/
theorem ReadFirst.readVerbatim (h : ReadFirst before (.verbatim text) rest) :
    ReadVerbatim before text rest :=
  ⟨[text], by simp, segmentsAfter_of_readFirst h⟩

/-- Texts that are read verbatim one after the other are read verbatim together. -/
theorem ReadVerbatim.append {more : List Char} (h : ReadVerbatim before text (more ++ rest))
    (hmore : ReadVerbatim (text.reverse ++ before) more rest) :
    ReadVerbatim before (text ++ more) rest := by
  obtain ⟨pieces, hpieces, hread⟩ := h
  obtain ⟨others, hothers, hread'⟩ := hmore
  refine ⟨pieces ++ others, by rw [List.flatten_append, hpieces, hothers], ?_⟩
  rw [List.append_assoc, hread, hread', List.reverse_append, List.map_append, List.append_assoc,
    List.append_assoc]

end Verbatim

section Stretches

variable {before body rest : List Char}

/-- A literal is one segment. -/
theorem readFirst_literal (hbefore : AtBreak before) (hbody : QuotedBody '\x27' body)
    (hrest : AtBreak rest) : ReadFirst before (.verbatim ('\x27' :: (body ++ ['\x27']))) rest := by
  refine ⟨'\x27', body ++ ['\x27'], rfl, ?_⟩
  rw [List.append_assoc, nextSegment_singleQuote, hbefore.opensEscapes, List.singleton_append,
    spanQuoted_of_quotedBody hbody (hrest.head?_ne (by decide))]

/-- The letter and the literal of an escape string are a segment each. -/
theorem readVerbatim_escapeString {e : Char} (he : e = 'E' ∨ e = 'e') (hbefore : AtBreak before)
    (hbody : EscapeBody body) (hrest : AtBreak rest) :
    ReadVerbatim before (e :: '\x27' :: (body ++ ['\x27'])) rest := by
  have hstart : isIdentStart e = true := by rcases he with rfl | rfl <;> decide
  have hletter : ReadFirst before (.verbatim [e]) ('\x27' :: (body ++ ['\x27']) ++ rest) :=
    ⟨e, [], rfl, nextSegment_word hstart⟩
  -- The break before the letter is what makes it the mark of an escape string.
  have hescapes : opensEscapes (e :: before) = true := by
    have hb : before.head?.any isIdentChar = false := hbefore.any_head? (by decide)
    rcases he with rfl | rfl <;> simp [opensEscapes, hb]
  have hliteral : ReadFirst (e :: before) (.verbatim ('\x27' :: (body ++ ['\x27']))) rest := by
    refine ⟨'\x27', body ++ ['\x27'], rfl, ?_⟩
    rw [List.append_assoc, nextSegment_singleQuote, hescapes, List.singleton_append,
      spanQuoted_of_escapeBody hbody (hrest.head?_ne (by decide))]
  exact hletter.readVerbatim.append hliteral.readVerbatim

/-- A quoted identifier is one segment. -/
theorem readFirst_quotedIdentifier (hbody : QuotedBody '\x22' body) (hrest : AtBreak rest) :
    ReadFirst before (.verbatim ('\x22' :: (body ++ ['\x22']))) rest := by
  refine ⟨'\x22', body ++ ['\x22'], rfl, ?_⟩
  rw [List.append_assoc, nextSegment_doubleQuote, List.singleton_append,
    spanQuoted_of_quotedBody hbody (hrest.head?_ne (by decide))]

/-- A dollar quote is one segment. -/
theorem readFirst_dollarQuote {tag : List Char} (htag : IsTag tag) (hbody : DollarBody tag body) :
    ReadFirst before (.verbatim (delimiter tag ++ (body ++ delimiter tag))) rest := by
  have hspan : spanDollar (tag ++ '$' :: (body ++ (delimiter tag ++ rest)))
      = (tag ++ '$' :: (body ++ delimiter tag), rest) :=
    spanDollar_quoted htag (spanThrough?_of_dollarBody hbody rest)
  refine ⟨'$', tag ++ '$' :: (body ++ delimiter tag), by simp [Segment.text, delimiter], ?_⟩
  rw [List.append_assoc, List.cons_append, List.append_assoc, nextSegment_dollar, hspan]
  simp [delimiter]

/-- A line comment is one segment. -/
theorem readFirst_lineComment (hbody : '\n' ∉ body) :
    ReadFirst before (.verbatim ('-' :: '-' :: (body ++ ['\n']))) rest := by
  refine ⟨'-', '-' :: (body ++ ['\n']), rfl, ?_⟩
  rw [List.cons_append, List.append_assoc, nextSegment_lineComment, List.singleton_append,
    spanLine_append_newline hbody]

/-- A block comment is one segment. -/
theorem readFirst_blockComment {tail : List Char} (htail : CommentTail tail) :
    ReadFirst before (.verbatim ('/' :: '*' :: tail)) rest := by
  refine ⟨'/', '*' :: tail, rfl, ?_⟩
  rw [List.cons_append, nextSegment_blockComment, spanBlockComment_of_commentTail htail]

end Stretches

/-! ## Numbers and operators

These have no segments of their own: they fall into words and single characters. What keeps them verbatim
is that nothing opens in them. -/

/-- A text in which no character opens anything and no identifier follows an at sign. -/
def IsPlain : List Char → Prop
  | [] => True
  | c :: cs => opensStretch c cs = false ∧ (c = '@' → cs.head?.any isIdentChar = false) ∧ IsPlain cs

/-- What is left of plain characters is plain. -/
theorem IsPlain.dropWhile {cs : List Char} (h : IsPlain cs) (p : Char → Bool) :
    IsPlain (cs.dropWhile p) := by
  induction cs with
  | nil => exact h
  | cons c cs ih =>
    rw [List.dropWhile_cons]
    split
    · exact ih h.2.2
    · exact h

/-- A break opens nothing. -/
theorem opensStretch_append {cs rest : List Char} (c : Char) (hrest : AtBreak rest) :
    opensStretch c (cs ++ rest) = opensStretch c cs := by
  cases cs with
  | nil =>
    have hm : (rest.head? == some '-') = false := by simpa using hrest.head?_ne (by decide)
    have hs : (rest.head? == some '*') = false := by simpa using hrest.head?_ne (by decide)
    simp [opensStretch, hm, hs]
  | cons d cs => rfl

/-- A plain text before a break is read verbatim. -/
theorem readVerbatim_of_isPlain {text rest : List Char} (htext : IsPlain text) (hrest : AtBreak rest)
    (before : List Char) : ReadVerbatim before text rest := by
  induction hn : text.length using Nat.strongRecOn generalizing text before with
  | ind n ih =>
    cases text with
    | nil => exact ReadVerbatim.nil
    | cons c cs =>
      obtain ⟨hopens, hat, hcs⟩ := htext
      rw [← opensStretch_append c hrest] at hopens
      have hshort : cs.length < n := by simp at hn; omega
      by_cases hstart : isIdentStart c = true
      · -- A word takes the whole run, so that the induction goes on behind it.
        have hfirst : ReadFirst before (.verbatim (c :: cs.takeWhile isWordChar))
            (cs.dropWhile isWordChar ++ rest) := by
          refine readFirst_word hstart (List.all_eq_true.1 List.all_takeWhile) ?_
          cases hdrop : cs.dropWhile isWordChar with
          | nil => exact hrest.any_head? (by decide)
          | cons d ds =>
            have hd := any_head?_dropWhile isWordChar cs
            rwa [hdrop] at hd
        have hlen : (cs.dropWhile isWordChar).length < n := by
          have := (List.dropWhile_suffix (p := isWordChar) (l := cs)).length_le
          omega
        have hmore := ih _ hlen (hcs.dropWhile isWordChar)
          ((c :: cs.takeWhile isWordChar).reverse ++ before) rfl
        have happ := hfirst.readVerbatim.append hmore
        rwa [List.cons_append, List.takeWhile_append_dropWhile] at happ
      · have hsingle : ReadFirst before (.verbatim [c]) (cs ++ rest) := by
          refine ⟨c, [], rfl, ?_⟩
          by_cases hc : c = '@'
          · subst hc
            have hhead : (cs ++ rest).head?.any isIdentChar = false := by
              cases cs with
              | nil => exact hrest.any_head? (by decide)
              | cons d ds => exact hat rfl
            have htake := @takeWhile_append_of_head isIdentChar [] _ (by simp) hhead
            have hdrop := @dropWhile_append_of_head isIdentChar [] _ (by simp) hhead
            rw [nextSegment_at, htake, hdrop]
            rfl
          · exact nextSegment_single hopens hc (by simpa using hstart)
        exact hsingle.readVerbatim.append (ih _ hshort hcs ([c].reverse ++ before) rfl)

/-- An identifier character opens nothing. -/
theorem opensStretch_of_isIdentChar {c : Char} (hc : isIdentChar c = true) (cs : List Char) :
    opensStretch c cs = false ∧ c ≠ '@' := by
  have hne : ∀ d : Char, isIdentChar d = false → c ≠ d := by
    rintro d hd rfl
    simp [hc] at hd
  simp [opensStretch, hne '\x27' (by decide), hne '\x22' (by decide), hne '-' (by decide),
    hne '/' (by decide), hne '$' (by decide), hne '@' (by decide)]

/-- After a sign a number goes on with no other sign. -/
theorem NumberTail.head?_ne {cs : List Char} (h : NumberTail '-' cs) : cs.head? ≠ some '-' := by
  cases h with
  | nil => simp
  | char hc =>
    rintro ⟨⟩
    simp [isIdentChar, isIdentStart] at hc
  | sign he => simp at he

theorem NumberTail.isPlain {last : Char} {cs : List Char} (h : NumberTail last cs) : IsPlain cs := by
  induction h with
  | nil => trivial
  | @char _ c cs hc _ ih =>
    rcases hc with hc | rfl
    · obtain ⟨hopens, hat⟩ := opensStretch_of_isIdentChar hc cs
      exact ⟨hopens, fun h => absurd h hat, ih⟩
    · exact ⟨by simp [opensStretch], by simp, ih⟩
  | @sign _ c cs _ hc ht ih =>
    rcases hc with rfl | rfl
    · exact ⟨by simp [opensStretch], by simp, ih⟩
    · exact ⟨by simp [opensStretch, ht.head?_ne], by simp, ih⟩

/-- A number has plain characters only. -/
theorem IsNumber.isPlain {cs : List Char} (h : IsNumber cs) : IsPlain cs := by
  have hdigit : ∀ {c : Char} {cs : List Char}, c.isDigit = true → NumberTail c cs → IsPlain (c :: cs) := by
    intro c cs hc ht
    have htail : NumberTail '0' (c :: cs) := .char (.inl (by simp [isIdentChar, hc])) ht
    exact htail.isPlain
  cases h with
  | digit hc ht => exact hdigit hc ht
  | point hc ht => exact ⟨by simp [opensStretch], by simp, hdigit hc ht⟩

/-- Operators without the marks of comments are plain. -/
theorem isPlain_of_operators {cs : List Char} (hcs : ∀ c ∈ cs, isOperatorChar c = true)
    (hline : ¬['-', '-'] <:+: cs) (hblock : ¬['/', '*'] <:+: cs) : IsPlain cs := by
  induction cs with
  | nil => trivial
  | cons c cs ih =>
    -- A mark that would open a comment here would stand in the operators.
    have hno : ∀ {d e : Char}, ¬[d, e] <:+: c :: cs → ¬(c = d ∧ cs.head? = some e) := by
      rintro d e hinfix ⟨rfl, he⟩
      obtain ⟨ds, rfl⟩ := List.head?_eq_some_iff.1 he
      exact hinfix (List.IsPrefix.isInfix ⟨ds, rfl⟩)
    have htail : ∀ {d e : Char}, ¬[d, e] <:+: c :: cs → ¬[d, e] <:+: cs :=
      fun h hi => h (hi.trans (List.suffix_cons c cs).isInfix)
    have hc := hcs c (by simp)
    simp only [isOperatorChar, Bool.and_eq_true, bne_iff_ne, Bool.not_eq_true'] at hc
    obtain ⟨⟨⟨-, hq⟩, hd⟩, hs⟩ := hc
    refine ⟨?_, fun _ => ?_, ih (fun d hd => hcs d (by simp [hd])) (htail hline) (htail hblock)⟩
    · have hl := hno hline
      have hb := hno hblock
      simp_all [opensStretch]
    · cases cs with
      | nil => rfl
      | cons d ds =>
        have hd' := hcs d (by simp)
        simp only [isOperatorChar, Bool.and_eq_true, Bool.not_eq_true'] at hd'
        simpa using hd'.1.1.1

/-! ## Rewriting items -/

/-- An item that is no placeholder is read verbatim between breaks. -/
theorem Inert.readVerbatim {before text rest : List Char} (h : Inert text) (hbefore : AtBreak before)
    (hrest : AtBreak rest) : ReadVerbatim before text rest := by
  cases h with
  | literal hbody => exact (readFirst_literal hbefore hbody hrest).readVerbatim
  | escapeString he hbody => exact readVerbatim_escapeString he hbefore hbody hrest
  | quotedIdentifier hbody => exact (readFirst_quotedIdentifier hbody hrest).readVerbatim
  | dollarQuote htag hbody => exact (readFirst_dollarQuote htag hbody).readVerbatim
  | lineComment hbody => exact (readFirst_lineComment hbody).readVerbatim
  | blockComment htail => exact (readFirst_blockComment htail).readVerbatim
  | word hc hcs => exact (readFirst_word hc hcs (hrest.any_head? (by decide))).readVerbatim
  | number hnum => exact readVerbatim_of_isPlain hnum.isPlain hrest before
  | positional hne hds =>
    exact (readFirst_positional hne hds (hrest.any_head? (by decide))).readVerbatim
  | operators hcs hline hblock =>
    exact readVerbatim_of_isPlain (isPlain_of_operators hcs hline hblock) hrest before

/-- What is read verbatim is kept. -/
theorem rewriteAfter_of_readVerbatim {names : List String} {before text rest : List Char}
    (h : ReadVerbatim before text rest) :
    rewriteAfter names before (text ++ rest)
      = text ++ rewriteAfter names (text.reverse ++ before) rest := by
  obtain ⟨pieces, hpieces, hread⟩ := h
  have hkept : (pieces.map Segment.verbatim).flatMap (Segment.rewrite names) = text := by
    rw [List.flatMap_map, ← hpieces]
    exact List.flatMap_id
  rw [rewriteAfter, hread, List.flatMap_append, hkept, rewriteAfter]

/-- A name fits an identifier if it means it. -/
theorem nameFits_iff {name : String} {ident : List Char} :
    nameFits ident name = true ↔ Means name ident := eqIgnoreCase_iff

/-- A placeholder becomes what the first name that means it says. -/
theorem becomes_placeholder (names : List String) {ident : List Char} (h : IsIdentifier ident) :
    Becomes names (.placeholder ident h) ((Segment.placeholder ident).rewrite names) := by
  cases hp : positionOf? names ident with
  | none =>
    rw [Segment.rewrite, hp]
    refine .unknown fun name hname hmeans => ?_
    have hfits := List.findIdx?_eq_none_iff.1 hp name hname
    rw [nameFits_iff.2 hmeans] at hfits
    exact absurd hfits (by decide)
  | some k =>
    obtain ⟨hk, hfits, hfirst⟩ := List.findIdx?_eq_some_iff_getElem.1 hp
    have hdigits : digits (k + 1) = (toString (k + 1)).toList := by
      simp [digits, Nat.repr]
    simp only [Segment.rewrite, hp, positional, hdigits]
    exact .numbered hk (nameFits_iff.1 hfits) fun j hj hmeans => hfirst j hj (nameFits_iff.2 hmeans)

/-- Between breaks an item is rewritten by itself. -/
theorem exists_becomes (names : List String) (item : Item) {before rest : List Char}
    (hbefore : AtBreak before) (hrest : AtBreak rest) :
    ∃ out, Becomes names item out ∧ rewriteAfter names before (item.text ++ rest)
      = out ++ rewriteAfter names (item.text.reverse ++ before) rest := by
  cases item with
  | inert text h =>
    exact ⟨text, .inert, rewriteAfter_of_readVerbatim (h.readVerbatim hbefore hrest)⟩
  | placeholder ident h =>
    have hfirst : ReadFirst before (.placeholder ident) rest :=
      readFirst_placeholder (hbefore.any_head? (by decide)) h (hrest.any_head? (by decide))
    exact ⟨_, becomes_placeholder names h, rewriteAfter_of_readFirst hfirst⟩

/-- A space is kept. -/
theorem rewriteAfter_space (names : List String) (before cs : List Char) :
    rewriteAfter names before (' ' :: cs) = ' ' :: rewriteAfter names (' ' :: before) cs :=
  rewriteAfter_of_readFirst (s := .verbatim [' ']) ⟨' ', [], rfl, nextSegment_single rfl (by decide) rfl⟩

/-- Items parted by single spaces are rewritten one by one. -/
theorem exists_becomes_spaced (names : List String) (items : List Item) {before : List Char}
    (hbefore : AtBreak before) :
    ∃ outs, List.Forall₂ (Becomes names) items outs ∧
      rewriteAfter names before (spaced (items.map Item.text)) = spaced outs := by
  induction items generalizing before with
  | nil => exact ⟨[], .nil, by simp [spaced]⟩
  | cons item items ih =>
    cases items with
    | nil =>
      obtain ⟨out, hout, hrewrite⟩ := exists_becomes names item hbefore atBreak_nil
      refine ⟨[out], .cons hout .nil, ?_⟩
      simpa [spaced] using hrewrite
    | cons next items =>
      obtain ⟨outs, houts, hrest⟩ := ih (atBreak_space (item.text.reverse ++ before))
      obtain ⟨out, hout, hrewrite⟩ := exists_becomes names item hbefore
        (atBreak_space (spaced ((next :: items).map Item.text)))
      refine ⟨out :: outs, .cons hout houts, ?_⟩
      have hne : outs ≠ [] := by rintro rfl; cases houts
      calc rewriteAfter names before (spaced ((item :: next :: items).map Item.text))
          = rewriteAfter names before
              (item.text ++ ' ' :: spaced ((next :: items).map Item.text)) := by
            simp [spaced]
        _ = out ++ ' ' :: spaced outs := by rw [hrewrite, rewriteAfter_space, hrest]
        _ = spaced (out :: outs) := by
            rw [spaced, spaced, List.intercalate_cons_of_ne_nil hne]; simp

/-- A text of lexical items that single spaces part is rewritten item by item: a placeholder whose
identifier a name means becomes `$k`, where `k` is the position of the first such name counted from one,
and everything else is kept. -/
theorem exists_numbered_items (names : List String) (items : List Item) :
    ∃ outs, List.Forall₂ (Becomes names) items outs ∧
      rewrite names (String.ofList (spaced (items.map Item.text))) = String.ofList (spaced outs) := by
  obtain ⟨outs, houts, hrewrite⟩ := exists_becomes_spaced names items atBreak_nil
  refine ⟨outs, houts, ?_⟩
  rw [rewrite, String.toList_ofList, ← hrewrite]
  rfl

end InProcessSql.Sql
