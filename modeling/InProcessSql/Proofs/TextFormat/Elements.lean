import Mathlib
import InProcessSql.Proofs.FallibleMap
import InProcessSql.TextFormat.Reading
import InProcessSql.TextFormat.Writing

/-!
# Elements of array texts

The texts of one element: `Escapes` says what characters stand for what text between quotes, and `Spells` what
text an element may have. Such texts with commas between them are split into their elements
(`splitElements_of_spells`), and a text that is split without an error consists of such texts, but that the last
one may break off behind a backslash (`exists_pieces_of_splitElements`).
-/

namespace InProcessSql.TextFormat

open InProcessSql.Text

/-! ## Between quotes -/

/-- The characters that stand for a text between quotes. Quotes and backslashes are behind a backslash, and any
other character may be. -/
inductive Escapes : List Char → List Char → Prop
  | nil : Escapes [] []
  | plain {c : Char} {s t : List Char} (hquote : c ≠ '\x22') (hslash : c ≠ '\\') (h : Escapes s t) :
    Escapes (c :: s) (c :: t)
  | escaped {c : Char} {s t : List Char} (h : Escapes s t) : Escapes (c :: s) ('\\' :: c :: t)

/-- Escaping each character where needed escapes the text. -/
theorem escapes_flatMap_escapeElementChar (s : List Char) : Escapes s (s.flatMap escapeElementChar) := by
  induction s with
  | nil => exact .nil
  | cons c s ih =>
    rw [List.flatMap_cons, escapeElementChar]
    split
    · exact .escaped ih
    · next hc =>
      rw [Bool.not_eq_true, Bool.or_eq_false_iff] at hc
      exact .plain (by simpa using hc.1) (by simpa using hc.2) ih

/-- A quote ends a quoted element. -/
theorem splitQuoted_cons_quote (rest : List Char) : splitQuoted ('\x22' :: rest) = .ok ([], rest) := by
  cases rest <;> rfl

/-- A character behind a backslash is taken as it is. -/
theorem splitQuoted_cons_escaped (c : Char) (cs : List Char) :
    splitQuoted ('\\' :: c :: cs) = (splitQuoted cs).map fun (text, rest) => (c :: text, rest) := by
  rw [splitQuoted, if_pos (beq_self_eq_true _)]

/-- Any other character is taken as it is. -/
theorem splitQuoted_cons_plain {c : Char} (hquote : c ≠ '\x22') (hslash : c ≠ '\\') (cs : List Char) :
    splitQuoted (c :: cs) = (splitQuoted cs).map fun (text, rest) => (c :: text, rest) := by
  cases cs with
  | nil => simp [splitQuoted, hquote, hslash, Except.map]
  | cons d cs =>
    rw [splitQuoted]
    simp only [beq_iff_eq, hquote, hslash, if_false]

/-- Between quotes reading goes through the characters of a text to what follows them. -/
theorem splitQuoted_append {s t : List Char} (h : Escapes s t) (rest : List Char) :
    splitQuoted (t ++ rest) = (splitQuoted rest).map fun (text, rest) => (s ++ text, rest) := by
  induction h with
  | nil =>
    rw [List.nil_append]
    cases splitQuoted rest <;> rfl
  | plain hquote hslash _ ih =>
    rw [List.cons_append, splitQuoted_cons_plain hquote hslash, ih]
    cases splitQuoted rest <;> rfl
  | escaped _ ih =>
    rw [List.cons_append, List.cons_append, splitQuoted_cons_escaped, ih]
    cases splitQuoted rest <;> rfl

/-- A text ends at the quote behind it. -/
theorem splitQuoted_closed {s t : List Char} (h : Escapes s t) (rest : List Char) :
    splitQuoted (t ++ '\x22' :: rest) = .ok (s, rest) := by
  rw [splitQuoted_append h, splitQuoted_cons_quote]
  exact congrArg Except.ok (Prod.ext (List.append_nil s) rfl)

/-- A text without a quote behind it is not closed. -/
theorem splitQuoted_unclosed {s t : List Char} (h : Escapes s t) :
    splitQuoted t = .error .unterminatedElement := by
  rw [← List.append_nil t, splitQuoted_append h]
  rfl

/-- A backslash at the very end closes a text. -/
theorem splitQuoted_backslash {s t : List Char} (h : Escapes s t) :
    splitQuoted (t ++ ['\\']) = .ok (s, []) := by
  rw [splitQuoted_append h]
  exact congrArg Except.ok (Prod.ext (List.append_nil s) rfl)

/-- What is read as a text stands for that text, up to the quote behind it or to a backslash at the very end. -/
theorem exists_escapes_of_splitQuoted {cs s rest : List Char} (h : splitQuoted cs = .ok (s, rest)) :
    ∃ t, Escapes s t ∧ (cs = t ++ '\x22' :: rest ∨ cs = t ++ ['\\'] ∧ rest = []) := by
  fun_induction splitQuoted cs generalizing s rest with
  | case1 => cases h
  | case2 c hc =>
    cases h
    -- The last character ends the text if it is a quote, and also if it is a backslash.
    rw [Bool.or_eq_true, beq_iff_eq, beq_iff_eq] at hc
    obtain rfl | rfl := hc
    · exact ⟨[], .nil, .inr ⟨rfl, rfl⟩⟩
    · exact ⟨[], .nil, .inl rfl⟩
  | case3 => cases h
  | case4 c d cs hc ih =>
    obtain rfl := beq_iff_eq.1 hc
    obtain ⟨p, hsplit, heq⟩ := map_eq_ok_iff.1 h
    cases heq
    obtain ⟨t, ht, hcs⟩ := ih hsplit
    exact ⟨'\\' :: d :: t, .escaped ht,
      hcs.imp (congrArg ('\\' :: d :: ·)) (And.imp_left (congrArg ('\\' :: d :: ·)))⟩
  | case5 c d cs hslash hc =>
    cases h
    exact ⟨[], .nil, .inl (congrArg (· :: _) (beq_iff_eq.1 hc))⟩
  | case6 c d cs hslash hquote ih =>
    rw [beq_iff_eq] at hslash hquote
    obtain ⟨p, hsplit, heq⟩ := map_eq_ok_iff.1 h
    cases heq
    obtain ⟨t, ht, hcs⟩ := ih hsplit
    exact ⟨c :: t, .plain hquote hslash ht, hcs.imp (congrArg (c :: ·)) (And.imp_left (congrArg (c :: ·)))⟩

/-! ## Elements -/

/-- What may follow an element of an array. -/
def EndsElement (rest : List Char) : Prop := rest = [] ∨ ∃ more, rest = ',' :: more

/-- The texts of an element. Between quotes it may have any characters, and outside quotes neither commas nor
opening braces. -/
inductive Spells : Element → List Char → Prop
  | quoted {s t : List Char} (h : Escapes s t) : Spells ⟨true, s⟩ ('\x22' :: (t ++ ['\x22']))
  | plain {t : List Char} (hcomma : ',' ∉ t) (hbrace : '\x7b' ∉ t) (hquote : t.head? ≠ some '\x22') :
    Spells ⟨false, t⟩ t

theorem splitElement_cons_quote (cs : List Char) :
    splitElement ('\x22' :: cs) = (splitQuoted cs).map fun (text, rest) => (⟨true, text⟩, rest) := rfl

/-- Without a quote in front an element runs to the next comma. -/
theorem splitElement_plain {t rest : List Char} (hcomma : ',' ∉ t) (hquote : t.head? ≠ some '\x22')
    (hrest : EndsElement rest) :
    splitElement (t ++ rest) = if t.contains '\x7b' then .error .nestedArray else .ok (⟨false, t⟩, rest) := by
  have hkeep : ∀ c ∈ t, (c != ',') = true := fun c hc => bne_iff_ne.2 fun heq => hcomma (heq ▸ hc)
  have hafter : rest.takeWhile (· != ',') = [] ∧ rest.dropWhile (· != ',') = rest := by
    obtain rfl | ⟨more, rfl⟩ := hrest <;> exact ⟨rfl, rfl⟩
  have hhead : ¬((t ++ rest).head? == some '\x22') = true := by
    rw [beq_iff_eq]
    cases t with
    | nil => obtain rfl | ⟨more, rfl⟩ := hrest <;> simp
    | cons c t => exact hquote
  rw [splitElement, if_neg hhead, List.takeWhile_append_of_pos hkeep, List.dropWhile_append_of_pos hkeep,
    hafter.1, hafter.2, List.append_nil]

/-- A text of an element is split off as that element. -/
theorem splitElement_of_spells {e : Element} {t rest : List Char} (h : Spells e t)
    (hrest : EndsElement rest) : splitElement (t ++ rest) = .ok (e, rest) := by
  cases h with
  | quoted h =>
    rw [List.cons_append, List.append_assoc, splitElement_cons_quote]
    show (splitQuoted (_ ++ '\x22' :: rest)).map _ = _
    rw [splitQuoted_closed h]
    rfl
  | plain hcomma hbrace hquote =>
    rw [splitElement_plain hcomma hquote hrest, if_neg (by simpa using hbrace)]

/-- A text of characters that need no quotes spells itself. -/
theorem spells_of_needsQuotes {t : List Char} (h : ∀ c ∈ t, needsQuotes c = false) : Spells ⟨false, t⟩ t := by
  refine .plain (fun hmem => ?_) (fun hmem => ?_) (fun hhead => ?_)
  · exact absurd (h _ hmem) (by decide)
  · exact absurd (h _ hmem) (by decide)
  · exact absurd (h _ (List.mem_of_head? hhead)) (by decide)

/-- A text that needs no quotes spells itself. -/
theorem spells_of_isQuotedElement {t : List Char} (h : isQuotedElement t = false) : Spells ⟨false, t⟩ t := by
  rw [isQuotedElement, Bool.or_eq_false_iff] at h
  exact spells_of_needsQuotes (by simpa using h.2)

/-- The word for null spells itself in any letter case. -/
theorem spells_null {t : List Char} (h : eqIgnoreCase t "NULL".toList = true) : Spells ⟨false, t⟩ t := by
  have hletters : ∀ c ∈ t, c.toLower ∈ foldCase "NULL".toList := by
    intro c hc
    rw [← eqIgnoreCase_iff.1 h]
    exact List.mem_map_of_mem hc
  refine .plain (fun hmem => ?_) (fun hmem => ?_) (fun hhead => ?_)
  · exact absurd (hletters _ hmem) (by decide)
  · exact absurd (hletters _ hmem) (by decide)
  · exact absurd (hletters _ (List.mem_of_head? hhead)) (by decide)

/-- The quoted texts that break off behind a backslash. -/
inductive BreaksOff : List Char → Prop
  | mk {s t : List Char} (h : Escapes s t) : BreaksOff ('\x22' :: (t ++ ['\\']))

/-- What is split off before a comma or the end is a text of the element, unless it breaks off. -/
theorem spells_or_breaksOff {cs rest : List Char} {e : Element} (h : splitElement cs = .ok (e, rest))
    (hrest : EndsElement rest) : (∃ t, cs = t ++ rest ∧ Spells e t) ∨ rest = [] ∧ BreaksOff cs := by
  cases cs with
  | nil =>
    cases h
    exact .inl ⟨[], rfl, .plain nofun nofun nofun⟩
  | cons c cs =>
    by_cases hc : c = '\x22'
    · subst hc
      rw [splitElement_cons_quote] at h
      obtain ⟨p, hsplit, hp⟩ := map_eq_ok_iff.1 h
      cases hp
      obtain ⟨t, ht, heq | ⟨heq, hend⟩⟩ := exists_escapes_of_splitQuoted hsplit
      · exact .inl ⟨_, by rw [heq, List.cons_append, List.append_assoc]; rfl, .quoted ht⟩
      · exact .inr ⟨hend, heq ▸ .mk ht⟩
    · rw [splitElement, if_neg (by simpa using hc)] at h
      dsimp only at h
      split at h
      · cases h
      · next hbrace =>
        cases h
        -- Without quotes, the element is what stands before the next comma.
        refine .inl ⟨_, (List.takeWhile_append_dropWhile).symm, .plain (fun hmem => ?_) ?_ (fun hhead => ?_)⟩
        · exact absurd (List.mem_takeWhile_imp hmem) (by decide)
        · simpa using hbrace
        · rw [List.takeWhile_cons] at hhead
          split at hhead
          · exact hc (Option.some.inj hhead)
          · cases hhead

/-! ## Elements with commas between them -/

theorem joinElements_cons_cons (t u : List Char) (ts : List (List Char)) :
    joinElements (t :: u :: ts) = t ++ ',' :: joinElements (u :: ts) := rfl

theorem joinElements_ne_nil {ts : List (List Char)} {t : List Char} (hmem : t ∈ ts) (hne : t ≠ []) :
    joinElements ts ≠ [] := by
  cases ts with
  | nil => cases hmem
  | cons u us =>
    cases us with
    | nil => rwa [joinElements, ← List.mem_singleton.1 hmem]
    | cons v vs => exact List.append_ne_nil_of_right_ne_nil _ (List.cons_ne_nil _ _)

/-- Elements are split off one by one, up to the first that is malformed or is not followed by a comma. -/
theorem splitElements_eq (cs : List Char) : splitElements cs =
    match splitElement cs with
    | .error e => ([], some e)
    | .ok (e, []) => ([e], none)
    | .ok (e, c :: rest) =>
      if c == ',' then (e :: (splitElements rest).1, (splitElements rest).2) else ([e], some (.afterElement c)) := by
  rw [splitElements]
  split <;> next h => rw [h]

/-- An element that cannot be split off is the end, with its error. -/
theorem splitElements_of_error {cs : List Char} {e : ReadError} (h : splitElement cs = .error e) :
    splitElements cs = ([], some e) := by
  rw [splitElements_eq, h]

/-- An element without a comma behind it is the last. -/
theorem splitElements_of_last {cs : List Char} {e : Element} (h : splitElement cs = .ok (e, [])) :
    splitElements cs = ([e], none) := by
  rw [splitElements_eq, h]

/-- Behind a comma the elements go on. -/
theorem splitElements_of_more {cs rest : List Char} {e : Element}
    (h : splitElement cs = .ok (e, ',' :: rest)) :
    splitElements cs = (e :: (splitElements rest).1, (splitElements rest).2) := by
  rw [splitElements_eq, h]
  rfl

/-- Texts of elements with commas between them are split into the elements. -/
theorem splitElements_of_spells {es : List Element} {ts : List (List Char)} (h : List.Forall₂ Spells es ts)
    (hne : ts ≠ []) : splitElements (joinElements ts) = (es, none) := by
  induction h with
  | nil => exact absurd rfl hne
  | @cons e t es ts hspells htail ih =>
    cases htail with
    | nil =>
      have hlast := splitElement_of_spells hspells (.inl rfl)
      rw [List.append_nil] at hlast
      exact splitElements_of_last hlast
    | cons =>
      rw [joinElements_cons_cons, splitElements_of_more (splitElement_of_spells hspells (.inr ⟨_, rfl⟩)),
        ih (List.cons_ne_nil _ _)]

/-- A quoted text that is not closed is malformed. -/
theorem splitElements_unclosed {s t : List Char} (h : Escapes s t) :
    splitElements ('\x22' :: t) = ([], some .unterminatedElement) := by
  apply splitElements_of_error
  rw [splitElement_cons_quote, splitQuoted_unclosed h]
  rfl

/-- A quoted text that breaks off behind a backslash is taken for one that is closed there. -/
theorem splitElements_backslash {s t : List Char} (h : Escapes s t) :
    splitElements ('\x22' :: (t ++ ['\\'])) = splitElements ('\x22' :: (t ++ ['\x22'])) := by
  have hbreaks : splitElement ('\x22' :: (t ++ ['\\'])) = .ok (⟨true, s⟩, []) := by
    rw [splitElement_cons_quote, splitQuoted_backslash h]
    rfl
  have hcloses : splitElement ('\x22' :: (t ++ ['\x22'])) = .ok (⟨true, s⟩, []) := by
    rw [splitElement_cons_quote, splitQuoted_closed h]
    rfl
  rw [splitElements_of_last hbreaks, splitElements_of_last hcloses]

/-! ## Pieces -/

/-- What may stand between two commas of an array text, without being an element yet: outside quotes there may be
opening braces. -/
inductive IsPiece : List Char → Prop
  | quoted {s t : List Char} (h : Escapes s t) : IsPiece ('\x22' :: (t ++ ['\x22']))
  | plain {t : List Char} (hcomma : ',' ∉ t) (hquote : t.head? ≠ some '\x22') : IsPiece t

/-- A text of an element is a piece between commas. -/
theorem Spells.isPiece {e : Element} {t : List Char} (h : Spells e t) : IsPiece t := by
  cases h with
  | quoted h => exact .quoted h
  | plain hcomma _ hquote => exact .plain hcomma hquote

/-- What a piece is split off as does not depend on what follows it. -/
theorem IsPiece.exists_splitElement {t : List Char} (h : IsPiece t) : ∃ r : Except ReadError Element,
    ∀ rest, EndsElement rest → splitElement (t ++ rest) = r.map fun e => (e, rest) := by
  cases h with
  | @quoted s t h => exact ⟨.ok ⟨true, s⟩, fun rest hrest => splitElement_of_spells (.quoted h) hrest⟩
  | plain hcomma hquote =>
    refine ⟨if t.contains '\x7b' then .error .nestedArray else .ok ⟨false, t⟩, fun rest hrest => ?_⟩
    rw [splitElement_plain hcomma hquote hrest]
    split <;> rfl

/-- Behind pieces a text is split as it is alone, unless one of the pieces is malformed. -/
theorem exists_splitElements_append {init : List (List Char)} (hinit : ∀ p ∈ init, IsPiece p) :
    ∃ f : List Element × Option ReadError → List Element × Option ReadError,
      (∀ split, split.2.isSome = true → (f split).2.isSome = true) ∧
        ∀ last, splitElements (joinElements (init ++ [last])) = f (splitElements last) := by
  induction init with
  | nil => exact ⟨id, fun _ h => h, fun _ => rfl⟩
  | cons p init ih =>
    obtain ⟨f, herror, hsplit⟩ := ih fun q hq => hinit q (List.mem_cons_of_mem p hq)
    obtain ⟨r, hr⟩ := (hinit p List.mem_cons_self).exists_splitElement
    have hjoin : ∀ last, joinElements (p :: init ++ [last]) = p ++ ',' :: joinElements (init ++ [last]) := by
      intro last
      cases init <;> rfl
    have hfirst : ∀ last, splitElement (joinElements (p :: init ++ [last]))
        = r.map fun e => (e, ',' :: joinElements (init ++ [last])) := fun last => by
      rw [hjoin]
      exact hr _ (.inr ⟨_, rfl⟩)
    cases r with
    | error e =>
      -- The first malformed piece ends the split, so that the last one is not come to.
      exact ⟨fun _ => ([], some e), fun _ _ => rfl, fun last => splitElements_of_error (hfirst last)⟩
    | ok e =>
      refine ⟨fun split => (e :: (f split).1, (f split).2), herror, fun last => ?_⟩
      rw [splitElements_of_more (hfirst last), hsplit]

/-- A text that is split without an error consists of pieces, the last of which may break off. -/
theorem exists_pieces_of_splitElements {cs : List Char} {es : List Element}
    (h : splitElements cs = (es, none)) :
    ∃ init last, cs = joinElements (init ++ [last]) ∧ (∀ p ∈ init, IsPiece p) ∧
      (IsPiece last ∨ BreaksOff last) := by
  fun_induction splitElements cs generalizing es with
  | case1 cs e herror => cases h
  | case2 cs e hlast =>
    refine ⟨[], cs, rfl, nofun, ?_⟩
    obtain ⟨t, ht, hspells⟩ | ⟨-, hbreaks⟩ := spells_or_breaksOff hlast (.inl rfl)
    · rw [List.append_nil] at ht
      exact .inl (ht ▸ hspells.isPiece)
    · exact .inr hbreaks
  | case3 cs e c rest hmore hcomma more error hrest ih =>
    rw [beq_iff_eq] at hcomma
    subst hcomma
    cases h
    obtain ⟨t, ht, hspells⟩ | ⟨hend, -⟩ := spells_or_breaksOff hmore (.inr ⟨_, rfl⟩)
    · obtain ⟨init, last, hjoin, hinit, hlast⟩ := ih hrest
      refine ⟨t :: init, last, ?_, List.forall_mem_cons.2 ⟨hspells.isPiece, hinit⟩, hlast⟩
      rw [ht, hjoin]
      cases init <;> rfl
    · cases hend
  | case4 => cases h

end InProcessSql.TextFormat
