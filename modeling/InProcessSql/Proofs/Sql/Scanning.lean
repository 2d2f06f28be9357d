import InProcessSql.Proofs.Sql.Rereading
import InProcessSql.Proofs.TextBytes
import InProcessSql.Sql.Scan

/-!
# Scanning and reading a text

The scan over the bytes of a text goes the way of the reading of its characters. Each way to skip a stretch comes to
where the characters stand that the stretch leaves (`standsAt_quotedEnd`, `exists_standsAt_commentEnd?`,
`exists_standsAt_skipDollar`), also from an index inside a character, where a jump may have led. `Follows` is what holds
between the turns: `Follows.turn` carries it over one turn, and `Reached.follows` over all of them.

So no index leaves the text, the text is cut between characters only, and the scan writes what `rewrite` does
(`scan_advances`).
-/

namespace InProcessSql.Sql

open InProcessSql.Text

/-! ## Tests of bytes -/

/-- Identifiers start alike with bytes and with characters. -/
theorem reflects_isStartByte : Reflects isStartByte isIdentStart := by
  refine reflects_of_ascii true (by decide +kernel) (fun b hb => ?_) (fun c hc => ?_)
  · simp only [isStartByte, hb, decide_true, Bool.or_true]
  · have hc : (0x80 : UInt32) ≤ c.val := UInt32.le_iff_toNat_le.2 hc
    simp only [isIdentStart, hc, decide_true, Bool.or_true]

/-- Digits are the same among bytes and among characters. -/
theorem reflects_isDigitByte : Reflects isDigitByte Char.isDigit := by
  refine reflects_of_ascii false (by decide +kernel) (fun b hb => ?_) (fun c hc => ?_)
  · have hle : ¬b ≤ 0x39 := fun hle => absurd (UInt8.le_trans hb hle) (by decide)
    rw [isDigitByte, decide_eq_false hle, Bool.and_false]
  · have hle : ¬c.val ≤ '9'.val := fun hle => absurd (Nat.le_trans hc (UInt32.le_iff_toNat_le.1 hle)) (by decide)
    rw [Char.isDigit, decide_eq_false hle, Bool.and_false]

/-- Identifiers go on alike with bytes and with characters. -/
theorem reflects_isIdentByte : Reflects isIdentByte isIdentChar := reflects_isStartByte.or reflects_isDigitByte

/-- Words go on alike with bytes and with characters. -/
theorem reflects_isWordByte : Reflects (fun b => isIdentByte b || b == '$'.toUInt8) isWordChar :=
  reflects_isIdentByte.or (reflects_eq (by decide))

/-! ## Quoted sections -/

section Stretches

variable {bytes : List UInt8} {i : Nat} {cs : List Char}

theorem backslash_of_quote {q : Char} {escapes : Bool} {b : UInt8} (hescape : ¬(escapes && b == '\\'.toUInt8) = true)
    (hquote : (b == q.toUInt8) = true) : escapes = true → q ≠ '\\' := by
  rintro rfl rfl
  exact hescape (by simpa using hquote)

/-- Wherever it starts, the search for the end of a quoted section stops behind the section. -/
theorem standsAt_quotedEnd {q : Char} (hq : q.toNat < 128) (escapes : Bool) (h : RunsInto bytes i cs) :
    StandsAt bytes (quotedEnd bytes q.toUInt8 escapes i) (spanQuoted q escapes cs).2 := by
  fun_induction quotedEnd bytes q.toUInt8 escapes i generalizing cs with
  | case1 i hi hescape ih =>
    obtain ⟨rfl, hbyte⟩ : escapes = true ∧ bytes[i] = '\\'.toUInt8 := by simpa using hescape
    obtain ⟨rest, rfl, hhere⟩ := (hbyte ▸ h.meets hi).exists_standsAt (by decide)
    have hnext := hhere.tail (by decide)
    -- The byte behind the backslash may be any byte of a character, or be missing.
    cases rest with
    | nil => exact @ih [] hnext.runsInto.succ
    | cons c rest =>
      rw [spanQuoted_escaped]
      exact ih hnext.runsInto_succ
  | case2 i hi hescape hquote hdoubled ih =>
    have hplain := backslash_of_quote hescape hquote
    obtain ⟨rest, rfl, hhere⟩ := (eq_of_beq hquote ▸ h.meets hi).exists_standsAt hq
    have hnext := hhere.tail hq
    obtain ⟨rest, rfl⟩ := List.head?_eq_some_iff.1 ((hnext.getElem?_eq_some_iff hq).1 (eq_of_beq hdoubled))
    rw [spanQuoted_doubled hplain]
    exact ih (hnext.tail hq).runsInto
  | case3 i hi hescape hquote hdoubled =>
    have hplain := backslash_of_quote hescape hquote
    obtain ⟨rest, rfl, hhere⟩ := (eq_of_beq hquote ▸ h.meets hi).exists_standsAt hq
    have hnext := hhere.tail hq
    rw [spanQuoted_close hplain (mt (hnext.getElem?_eq_some_iff hq).2 (by simpa using hdoubled))]
    exact hnext
  | case4 i hi hescape hquote ih =>
    cases h.meets hi with
    | inside _ hnext => exact ih hnext
    | @first c rest hb hhere =>
      have hc : (bytes[i] == q.toUInt8) = (c == q) := reflects_eq hq c _ hb
      have hback : (bytes[i] == '\\'.toUInt8) = (c == '\\') := reflects_eq (by decide) c _ hb
      rw [hback] at hescape
      rw [hc] at hquote
      rw [spanQuoted_other (by simpa using hquote) (by simpa using hescape)]
      exact ih hhere.runsInto_succ
  | case5 i hi =>
    rw [h.eq_nil hi]
    exact .end_of_text bytes

/-- Skipping a quoted stretch by bytes ends where the characters behind it start. -/
theorem standsAt_skipQuoted {q : Char} (hq : q.toNat < 128) (escapes : Bool) (h : StandsAt bytes i (q :: cs)) :
    StandsAt bytes (skipQuoted bytes i q.toUInt8 escapes) (spanQuoted q escapes cs).2 :=
  standsAt_quotedEnd hq escapes (h.tail hq).runsInto

/-! ## Comments -/

/-- The slice from a character on is there, and has the bytes of the characters behind. -/
theorem bytesFrom?_eq (h : StandsAt bytes i cs) : bytesFrom? bytes i = some (bytesOf cs) := by
  rw [bytesFrom?, if_pos h.le_length, h.drop_eq]

/-- A line that does not end runs to the end of the text. -/
theorem snd_spanLine_of_notMem (h : '\n' ∉ cs) : (spanLine cs).2 = [] := by
  induction cs with
  | nil => rfl
  | cons c cs ih =>
    rw [List.mem_cons, not_or] at h
    have hc : ¬(c == '\n') = true := by simpa using Ne.symm h.1
    simp only [spanLine, if_neg hc]
    exact ih h.2

/-- No byte of characters that are no line breaks is a line break. -/
theorem findIdx?_eq_none (h : '\n' ∉ cs) : (bytesOf cs).findIdx? (· == '\n'.toUInt8) = none := by
  rw [List.findIdx?_eq_none_iff]
  intro b hb
  obtain ⟨c, hc, hb⟩ := exists_of_mem_bytesOf hb
  have hbreak : (b == '\n'.toUInt8) = (c == '\n') := reflects_eq (by decide) c b hb
  rw [hbreak, beq_eq_false_iff_ne]
  rintro rfl
  exact h hc

/-- A line comment is skipped as it is read. -/
theorem exists_standsAt_skipLine (h : StandsAt bytes i cs) :
    ∃ j, skipLine bytes i = some j ∧ StandsAt bytes j (spanLine cs).2 := by
  rw [skipLine, bytesFrom?_eq h, Option.map_some]
  by_cases hbreak : '\n' ∈ cs
  · obtain ⟨body, rest, rfl, hbody⟩ := List.eq_append_cons_of_mem hbreak
    have hfirst : (bytesOf (body ++ '\n' :: rest)).findIdx? (· == '\n'.toUInt8) = some (bytesOf body).length := by
      rw [bytesOf_append, List.findIdx?_append, findIdx?_eq_none hbody, bytesOf_cons, utf8EncodeChar_of_lt (by decide),
        List.singleton_append, List.findIdx?_cons, beq_self_eq_true, if_pos rfl, Option.none_or, Option.map_some,
        Nat.zero_add]
    rw [hfirst, spanLine_append_newline hbody]
    exact ⟨_, rfl, (h.behind body).tail (by decide)⟩
  · rw [findIdx?_eq_none hbreak, snd_spanLine_of_notMem hbreak]
    exact ⟨_, rfl, .end_of_text bytes⟩

/-- A byte and the one behind it are two ASCII characters if and only if these stand there. -/
theorem pair_eq {b : UInt8} {c a a' : Char} (ha : a.toNat < 128) (ha' : a'.toNat < 128)
    (hb : b ∈ String.utf8EncodeChar c) (h : StandsAt bytes i (c :: cs)) :
    (b == a.toUInt8 && bytes[i + 1]? == some a'.toUInt8) = (c == a && cs.head? == some a') := by
  have hc : (b == a.toUInt8) = (c == a) := reflects_eq ha c b hb
  rw [hc]
  cases heq : c == a with
  | false => rfl
  | true =>
    obtain rfl := eq_of_beq heq
    rw [Bool.true_and, Bool.true_and, Bool.eq_iff_iff, beq_iff_eq, beq_iff_eq]
    exact (h.tail ha).getElem?_eq_some_iff ha'

/-- Where a byte and the one behind it are two ASCII characters, these stand. -/
theorem exists_pair {a a' : Char} (ha : a.toNat < 128) (ha' : a'.toNat < 128) (h : RunsInto bytes i cs)
    (hi : i < bytes.length) (hpair : (bytes[i] == a.toUInt8 && bytes[i + 1]? == some a'.toUInt8) = true) :
    ∃ rest, cs = a :: a' :: rest ∧ StandsAt bytes (i + 2) rest := by
  obtain ⟨hbyte, hnext⟩ : bytes[i] = a.toUInt8 ∧ bytes[i + 1]? = some a'.toUInt8 := by simpa using hpair
  obtain ⟨rest, rfl, hhere⟩ := (hbyte ▸ h.meets hi).exists_standsAt ha
  have hsecond := hhere.tail ha
  obtain ⟨rest, rfl⟩ := List.head?_eq_some_iff.1 ((hsecond.getElem?_eq_some_iff ha').1 hnext)
  exact ⟨rest, rfl, hsecond.tail ha'⟩

/-- Wherever it starts, the search for the end of a comment that is open stops behind the comment, and never closes
one that has not been opened. -/
theorem exists_standsAt_commentEnd? {depth : Nat} (h : RunsInto bytes i cs) :
    ∃ j, commentEnd? bytes (depth + 1) i = some j ∧ StandsAt bytes j (spanBlockComment depth cs).2 := by
  -- The byte scan counts the comment that is open, the reading only those inside it.
  generalize hopen : depth + 1 = count
  fun_induction commentEnd? bytes count i generalizing depth cs with
  | case1 count i hi hmark ih =>
    obtain ⟨rest, rfl, hstands⟩ := exists_pair (by decide) (by decide) h hi hmark
    rw [spanBlockComment_open]
    exact ih hstands.runsInto (congrArg (· + 1) hopen)
  | case2 i hi hmark hclose => cases hopen
  | case3 i hi hmark hclose =>
    obtain ⟨rest, rfl, hstands⟩ := exists_pair (by decide) (by decide) h hi hclose
    obtain rfl : depth = 0 := Nat.succ.inj hopen
    rw [spanBlockComment_close]
    exact ⟨i + 2, rfl, hstands⟩
  | case4 i hi hmark hclose count hcount ih =>
    obtain ⟨rest, rfl, hstands⟩ := exists_pair (by decide) (by decide) h hi hclose
    obtain ⟨depth, rfl⟩ : ∃ d, depth = d + 1 := Nat.exists_eq_succ_of_ne_zero (by omega)
    rw [spanBlockComment_close_succ]
    exact ih hstands.runsInto (Nat.succ.inj hopen)
  | case5 count i hi hmark hclose ih =>
    cases h.meets hi with
    | inside _ hnext => exact ih hnext hopen
    | @first c rest hb hhere =>
      rw [pair_eq (by decide) (by decide) hb hhere] at hmark hclose
      rw [spanBlockComment_other (by simpa using hmark) (by simpa using hclose)]
      exact ih hhere.runsInto_succ hopen
  | case6 count i hi =>
    rw [h.eq_nil hi]
    exact ⟨bytes.length, rfl, .end_of_text bytes⟩

/-- A block comment is skipped as it is read. -/
theorem exists_standsAt_skipBlockComment (h : StandsAt bytes i ('/' :: '*' :: cs)) :
    ∃ j, skipBlockComment bytes i = some j ∧ StandsAt bytes j (spanBlockComment 0 cs).2 := by
  have hnext := h.tail (by decide)
  have hbody := hnext.tail (by decide)
  have hslash := (h.getElem?_eq_some_iff (a := '/') (by decide)).2 rfl
  have hstar := (hnext.getElem?_eq_some_iff (a := '*') (by decide)).2 rfl
  obtain ⟨hi, hbyte⟩ := List.getElem?_eq_some_iff.1 hslash
  have hmark : (bytes[i] == '/'.toUInt8 && bytes[i + 1]? == some '*'.toUInt8) = true := by
    rw [hbyte, hstar]
    rfl
  rw [skipBlockComment, commentEnd?, dif_pos hi, if_pos hmark]
  exact exists_standsAt_commentEnd? hbody.runsInto

/-! ## Dollar signs -/

/-- A delimiter of ASCII does not begin in bytes beyond ASCII. -/
theorem indexOf?_beyond {a : Char} (ha : a.toNat < 128) (d : List UInt8) {beyond : List UInt8}
    (hbeyond : ∀ b ∈ beyond, 0x80 ≤ b) (bs : List UInt8) :
    indexOf? (a.toUInt8 :: d) (beyond ++ bs) = (indexOf? (a.toUInt8 :: d) bs).map (· + beyond.length) := by
  induction beyond with
  | nil => simp
  | cons b beyond ih =>
    have hb : (a.toUInt8 == b) = false := by
      rw [beq_eq_false_iff_ne]
      rintro rfl
      exact absurd (toUInt8_lt ha) (UInt8.not_lt.2 (hbeyond _ List.mem_cons_self))
    rw [List.cons_append, indexOf?, List.isPrefixOf, hb, Bool.false_and, if_neg Bool.false_ne_true,
      ih fun b hb => hbeyond b (List.mem_cons_of_mem _ hb), Option.map_map]
    rfl

/-- A delimiter is found among the bytes where it is found among the characters. -/
theorem map_indexOf?_bytesOf {a : Char} (ha : a.toNat < 128) (d cs : List Char) :
    (indexOf? (bytesOf (a :: d)) (bytesOf cs)).map (· + (bytesOf (a :: d)).length)
      = (spanThrough? (a :: d) cs).map fun found => (bytesOf found.1).length := by
  have hneedle : bytesOf (a :: d) = a.toUInt8 :: bytesOf d := by
    rw [bytesOf_cons, utf8EncodeChar_of_lt ha, List.singleton_append]
  induction cs with
  | nil => rw [hneedle]; rfl
  | cons c cs ih =>
    obtain ⟨b, bs, hbytes, hbs⟩ := exists_utf8EncodeChar_eq c
    have hcs : bytesOf (c :: cs) = b :: (bs ++ bytesOf cs) := by rw [bytesOf_cons, hbytes, List.cons_append]
    by_cases hstart : a :: d <+: c :: cs
    · have hbytesStart : bytesOf (a :: d) <+: bytesOf (c :: cs) := by
        obtain ⟨more, hmore⟩ := hstart
        exact ⟨bytesOf more, by rw [← bytesOf_append, hmore]⟩
      rw [hcs] at hbytesStart ⊢
      rw [indexOf?, if_pos (List.isPrefixOf_iff_prefix.2 hbytesStart), spanThrough?,
        if_pos (List.isPrefixOf_iff_prefix.2 hstart), Option.map_some, Option.map_some, Nat.zero_add]
    · have hbytesStart : ¬bytesOf (a :: d) <+: b :: (bs ++ bytesOf cs) :=
        fun h => hstart (startsWith_of_bytesOf (hcs ▸ h))
      have hlength : ∀ found : List Char, (bytesOf (c :: found)).length = (bytesOf found).length + (bs.length + 1) := by
        intro found
        rw [bytesOf_cons, hbytes, List.length_append, List.length_cons, Nat.add_comm]
      -- The search goes on byte by byte, and passes the other bytes of the character.
      have hbehind : indexOf? (bytesOf (a :: d)) (bs ++ bytesOf cs)
          = (indexOf? (bytesOf (a :: d)) (bytesOf cs)).map (· + bs.length) := by
        rw [hneedle]
        exact indexOf?_beyond ha _ hbs _
      calc (indexOf? (bytesOf (a :: d)) (bytesOf (c :: cs))).map (· + (bytesOf (a :: d)).length)
          = ((indexOf? (bytesOf (a :: d)) (bytesOf cs)).map (· + (bytesOf (a :: d)).length)).map
              (· + (bs.length + 1)) := by
            rw [hcs, indexOf?, if_neg (mt List.isPrefixOf_iff_prefix.1 hbytesStart), hbehind, Option.map_map,
              Option.map_map, Option.map_map]
            congr 1
            funext p
            simp only [Function.comp_apply]
            omega
        _ = (spanThrough? (a :: d) (c :: cs)).map fun found => (bytesOf found.1).length := by
            rw [ih, spanThrough?_cons hstart, Option.map_map, Option.map_map]
            congr 1
            funext found
            exact (hlength found.1).symm

/-- The tag is a run of identifier characters, if one that may start an identifier is first. -/
theorem dollarTag_eq (cs : List Char) :
    dollarTag cs = if cs.head?.any isIdentStart then cs.takeWhile isIdentChar else [] := by
  cases cs with
  | nil => rfl
  | cons c cs =>
    rw [dollarTag, List.head?_cons, Option.any_some]
    split
    · rw [List.takeWhile_cons_of_pos (isIdentChar_of_isIdentStart ‹_›)]
    · rfl

/-- A tag is as long in bytes as its characters are. -/
theorem tagLength_bytesOf (cs : List Char) : tagLength (bytesOf cs) = (bytesOf (dollarTag cs)).length := by
  rw [tagLength, any_head?_bytesOf reflects_isStartByte, takeWhile_bytesOf reflects_isIdentByte, dollarTag_eq]
  split <;> rfl

/-- The slice between two characters is there, and has the bytes of those between. -/
theorem bytesBetween?_eq {j : Nat} {text : List Char} (h : StandsAt bytes i (text ++ cs)) (h' : StandsAt bytes j cs) :
    bytesBetween? bytes i j = some (bytesOf text) := by
  obtain ⟨hle, hextract⟩ := h.extract_eq h'
  rw [bytesBetween?, if_pos ⟨hle, h'.le_length⟩, hextract]

/-- Behind a dollar sign digits are skipped as a positional parameter. -/
theorem skipDollar_of_digits {ds rest : List Char} (h : StandsAt bytes i ('$' :: (ds ++ rest))) (hne : ds ≠ [])
    (hdigits : (ds ++ rest).takeWhile Char.isDigit = ds) :
    skipDollar bytes i = some (i + 1 + (bytesOf ds).length) := by
  have hpos : 0 < (bytesOf ds).length := by
    obtain ⟨d, ds, rfl⟩ := List.exists_cons_of_ne_nil hne
    rw [bytesOf_cons, List.length_append]
    exact Nat.add_pos_left (List.length_pos_iff.2 String.utf8EncodeChar_ne_nil) _
  simp only [skipDollar, bytesFrom?_eq (h.tail (by decide)), Option.bind_eq_bind, Option.bind_some,
    takeWhile_bytesOf reflects_isDigitByte, hdigits, if_pos hpos]
  rfl

/-- Without digits, there has to be a dollar sign behind the tag. -/
theorem skipDollar_of_head?_ne (h : StandsAt bytes i ('$' :: cs)) (hdigits : cs.takeWhile Char.isDigit = [])
    (hdollar : (cs.drop (dollarTag cs).length).head? ≠ some '$') : skipDollar bytes i = some (i + 1) := by
  have hnext : StandsAt bytes (i + 1) cs := h.tail (by decide)
  have htag : StandsAt bytes (i + 1 + (bytesOf (dollarTag cs)).length) (cs.drop (dollarTag cs).length) :=
    StandsAt.behind _ (by rwa [dollarTag_append])
  have hbyte : ((bytesOf cs)[(bytesOf (dollarTag cs)).length]? != some '$'.toUInt8) = true := by
    rw [← hnext.drop_eq, List.getElem?_drop, bne_iff_ne]
    exact mt (htag.getElem?_eq_some_iff (by decide)).1 hdollar
  simp only [skipDollar, bytesFrom?_eq hnext, Option.bind_eq_bind, Option.bind_some,
    takeWhile_bytesOf reflects_isDigitByte, hdigits, tagLength_bytesOf, hbyte]
  rfl

theorem delimiter_append (tag body : List Char) : delimiter tag ++ body = '$' :: (tag ++ '$' :: body) := by
  rw [delimiter, List.cons_append, List.append_assoc, List.singleton_append]

/-- Behind a tag and a dollar sign, the delimiter is looked for. -/
theorem skipDollar_of_isTag {tag body : List Char} (htag : IsTag tag)
    (h : StandsAt bytes i ('$' :: (tag ++ '$' :: body))) :
    skipDollar bytes i = some (match indexOf? (bytesOf (delimiter tag)) (bytesOf body) with
      | some p => i + (bytesOf (delimiter tag)).length + p + (bytesOf (delimiter tag)).length
      | none => i + 1) := by
  have hnext : StandsAt bytes (i + 1) (tag ++ '$' :: body) := h.tail (by decide)
  have hbyte : ((bytesOf (tag ++ '$' :: body))[(bytesOf tag).length]? != some '$'.toUInt8) = false := by
    rw [← hnext.drop_eq, List.getElem?_drop, bne_eq_false_iff_eq]
    exact ((hnext.behind tag).getElem?_eq_some_iff (by decide)).2 rfl
  rw [← delimiter_append] at h
  have hbody := h.behind (delimiter tag)
  have hlength : (bytesOf (delimiter tag)).length = (bytesOf tag).length + 2 := by
    simp only [delimiter, bytesOf_cons, bytesOf_append, bytesOf_nil, List.length_append, List.length_nil,
      utf8EncodeChar_of_lt (c := '$') (by decide), List.length_singleton]
    omega
  have hbetween : bytesBetween? bytes i (i + (bytesOf tag).length + 2) = some (bytesOf (delimiter tag)) := by
    rw [Nat.add_assoc, ← hlength]
    exact bytesBetween?_eq h hbody
  have hne : ¬(bytesOf (delimiter tag)).length = 0 := by omega
  simp only [skipDollar, bytesFrom?_eq hnext, Option.bind_eq_bind, Option.bind_some,
    takeWhile_bytesOf reflects_isDigitByte, takeWhile_isDigit_of_isTag htag, tagLength_bytesOf,
    dollarTag_of_isTag htag, hbyte, hbetween, bytesFrom?_eq hbody, if_neg hne]
  cases indexOf? (bytesOf (delimiter tag)) (bytesOf body) <;> rfl

/-- What belongs to a dollar sign is skipped as it is read. -/
theorem exists_standsAt_skipDollar (h : StandsAt bytes i ('$' :: cs)) :
    ∃ j, skipDollar bytes i = some j ∧ StandsAt bytes j (spanDollar cs).2 := by
  have hnext : StandsAt bytes (i + 1) cs := h.tail (by decide)
  have hread := dollarReading_spanDollar cs
  generalize (spanDollar cs).1 = taken, (spanDollar cs).2 = rest at hread ⊢
  cases hread with
  | digits hne hds hrest =>
    exact ⟨_, skipDollar_of_digits h hne (takeWhile_append_of_head hds hrest), hnext.behind _⟩
  | @quote tag body quoted rest htag hspan =>
    have hfound := map_indexOf?_bytesOf (a := '$') (by decide) (tag ++ ['$']) body
    rw [← delimiter, hspan, Option.map_some] at hfound
    obtain ⟨p, hp, hlength⟩ := Option.map_eq_some_iff.1 hfound
    refine ⟨i + (bytesOf (delimiter tag)).length + (bytesOf quoted).length, ?_, ?_⟩
    · rw [skipDollar_of_isTag htag h, hp, ← hlength, ← Nat.add_assoc]
    rw [← delimiter_append, ← spanThrough?_append hspan] at h
    exact (h.behind (delimiter tag)).behind quoted
  | bare hhead hopen =>
    have hdigits : cs.takeWhile Char.isDigit = [] := @takeWhile_append_of_head Char.isDigit [] _ (by simp) hhead
    -- With an opening delimiter the search for the closing one fails, and without one there is no search.
    by_cases hdollar : (cs.drop (dollarTag cs).length).head? = some '$'
    · obtain ⟨body, hbody⟩ := List.head?_eq_some_iff.1 hdollar
      have hsplit := dollarTag_append cs
      rw [hbody] at hsplit
      have hfound := map_indexOf?_bytesOf (a := '$') (by decide) (dollarTag cs ++ ['$']) body
      rw [← delimiter, hopen _ body (isTag_dollarTag cs) hsplit.symm, Option.map_none, Option.map_eq_none_iff] at hfound
      rw [← hsplit] at h
      rw [skipDollar_of_isTag (isTag_dollarTag cs) h, hfound]
      exact ⟨_, rfl, hnext⟩
    · exact ⟨_, skipDollar_of_head?_ne h hdigits hdollar, hnext⟩

/-! ## Words -/

/-- A word ends behind the bytes that may be part of it. -/
theorem wordEnd_eq (bytes : List UInt8) (i : Nat) :
    wordEnd bytes i = i + ((bytes.drop i).takeWhile fun b => isIdentByte b || b == '$'.toUInt8).length := by
  fun_induction wordEnd bytes i with
  | case1 i hi hword ih =>
    rw [ih, List.drop_eq_getElem_cons hi, List.takeWhile_cons]
    simp only [hword, if_true, List.length_cons]
    omega
  | case2 i hi hword =>
    rw [List.drop_eq_getElem_cons hi, List.takeWhile_cons]
    simp only [hword, Bool.false_eq_true, if_false, List.length_nil, Nat.add_zero]
  | case3 i hend =>
    rw [List.drop_of_length_le (Nat.le_of_not_lt hend)]
    rfl

/-- The rest of a word is skipped as it is read, also from an index inside its first character. -/
theorem standsAt_wordEnd (h : RunsInto bytes i cs) (hi : i ≤ bytes.length) :
    StandsAt bytes (wordEnd bytes i) (cs.dropWhile isWordChar) := by
  obtain ⟨rest, hrest, hdrop⟩ := h
  have hword : ∀ b ∈ rest, (isIdentByte b || b == '$'.toUInt8) = true := by
    intro b hb
    rw [isIdentByte, isStartByte, decide_eq_true (hrest b hb)]
    simp
  have hstands : StandsAt bytes (i + rest.length) cs := by
    have hlength := congrArg List.length hdrop
    rw [List.length_drop, List.length_append] at hlength
    refine ⟨by omega, ?_⟩
    rw [← List.drop_drop, hdrop, List.drop_left]
  rw [wordEnd_eq, hdrop, List.takeWhile_append_of_pos hword, takeWhile_bytesOf reflects_isWordByte, List.length_append,
    ← Nat.add_assoc]
  refine StandsAt.behind _ ?_
  rwa [List.takeWhile_append_dropWhile]

end Stretches

/-! ## What stands before an index -/

section Before

variable {bytes : List UInt8} {before cs : List Char} {i : Nat}

/-- The byte before an index is the last one up to it. -/
theorem byteBefore?_eq (bytes : List UInt8) (i : Nat) (h : i ≤ bytes.length) :
    byteBefore? bytes i h = (bytes.take i).getLast? := by
  rw [byteBefore?, List.getLast?_take]
  by_cases hi : 0 < i
  · rw [dif_pos hi, if_neg (Nat.ne_of_gt hi), List.getElem?_eq_getElem (by omega), Option.some_or]
  · rw [dif_neg hi, if_pos (Nat.eq_zero_of_not_pos hi)]

/-- The byte before an index is one of the character before it. -/
theorem any_byteBefore? {q : UInt8 → Bool} {p : Char → Bool} (hqp : Reflects q p)
    (hbytes : bytes = bytesOf (before.reverse ++ cs)) (h : StandsAt bytes i cs) (hi : i ≤ bytes.length) :
    (byteBefore? bytes i hi).any q = before.head?.any p := by
  subst hbytes
  obtain rfl := (standsAt_bytesOf before.reverse cs).index_eq h
  rw [byteBefore?_eq, bytesOf_append, List.take_left, any_getLast?_bytesOf hqp, List.getLast?_reverse]

/-- A quote opens an escape string by the bytes before it if it does by the characters before it. -/
theorem escapesAt_eq (hbytes : bytes = bytesOf (before.reverse ++ cs)) (h : StandsAt bytes i cs)
    (hi : i ≤ bytes.length) : escapesAt bytes i hi = opensEscapes before := by
  have hmark : Reflects (fun b => b == 'E'.toUInt8 || b == 'e'.toUInt8) (fun c => c == 'E' || c == 'e') :=
    (reflects_eq (by decide)).or (reflects_eq (by decide))
  rw [escapesAt, any_byteBefore? hmark hbytes h]
  cases before with
  | nil => rfl
  | cons c before =>
    rw [List.head?_cons, Option.any_some, opensEscapes]
    cases hc : c == 'E' || c == 'e' with
    | false => rfl
    | true =>
      -- The mark is one byte, so that the byte before it is of the character before it.
      have hascii : c.toNat < 128 := by
        rcases Bool.or_eq_true_iff.1 hc with hc | hc <;> rw [eq_of_beq hc] <;> decide
      rw [List.reverse_cons, List.append_assoc, List.singleton_append] at hbytes
      have hmarkAt : StandsAt bytes (bytesOf before.reverse).length (c :: cs) := hbytes ▸ standsAt_bytesOf _ _
      obtain rfl := (hmarkAt.tail hascii).index_eq h
      exact congrArg (fun b => true && !b)
        (any_byteBefore? reflects_isIdentByte hbytes hmarkAt (Nat.le_of_succ_le hi))

end Before

/-! ## Pieces of a text -/

/-- An index at a character is a boundary of the text. -/
theorem isBoundary_of_standsAt {sql : String} {i : Nat} {cs : List Char} (h : StandsAt (toBytes sql) i cs) :
    IsBoundary sql i := by
  have hlength : sql.utf8ByteSize = (toBytes sql).length := by
    rw [toBytes, String.toUTF8_eq_toByteArray, Array.length_toList]
    rfl
  have hrest : sql.toByteArray.extract i sql.utf8ByteSize = (bytesOf cs).toByteArray := by
    apply ByteArray.ext
    apply Array.ext'
    rw [ByteArray.data_extract, Array.toList_extract, List.toList_data_toByteArray, hlength, List.extract_eq_take_drop,
      ← h.drop_eq, toBytes, String.toUTF8_eq_toByteArray]
    exact List.take_of_length_le (by rw [List.length_drop])
  rw [IsBoundary, String.Pos.Raw.isValid_iff_isValidUTF8_extract_utf8ByteSize, String.Pos.Raw.le_iff]
  refine ⟨?_, ?_⟩
  · rw [String.byteIdx_rawEndPos, hlength]
    exact h.le_length
  · rw [hrest]
    exact ⟨cs, rfl⟩

/-- The piece between two characters is there, and has the characters between. -/
theorem pieceOf?_eq {sql : String} {i j : Nat} {text cs : List Char} (h : StandsAt (toBytes sql) i (text ++ cs))
    (h' : StandsAt (toBytes sql) j cs) : pieceOf? sql i j = some text := by
  obtain ⟨hle, hextract⟩ := h.extract_eq h'
  rw [pieceOf?, if_pos ⟨hle, isBoundary_of_standsAt h, isBoundary_of_standsAt h'⟩, hextract]
  have htext : bytesOf text = toBytes (String.ofList text) := by rw [toBytes_eq_bytesOf, String.toList_ofList]
  rw [htext, ofBytes_toBytes, String.toList_ofList]

/-! ## Turns -/

/-- A scan follows the reading of a text: it has come to the characters that are still to be read, has written what is
read before the pending ones, and what is read on is what is still to be written. -/
structure Follows (names : List String) (sql : String) (s : Progress) (done pending cs : List Char) : Prop where
  text_eq : sql.toList = done ++ pending ++ cs
  copied : StandsAt (toBytes sql) s.copied (pending ++ cs)
  index : StandsAt (toBytes sql) s.index cs
  written_eq : s.written ++ pending ++ rewriteAfter names (done ++ pending).reverse cs = rewriteChars names sql.toList

namespace Follows

variable {names : List String} {sql : String} {s : Progress} {done pending cs : List Char}

theorem toBytes_eq (h : Follows names sql s done pending cs) :
    toBytes sql = bytesOf ((done ++ pending).reverse.reverse ++ cs) := by
  rw [toBytes_eq_bytesOf, h.text_eq, List.reverse_reverse]

/-- A segment that is kept is pending behind it. -/
theorem moveTo {c : Char} {segment : Segment} {rest : List Char} {j : Nat}
    (h : Follows names sql s done pending (c :: cs))
    (hnext : nextSegment (done ++ pending).reverse c cs = (segment, rest))
    (hkept : segment.rewrite names = segment.text) (hstands : StandsAt (toBytes sql) j rest) :
    Follows names sql (s.moveTo j) done (pending ++ segment.text) rest := by
  have hsplit := nextSegment_append (done ++ pending).reverse c cs
  have hread := readFirst_nextSegment (done ++ pending).reverse c cs
  rw [hnext] at hsplit hread
  refine ⟨?_, ?_, hstands, ?_⟩
  · rw [h.text_eq, ← hsplit]
    simp only [List.append_assoc]
  · rw [List.append_assoc, hsplit]
    exact h.copied
  · have hwritten := h.written_eq
    rw [← hsplit, rewriteAfter_of_readFirst hread, hkept] at hwritten
    simpa only [Progress.moveTo, List.append_assoc, List.reverse_append] using hwritten

/-- Behind a segment that is kept, the scan follows the reading if it has come there. -/
theorem kept {c : Char} {segment : Segment} {rest : List Char} (h : Follows names sql s done pending (c :: cs))
    (hnext : nextSegment (done ++ pending).reverse c cs = (segment, rest))
    (hkept : segment.rewrite names = segment.text) {x : Option Nat}
    (hx : ∃ j, x = some j ∧ StandsAt (toBytes sql) j rest) :
    ∃ s' done' pending', x.map s.moveTo = some s' ∧
      Follows names sql s' done' pending' (nextSegment (done ++ pending).reverse c cs).2 := by
  obtain ⟨j, rfl, hstands⟩ := hx
  rw [hnext]
  exact ⟨s.moveTo j, done, pending ++ segment.text, rfl, h.moveTo hnext hkept hstands⟩

/-- A placeholder that a name fits is written by its number, and nothing is pending behind it. -/
theorem number {ident rest : List Char} {j k : Nat} (h : Follows names sql s done pending ('@' :: cs))
    (hnext : nextSegment (done ++ pending).reverse '@' cs = (.placeholder ident, rest))
    (hk : positionOf? names ident = some k) (hstands : StandsAt (toBytes sql) j rest) :
    Follows names sql ⟨j, j, s.written ++ pending ++ positional k⟩ (done ++ pending ++ '@' :: ident) [] rest := by
  have hsplit := nextSegment_append (done ++ pending).reverse '@' cs
  have hread := readFirst_nextSegment (done ++ pending).reverse '@' cs
  rw [hnext] at hsplit hread
  refine ⟨?_, hstands, hstands, ?_⟩
  · rw [h.text_eq, ← hsplit]
    simp only [Segment.text, List.append_assoc, List.append_nil]
  · have hwritten := h.written_eq
    rw [← hsplit, rewriteAfter_of_readFirst hread, Segment.rewrite, hk] at hwritten
    simpa only [Segment.text, List.append_assoc, List.reverse_append, List.append_nil] using hwritten

/-- An identifier starts as the text does. -/
theorem any_head?_takeWhile (cs : List Char) :
    (cs.takeWhile isIdentChar).head?.any isIdentStart = cs.head?.any isIdentStart := by
  cases cs with
  | nil => rfl
  | cons c cs =>
    cases hc : isIdentChar c with
    | true => rw [List.takeWhile_cons_of_pos hc, List.head?_cons, List.head?_cons]
    | false =>
      have hstart : isIdentStart c = false := by
        rw [Bool.eq_false_iff]
        exact mt isIdentChar_of_isIdentStart (Bool.eq_false_iff.1 hc)
      rw [List.takeWhile_cons_of_neg (Bool.eq_false_iff.1 hc), List.head?_nil, List.head?_cons, Option.any_none,
        Option.any_some, hstart]

/-- A turn at an at sign moves behind what is read there. -/
theorem turnAt (h : Follows names sql s done pending ('@' :: cs)) (hi : s.index ≤ (toBytes sql).length) :
    ∃ s' done' pending', turnAt names sql s hi = some s' ∧
      Follows names sql s' done' pending' (nextSegment (done ++ pending).reverse '@' cs).2 := by
  have hnext : StandsAt (toBytes sql) (s.index + 1) cs := h.index.tail (by decide)
  have hstop : StandsAt (toBytes sql) (s.index + 1 + (bytesOf (cs.takeWhile isIdentChar)).length)
      (cs.dropWhile isIdentChar) := by
    refine StandsAt.behind _ ?_
    rwa [List.takeWhile_append_dropWhile]
  -- The bytes around the name say what the characters do, since names begin and end at characters.
  have hcondition : ((toBytes sql)[s.index + 1]?.any isStartByte &&
      !(byteBefore? (toBytes sql) s.index hi).any isIdentByte)
      = isPlaceholderAt (done ++ pending).reverse (cs.takeWhile isIdentChar) := by
    rw [hnext.any_getElem? reflects_isStartByte, any_byteBefore? reflects_isIdentByte h.toBytes_eq h.index,
      isPlaceholderAt, any_head?_takeWhile]
  have hmax : max (s.index + 1 + (bytesOf (cs.takeWhile isIdentChar)).length) (s.index + 1)
      = s.index + 1 + (bytesOf (cs.takeWhile isIdentChar)).length := Nat.max_eq_left (Nat.le_add_right _ _)
  have hident : pieceOf? sql (s.index + 1) (s.index + 1 + (bytesOf (cs.takeWhile isIdentChar)).length)
      = some (cs.takeWhile isIdentChar) :=
    pieceOf?_eq (by rwa [List.takeWhile_append_dropWhile]) hstop
  simp only [Sql.turnAt, bytesFrom?_eq hnext, Option.bind_eq_bind, Option.bind_some,
    takeWhile_bytesOf reflects_isIdentByte, hcondition, hmax, hident, pieceOf?_eq h.copied h.index]
  have hread := @nextSegment_at (done ++ pending).reverse cs
  cases hwhole : isPlaceholderAt (done ++ pending).reverse (cs.takeWhile isIdentChar) with
  | false =>
    rw [hwhole, if_neg Bool.false_ne_true] at hread
    exact h.kept hread rfl ⟨_, rfl, hstop⟩
  | true =>
    rw [hwhole, if_pos rfl] at hread
    cases hk : positionOf? names (cs.takeWhile isIdentChar) with
    | none => exact h.kept hread (by rw [Segment.rewrite, hk]; rfl) ⟨_, rfl, hstop⟩
    | some k =>
      rw [hread]
      exact ⟨_, _, [], rfl, h.number hread hk hstop⟩

/-- A turn moves behind the first segment of what is still to be read. -/
theorem turn {c : Char} (h : Follows names sql s done pending (c :: cs)) (hi : s.index < (toBytes sql).length) :
    ∃ s' done' pending', turn names sql s hi = some s' ∧
      Follows names sql s' done' pending' (nextSegment (done ++ pending).reverse c cs).2 := by
  have hmem := h.index.getElem_mem hi
  have hbyte : ∀ a : Char, a.toNat < 128 → ((toBytes sql)[s.index] == a.toUInt8) = (c == a) :=
    fun a ha => reflects_eq ha c _ hmem
  have hstart : isStartByte (toBytes sql)[s.index] = isIdentStart c := reflects_isStartByte c _ hmem
  have hpair : ∀ a a' : Char, a.toNat < 128 → a'.toNat < 128 →
      ((toBytes sql)[s.index] == a.toUInt8 && (toBytes sql)[s.index + 1]? == some a'.toUInt8)
        = (c == a && cs.head? == some a') := fun a a' ha ha' => pair_eq ha ha' hmem h.index
  have hescapes := escapesAt_eq h.toBytes_eq h.index (Nat.le_of_lt hi)
  simp only [Sql.turn, hpair '-' '-' (by decide) (by decide), hpair '/' '*' (by decide) (by decide),
    hbyte '\x27' (by decide), hbyte '\x22' (by decide), hbyte '$' (by decide), hbyte '@' (by decide), hstart, hescapes]
  -- The tests of the turn come in the order in which the reading makes them.
  by_cases hsingle : c = '\x27'
  · subst hsingle
    exact h.kept nextSegment_singleQuote rfl ⟨_, rfl, standsAt_skipQuoted (by decide) _ h.index⟩
  rw [if_neg (by simpa using hsingle)]
  by_cases hdouble : c = '\x22'
  · subst hdouble
    exact h.kept nextSegment_doubleQuote rfl ⟨_, rfl, standsAt_skipQuoted (by decide) _ h.index⟩
  rw [if_neg (by simpa using hdouble)]
  by_cases hline : c = '-' ∧ cs.head? = some '-'
  · obtain ⟨rfl, hminus⟩ := hline
    obtain ⟨cs, rfl⟩ := List.head?_eq_some_iff.1 hminus
    have hbehind : (spanLine ('-' :: '-' :: cs)).2 = (spanLine cs).2 := rfl
    exact h.kept nextSegment_lineComment rfl (hbehind ▸ exists_standsAt_skipLine h.index)
  rw [if_neg (by simpa using hline)]
  by_cases hblock : c = '/' ∧ cs.head? = some '*'
  · obtain ⟨rfl, hstar⟩ := hblock
    obtain ⟨cs, rfl⟩ := List.head?_eq_some_iff.1 hstar
    exact h.kept nextSegment_blockComment rfl (exists_standsAt_skipBlockComment h.index)
  rw [if_neg (by simpa using hblock)]
  by_cases hdollar : c = '$'
  · subst hdollar
    exact h.kept nextSegment_dollar rfl (exists_standsAt_skipDollar h.index)
  rw [if_neg (by simpa using hdollar)]
  by_cases hat : c = '@'
  · subst hat
    exact h.turnAt (Nat.le_of_lt hi)
  rw [if_neg (by simpa using hat)]
  by_cases hword : isIdentStart c = true
  · rw [if_pos hword]
    exact h.kept (nextSegment_word hword) rfl ⟨_, rfl, standsAt_wordEnd h.index.runsInto_succ hi⟩
  · rw [if_neg hword]
    -- Every character beyond ASCII may start an identifier, so that one byte is the whole character.
    have hascii : c.toNat < 128 := by
      by_contra hle
      have hle : (0x80 : UInt32) ≤ c.val := UInt32.le_iff_toNat_le.2 (Nat.le_of_not_lt hle)
      exact hword (by simp only [isIdentStart, hle, decide_true, Bool.or_true])
    have hopens : opensStretch c cs = false := by
      simp only [opensStretch, Bool.or_eq_false_iff, Bool.and_eq_false_iff, beq_eq_false_iff_ne]
      exact ⟨⟨⟨⟨hsingle, hdouble⟩, hdollar⟩, not_and_or.1 hline⟩, not_and_or.1 hblock⟩
    exact h.kept (nextSegment_single hopens hat (Bool.eq_false_iff.2 hword)) rfl ⟨_, rfl, h.index.tail hascii⟩

/-- Before the end of the text there is a turn, and behind it the scan still follows the reading. -/
theorem exists_turn (h : Follows names sql s done pending cs) (hi : s.index < (toBytes sql).length) :
    ∃ s' done' pending' cs', Sql.turn names sql s hi = some s' ∧ Follows names sql s' done' pending' cs' := by
  cases cs with
  | nil =>
    have hlength := h.index.length_eq
    rw [bytesOf_nil, List.length_nil] at hlength
    omega
  | cons c cs =>
    obtain ⟨s', done', pending', hturn, hfollows⟩ := h.turn hi
    exact ⟨s', done', pending', _, hturn, hfollows⟩

end Follows

/-! ## Scans -/

/-- The scan of a text comes by. -/
inductive Reached (names : List String) (sql : String) : Progress → Prop where
  | start : Reached names sql {}
  | turn {s s' : Progress} (hs : Reached names sql s) (h : s.index < (toBytes sql).length)
      (hturn : turn names sql s h = some s') : Reached names sql s'

namespace Reached

variable {names : List String} {sql : String} {s : Progress}

/-- Wherever the scan comes by, it follows the reading of the text. -/
theorem follows (h : Reached names sql s) : ∃ done pending cs, Follows names sql s done pending cs := by
  induction h with
  | start =>
    have hstands : StandsAt (toBytes sql) 0 sql.toList := ⟨Nat.zero_le _, toBytes_eq_bytesOf sql⟩
    exact ⟨[], [], sql.toList, rfl, hstands, hstands, rfl⟩
  | turn hs hi hturn ih =>
    obtain ⟨done, pending, cs, hfollows⟩ := ih
    obtain ⟨next, done', pending', cs', hnext, hfollows'⟩ := hfollows.exists_turn hi
    cases hturn.symm.trans hnext
    exact ⟨done', pending', cs', hfollows'⟩

/-- From wherever it comes by, the scan comes to the end of the text. -/
theorem exists_scanFrom (h : Reached names sql s) :
    ∃ last, scanFrom names sql s = some last ∧ Reached names sql last ∧ ¬last.index < (toBytes sql).length := by
  fun_induction scanFrom names sql s with
  | case1 s hi hnone =>
    obtain ⟨done, pending, cs, hfollows⟩ := h.follows
    obtain ⟨next, -, -, -, hnext, -⟩ := hfollows.exists_turn hi
    cases hnone.symm.trans hnext
  | case2 s hi next hnext hlt ih => exact ih (h.turn hi hnext)
  | case3 s hi => exact ⟨s, rfl, h, hi⟩

end Reached

/-- An index behind another, in the text and between characters. -/
structure Advances (sql : String) (i j : Nat) : Prop where
  lt : i < j
  le_length : j ≤ (toBytes sql).length
  isBoundary : IsBoundary sql j

section Advances

variable {sql : String} {start j : Nat} {cs : List Char}

/-- A later character is an advance. -/
theorem advances_of_standsAt (hlt : start < j) (h : StandsAt (toBytes sql) j cs) : Advances sql start j :=
  ⟨hlt, h.le_length, isBoundary_of_standsAt h⟩

/-- Where a byte of a text is ASCII, its character stands. -/
theorem exists_standsAt_of_byte {a : Char} (ha : a.toNat < 128) (h : (toBytes sql)[start]? = some a.toUInt8) :
    ∃ cs, StandsAt (toBytes sql) start (a :: cs) := by
  rw [toBytes_eq_bytesOf] at h ⊢
  exact exists_standsAt_of_getElem? ha h

/-- A quoted section is left, whatever character quotes and wherever it starts. -/
theorem advances_skipQuoted {quote : Char} (hascii : quote.toNat < 128) (escapes : Bool)
    (h : (toBytes sql)[start]? = some quote.toUInt8) :
    Advances sql start (skipQuoted (toBytes sql) start quote.toUInt8 escapes) := by
  obtain ⟨cs, hstands⟩ := exists_standsAt_of_byte hascii h
  have hlt := (List.getElem?_eq_some_iff.1 h).1
  exact advances_of_standsAt (lt_skipQuoted hlt _ _) (standsAt_skipQuoted hascii _ hstands)

/-- A block comment is left, and is never closed more often than it has been opened. -/
theorem exists_advances_skipBlockComment (hslash : (toBytes sql)[start]? = some '/'.toUInt8)
    (hstar : (toBytes sql)[start + 1]? = some '*'.toUInt8) :
    ∃ j, skipBlockComment (toBytes sql) start = some j ∧ Advances sql start j := by
  obtain ⟨cs, hstands⟩ := exists_standsAt_of_byte (by decide) hslash
  have hsecond := (hstands.tail (by decide)).getElem?_eq_some_iff (a := '*') (by decide)
  obtain ⟨cs, rfl⟩ := List.head?_eq_some_iff.1 (hsecond.1 hstar)
  obtain ⟨j, hj, hstandsBehind⟩ := exists_standsAt_skipBlockComment hstands
  have hlt := (List.getElem?_eq_some_iff.1 hslash).1
  exact ⟨j, hj, advances_of_standsAt (lt_of_skipBlockComment hlt hj) hstandsBehind⟩

/-- What belongs to a dollar sign is left. -/
theorem exists_advances_skipDollar (h : (toBytes sql)[start]? = some '$'.toUInt8) :
    ∃ j, skipDollar (toBytes sql) start = some j ∧ Advances sql start j := by
  obtain ⟨cs, hstands⟩ := exists_standsAt_of_byte (by decide) h
  obtain ⟨j, hj, hstandsBehind⟩ := exists_standsAt_skipDollar hstands
  exact ⟨j, hj, advances_of_standsAt (lt_of_skipDollar hj) hstandsBehind⟩

end Advances

/-- At the end of the text, the rest of it is there to be written, and all that is written is the rewritten text. -/
theorem Follows.scan_eq {names : List String} {sql : String} {last : Progress} {done pending cs : List Char}
    (h : Follows names sql last done pending cs) (hend : ¬last.index < (toBytes sql).length)
    (hlast : scanFrom names sql {} = some last) : scan names sql = some (rewrite names sql).toList := by
  obtain rfl := h.index.eq_nil hend
  have hpiece : pieceOf? sql last.copied (toBytes sql).length = some pending :=
    pieceOf?_eq h.copied (.end_of_text _)
  have hwritten := h.written_eq
  rw [rewriteAfter_nil, List.append_nil] at hwritten
  rw [scan, hlast, Option.bind_eq_bind, Option.bind_some, hpiece, Option.bind_eq_bind, Option.bind_some, hwritten,
    rewrite, String.toList_ofList]
  rfl

/-- In every text, skipping a quoted section, a block comment or what belongs to a dollar sign moves on from wherever it
starts to an index between characters, and so does every turn of the scan. The scan comes to the end of the text, all
pieces of the text that it asks for are there, and what it writes is the rewritten text. -/
theorem scan_advances (names : List String) (sql : String) :
    (∀ quote ∈ ['\x27', '\x22'], ∀ (escapes : Bool) (start : Nat), (toBytes sql)[start]? = some quote.toUInt8 →
      Advances sql start (skipQuoted (toBytes sql) start quote.toUInt8 escapes)) ∧
    (∀ start, (toBytes sql)[start]? = some '/'.toUInt8 → (toBytes sql)[start + 1]? = some '*'.toUInt8 →
      ∃ j, skipBlockComment (toBytes sql) start = some j ∧ Advances sql start j) ∧
    (∀ start, (toBytes sql)[start]? = some '$'.toUInt8 →
      ∃ j, skipDollar (toBytes sql) start = some j ∧ Advances sql start j) ∧
    (∀ s, Reached names sql s → IsBoundary sql s.copied ∧ IsBoundary sql s.index ∧ s.index ≤ (toBytes sql).length ∧
      ∀ h : s.index < (toBytes sql).length, ∃ s', turn names sql s h = some s' ∧ Advances sql s.index s'.index) ∧
    (∃ last, scanFrom names sql {} = some last ∧ last.index = (toBytes sql).length) ∧
    scan names sql = some (rewrite names sql).toList := by
  obtain ⟨last, hlast, hreached, hend⟩ := (Reached.start : Reached names sql {}).exists_scanFrom
  obtain ⟨done, pending, cs, hfollows⟩ := hreached.follows
  have hindex : last.index = (toBytes sql).length :=
    Nat.le_antisymm hfollows.index.le_length (Nat.le_of_not_lt hend)
  refine ⟨fun quote hquote escapes start => advances_skipQuoted ?_ escapes,
    fun start => exists_advances_skipBlockComment, fun start => exists_advances_skipDollar, fun s hs => ?_,
    ⟨last, hlast, hindex⟩, hfollows.scan_eq hend hlast⟩
  · simp only [List.mem_cons, List.not_mem_nil, or_false] at hquote
    rcases hquote with rfl | rfl <;> decide
  · obtain ⟨done, pending, cs, hfollows⟩ := hs.follows
    refine ⟨isBoundary_of_standsAt hfollows.copied, isBoundary_of_standsAt hfollows.index, hfollows.index.le_length,
      fun h => ?_⟩
    obtain ⟨s', _, _, cs', hturn, hfollows'⟩ := hfollows.exists_turn h
    exact ⟨s', hturn, advances_of_standsAt (index_lt_of_turn hturn) hfollows'.index⟩

/-- A text of a dollar quote, a comment and an escape string that are not closed, the last of which ends in a backslash
before a character of two bytes. -/
def unclosedText : String := "@a $é$ /* e'\\é"

/-- The backslash jumps into the last character, and yet all stretches end between characters. -/
theorem scan_advances_unclosed :
    (toBytes unclosedText)[12]? = some '\x27'.toUInt8 ∧ (toBytes unclosedText)[13]? = some '\\'.toUInt8 ∧
      ¬IsBoundary unclosedText 15 ∧ skipQuoted (toBytes unclosedText) 12 '\x27'.toUInt8 true = 16 ∧
      Advances unclosedText 12 16 ∧
    (toBytes unclosedText)[8]? = some '/'.toUInt8 ∧ (toBytes unclosedText)[8 + 1]? = some '*'.toUInt8 ∧
      skipBlockComment (toBytes unclosedText) 8 = some 16 ∧ Advances unclosedText 8 16 ∧
    (toBytes unclosedText)[3]? = some '$'.toUInt8 ∧ skipDollar (toBytes unclosedText) 3 = some 4 ∧
      Advances unclosedText 3 4 ∧
    (∃ (h : (0 : Nat) < (toBytes unclosedText).length) (s' : Progress),
      turn ["a"] unclosedText {} h = some s' ∧ Advances unclosedText 0 s'.index) ∧
    scan ["a"] unclosedText = some "$1 $é$ /* e'\\é".toList := by
  obtain ⟨hquoted, hcomment, hdollar, hturns, -, hscan⟩ := scan_advances ["a"] unclosedText
  have hquote : (toBytes unclosedText)[12]? = some '\x27'.toUInt8 := by decide +kernel
  have hquotedEnd : skipQuoted (toBytes unclosedText) 12 '\x27'.toUInt8 true = 16 := by decide +kernel
  have hslash : (toBytes unclosedText)[8]? = some '/'.toUInt8 := by decide +kernel
  have hstar : (toBytes unclosedText)[8 + 1]? = some '*'.toUInt8 := by decide +kernel
  have hcommentEnd : skipBlockComment (toBytes unclosedText) 8 = some 16 := by decide +kernel
  have hsign : (toBytes unclosedText)[3]? = some '$'.toUInt8 := by decide +kernel
  have hsignEnd : skipDollar (toBytes unclosedText) 3 = some 4 := by decide +kernel
  have hpos : (0 : Nat) < (toBytes unclosedText).length := by decide +kernel
  have hrewrite : (rewrite ["a"] unclosedText).toList = "$1 $é$ /* e'\\é".toList := by decide +kernel
  obtain ⟨j, hj, hadvances⟩ := hcomment 8 hslash hstar
  obtain rfl : 16 = j := Option.some.inj (hcommentEnd.symm.trans hj)
  obtain ⟨k, hk, hadvancesSign⟩ := hdollar 3 hsign
  obtain rfl : 4 = k := Option.some.inj (hsignEnd.symm.trans hk)
  obtain ⟨-, -, -, hturn⟩ := hturns {} .start
  exact ⟨hquote, by decide +kernel, by decide +kernel, hquotedEnd,
    hquotedEnd ▸ hquoted '\x27' List.mem_cons_self true 12 hquote, hslash, hstar, hcommentEnd, hadvances, hsign,
    hsignEnd, hadvancesSign, ⟨hpos, hturn hpos⟩, hscan.trans (congrArg some hrewrite)⟩

end InProcessSql.Sql
