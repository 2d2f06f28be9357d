import Mathlib
import InProcessSql.Error
import InProcessSql.Proofs.TextFormat.Elements

/-!
# Array texts

An item of an array is null or a text, and `Renders` says in what ways it may stand in the array: quoted with any
characters escaped, or as it is if nothing in it could be misread. In whichever of these ways the items stand
between the braces, the array is read as the items, up to the first one whose text is no value of the type.

Conversely every array text that is read consists of pieces. All that are quoted are closed, but that the last one
may break off behind a backslash; it is then read as if the quote stood in the place of the backslash.
-/

namespace InProcessSql.TextFormat

open InProcessSql.Text

/-! ## Braces -/

/-- A text between braces. -/
def inBraces (body : List Char) : List Char := '\x7b' :: body ++ ['\x7d']

/-- The braces of an array are taken off. -/
theorem arrayBody?_inBraces (body : List Char) : arrayBody? (inBraces body) = some body := by
  rw [inBraces, List.cons_append, arrayBody?]
  simp

/-- Only a text in braces has a body. -/
theorem eq_inBraces_of_arrayBody? {cs body : List Char} (h : arrayBody? cs = some body) :
    cs = inBraces body := by
  cases cs with
  | nil => cases h
  | cons c cs =>
    rw [arrayBody?] at h
    split at h
    · next hbraces =>
      cases h
      rw [Bool.and_eq_true, beq_iff_eq, beq_iff_eq] at hbraces
      obtain ⟨rfl, hlast⟩ := hbraces
      rw [inBraces, List.cons_append, List.dropLast_append_getLast? _ hlast]
    · cases h

variable {type : ScalarType}

/-- An array is read from its body. -/
theorem readArray_inBraces {body : List Char} (hne : body ≠ []) :
    readArray type (String.ofList (inBraces body)) = (readElements type body).map .array := by
  rw [readArray, String.toList_ofList, arrayBody?_inBraces]
  split
  · next h => cases h
  · next h => exact absurd (Option.some.inj h) hne
  · next h => rw [Option.some.inj h]

/-- The elements of a body are read one by one. -/
theorem readElements_of_splitElements {body : List Char} {es : List Element}
    (h : splitElements body = (es, none)) : readElements type body = es.mapM (readElement type) := by
  rw [readElements, h]
  cases hmap : es.mapM (readElement type) <;> simp only [hmap] <;> rfl

/-- Bodies that are split alike are read alike. -/
theorem readElements_congr {body other : List Char} (h : splitElements body = splitElements other) :
    readElements type body = readElements type other := by
  rw [readElements, readElements, h]

/-- A malformed text has no elements, whatever the values of the elements before the place at fault. -/
theorem exists_readElements_eq_error {body : List Char} (h : (splitElements body).2.isSome = true)
    (type : ScalarType) : ∃ cause, readElements type body = .error cause := by
  obtain ⟨cause, hcause⟩ := Option.isSome_iff_exists.1 h
  rw [readElements]
  cases hmap : (splitElements body).1.mapM (readElement type) with
  | error e => exact ⟨e, by simp only [hmap]; rfl⟩
  | ok vs => exact ⟨cause, by simp only [hmap, hcause]; rfl⟩

/-- A body that is read has been split to its end. -/
theorem exists_splitElements_of_readElements {body : List Char} {vs : List Value}
    (h : readElements type body = .ok vs) : ∃ es, splitElements body = (es, none) := by
  cases herror : (splitElements body).2 with
  | none => exact ⟨_, Prod.ext rfl herror⟩
  | some e =>
    obtain ⟨cause, hcause⟩ := exists_readElements_eq_error (Option.isSome_of_eq_some herror) type
    rw [hcause] at h
    cases h

/-! ## Items -/

/-- The ways in which an item may stand in an array text: null in any letter case; a text in quotes, with quotes
and backslashes escaped; or a text as it is, if it is not empty, does not spell null and has no braces, commas,
quotes, backslashes or blanks. -/
inductive Renders : Option String → List Char → Prop
  | null {t : List Char} (h : eqIgnoreCase t "NULL".toList = true) : Renders none t
  | quoted {s : String} {t : List Char} (h : Escapes s.toList t) :
    Renders (some s) ('\x22' :: (t ++ ['\x22']))
  | unquoted {s : String} (hne : s ≠ "") (hnull : eqIgnoreCase s.toList "NULL".toList = false)
    (hplain : ∀ c ∈ s.toList, needsQuotes c = false) : Renders (some s) s.toList

/-- The value of an item. -/
def readItem (type : ScalarType) : Option String → Except ReadError Value
  | none => .ok .null
  | some s => readScalar type s

/-- The text of an item is not empty. -/
theorem Renders.ne_nil {item : Option String} {t : List Char} (h : Renders item t) : t ≠ [] := by
  cases h with
  | null h =>
    rintro rfl
    exact absurd h (by decide)
  | quoted => exact List.cons_ne_nil _ _
  | unquoted hne => exact fun hnil => hne (String.toList_eq_nil_iff.1 hnil)

/-- What renders an item is a text of an element with the value of the item. -/
theorem Renders.exists_spells {item : Option String} {t : List Char} (h : Renders item t)
    (type : ScalarType) : ∃ e, Spells e t ∧ readElement type e = readItem type item := by
  cases h with
  | null h =>
    refine ⟨_, spells_null h, ?_⟩
    rw [readElement, h]
    rfl
  | @quoted s t h =>
    refine ⟨_, .quoted h, ?_⟩
    rw [readElement, String.ofList_toList]
    rfl
  | unquoted _ hnull hplain =>
    refine ⟨_, spells_of_needsQuotes hplain, ?_⟩
    rw [readElement, hnull, String.ofList_toList]
    rfl

/-- Texts of items spell elements that are read as the items are. -/
theorem exists_spells_of_renders {items : List (Option String)} {ts : List (List Char)}
    (h : List.Forall₂ Renders items ts) (type : ScalarType) :
    ∃ es, List.Forall₂ Spells es ts ∧ es.mapM (readElement type) = items.mapM (readItem type) := by
  induction h with
  | nil => exact ⟨[], .nil, rfl⟩
  | cons hitem _ ih =>
    obtain ⟨es, hspells, hread⟩ := ih
    obtain ⟨e, he, hvalue⟩ := hitem.exists_spells type
    refine ⟨e :: es, .cons he hspells, ?_⟩
    rw [List.mapM_cons, List.mapM_cons, hvalue, hread]

/-- An array is read as the items that are rendered between its braces. -/
theorem readArray_of_renders {items : List (Option String)} {ts : List (List Char)}
    (h : List.Forall₂ Renders items ts) :
    readArray type (String.ofList (inBraces (joinElements ts))) = (items.mapM (readItem type)).map .array := by
  cases h with
  | nil => rfl
  | @cons item t items ts hitem hitems =>
    have hne : joinElements (t :: ts) ≠ [] := joinElements_ne_nil List.mem_cons_self hitem.ne_nil
    obtain ⟨es, hspells, hread⟩ := exists_spells_of_renders (.cons hitem hitems) type
    have hsplit := splitElements_of_spells hspells (List.cons_ne_nil _ _)
    rw [readArray_inBraces hne, readElements_of_splitElements hsplit, hread]

/-! ## By the OIDs of an array and of its elements -/

/-- A text is decoded by the OID of a scalar type as a text of that type. -/
theorem decode_of_scalarOfOid? {oid : Oid} (h : scalarOfOid? oid = some type) (text : String) :
    decode oid text = (readScalar type text).mapError fun cause => .decode oid (.text cause) := by
  simp only [decode, read, h]

/-- A text is decoded by the OID of the arrays over a scalar type as an array over that type. -/
theorem decode_of_elementOfOid? {oid : Oid} (hscalar : scalarOfOid? oid = none)
    (h : elementOfOid? oid = some type) (text : String) :
    decode oid text = (readArray type text).mapError fun cause => .decode oid (.text cause) := by
  simp only [decode, read, hscalar, h]

theorem scalarOfOid?_of_mem_catalog : ∀ entry ∈ catalog, scalarOfOid? entry.oid = some entry.base := by
  decide +kernel

/-- No OID is both that of a scalar type and that of arrays. -/
theorem scalarOfOid?_eq_none_of_arrayOid {entry : CatalogEntry} (hentry : entry ∈ catalog) {array : Oid}
    (h : entry.arrayOid = some array) : scalarOfOid? array = none := by
  have hall : (catalog.all fun e => e.arrayOid.all fun oid => (scalarOfOid? oid).isNone) = true := by
    decide +kernel
  have hnone := List.all_eq_true.1 hall entry hentry
  rw [h] at hnone
  simpa using hnone

/-- The OIDs of an array and of its elements lead to one scalar type. -/
theorem exists_type_of_elementOid? {array element : Oid} (h : elementOid? array = some element) :
    ∃ type, scalarOfOid? element = some type ∧ scalarOfOid? array = none ∧
      elementOfOid? array = some type := by
  rw [elementOid?, Option.map_eq_some_iff] at h
  obtain ⟨entry, hentry, rfl⟩ := h
  have hmem : entry ∈ catalog := List.mem_of_find?_eq_some hentry
  have harray : entry.arrayOid = some array := by simpa using List.find?_some hentry
  refine ⟨entry.base, scalarOfOid?_of_mem_catalog entry hmem, scalarOfOid?_eq_none_of_arrayOid hmem harray, ?_⟩
  rw [elementOfOid?, hentry, Option.map_some]

/-- The value of an item of an array, by the OID of the elements. -/
def decodeItem (element : Oid) : Option String → Except Error Value
  | none => .ok .null
  | some s => decode element s

/-- An item is decoded as it is read, with errors that name the OID of the elements. -/
theorem decodeItem_eq {element : Oid} (h : scalarOfOid? element = some type) (item : Option String) :
    decodeItem element item = (readItem type item).mapError fun cause => .decode element (.text cause) := by
  cases item with
  | none => rfl
  | some s => exact decode_of_scalarOfOid? h s

theorem decodeItem_eq_ok_iff {element : Oid} (h : scalarOfOid? element = some type) {item : Option String}
    {v : Value} : decodeItem element item = .ok v ↔ readItem type item = .ok v := by
  rw [decodeItem_eq h, mapError_eq_ok_iff]

/-- In whichever way its items are rendered, an array is decoded as the values of the items, in order. If the
texts of some items are no values, decoding fails as the first of them does, but by the OID of the array. -/
theorem decode_of_renders {array element : Oid} (h : elementOid? array = some element)
    {items : List (Option String)} {ts : List (List Char)} (hitems : List.Forall₂ Renders items ts) :
    (∃ vs, List.Forall₂ (fun item v => decodeItem element item = .ok v) items vs ∧
        decode array (String.ofList (inBraces (joinElements ts))) = .ok (.array vs)) ∨
      ∃ before s after cause, items = before ++ some s :: after ∧
        (∀ item ∈ before, ∃ v, decodeItem element item = .ok v) ∧
        decode element s = .error (.decode element cause) ∧
        decode array (String.ofList (inBraces (joinElements ts))) = .error (.decode array cause) := by
  obtain ⟨type, hscalar, hnone, harray⟩ := exists_type_of_elementOid? h
  -- The rendered text is read as its items, whichever spellings have been chosen.
  have hdecode := decode_of_elementOfOid? hnone harray (String.ofList (inBraces (joinElements ts)))
  rw [readArray_of_renders hitems] at hdecode
  obtain ⟨vs, hread⟩ | ⟨before, item, after, cause, hsplit, hbefore, hitem, hread⟩ :=
    exists_mapM_cases (readItem type) items
  · refine .inl ⟨vs, (mapM_eq_ok_iff.1 hread).imp fun _ _ hv => (decodeItem_eq_ok_iff hscalar).2 hv, ?_⟩
    rw [hdecode, hread]
    rfl
  · right
    cases item with
    | none => cases hitem
    | some s =>
      refine ⟨before, s, after, .text cause, hsplit, fun item hmem => ?_, ?_, ?_⟩
      · obtain ⟨v, hv⟩ := hbefore item hmem
        exact ⟨v, (decodeItem_eq_ok_iff hscalar).2 hv⟩
      · rw [decode_of_scalarOfOid? hscalar, show readScalar type s = .error cause from hitem]
        rfl
      · rw [hdecode, hread]
        rfl

/-- Texts and nulls in unlike spellings: null in letters of both cases, a text that spells null, quotes and
commas, an empty text and one without quotes. -/
theorem decode_of_renders_texts :
    let items : List (Option String) := [none, some "null", some "a,\"b", some "", some "x"]
    let ts : List String := ["nULl", "\"\\null\"", "\"a,\\\"b\"", "\"\"", "x"]
    elementOid? 1009 = some 25 ∧ List.Forall₂ Renders items (ts.map String.toList) ∧
      decode 1009 "\x7bnULl,\"\\null\",\"a,\\\"b\",\"\",x\x7d"
        = .ok (.array [.null, .text "null", .text "a,\"b", .text "", .text "x"]) := by
  intro items ts
  have hoid : elementOid? 1009 = some 25 := by decide
  have hword : Escapes ['n', 'u', 'l', 'l'] ['\\', 'n', 'u', 'l', 'l'] :=
    .escaped (escapes_flatMap_escapeElementChar ['u', 'l', 'l'])
  have hquote : Escapes ['a', ',', '\x22', 'b'] ['a', ',', '\\', '\x22', 'b'] :=
    escapes_flatMap_escapeElementChar ['a', ',', '\x22', 'b']
  have hplain : ∀ c ∈ ['x'], needsQuotes c = false := by simp [needsQuotes, isBlank]
  have hrenders : List.Forall₂ Renders items (ts.map String.toList) :=
    .cons (.null (by decide)) <| .cons (@Renders.quoted "null" _ hword) <|
      .cons (@Renders.quoted "a,\"b" _ hquote) <| .cons (@Renders.quoted "" _ .nil) <|
      .cons (@Renders.unquoted "x" (by decide) (by decide) hplain) .nil
  have htext : ∀ s, decode 25 s = .ok (.text s) := fun s =>
    decode_of_scalarOfOid? (show scalarOfOid? 25 = some .text by decide) s
  refine ⟨hoid, hrenders, ?_⟩
  obtain ⟨vs, hvs, hread⟩ | ⟨_, s, _, cause, _, _, hfails, _⟩ := decode_of_renders hoid hrenders
  · have hitems : items.mapM (decodeItem 25)
        = .ok [.null, .text "null", .text "a,\"b", .text "", .text "x"] := by
      simp only [items, List.mapM_cons, List.mapM_nil, decodeItem, htext]
      rfl
    rw [mapM_eq_ok_iff.2 hvs, Except.ok.injEq] at hitems
    rw [← hitems]
    exact hread
  · rw [htext] at hfails
    cases hfails

/-! ## Texts that break off -/

/-- An array text is read as what stands between its braces if its last piece opens with a quote. -/
theorem readArray_append_quote (init : List (List Char)) (t : List Char) :
    readArray type (String.ofList (inBraces (joinElements (init ++ ['\x22' :: t]))))
      = (readElements type (joinElements (init ++ ['\x22' :: t]))).map .array :=
  readArray_inBraces (joinElements_ne_nil (List.mem_append_right _ List.mem_cons_self) (List.cons_ne_nil _ _))

/-- An array text that is read consists of pieces, the last of which may break off. -/
theorem exists_pieces_of_readArray {text : String} {v : Value} (h : readArray type text = .ok v) :
    ∃ init last, text.toList = inBraces (joinElements (init ++ [last])) ∧ (∀ p ∈ init, IsPiece p) ∧
      (IsPiece last ∨ BreaksOff last) := by
  rw [readArray] at h
  split at h
  · cases h
  · next hbody => exact ⟨[], [], eq_inBraces_of_arrayBody? hbody, nofun, .inl (.plain nofun nofun)⟩
  · next body _ hbody =>
    obtain ⟨vs, hread, -⟩ := map_eq_ok_iff.1 h
    obtain ⟨es, hsplit⟩ := exists_splitElements_of_readElements hread
    obtain ⟨init, last, hjoin, hpieces⟩ := exists_pieces_of_splitElements hsplit
    exact ⟨init, last, hjoin ▸ eq_inBraces_of_arrayBody? hbody, hpieces⟩

/-- A last piece that is not closed is refused. -/
theorem exists_readArray_unclosed {init : List (List Char)} {s t : List Char} (hinit : ∀ p ∈ init, IsPiece p)
    (h : Escapes s t) (type : ScalarType) : ∃ cause,
      readArray type (String.ofList (inBraces (joinElements (init ++ ['\x22' :: t])))) = .error cause := by
  obtain ⟨f, herror, hsplit⟩ := exists_splitElements_append hinit
  have hmalformed : (splitElements (joinElements (init ++ ['\x22' :: t]))).2.isSome = true := by
    rw [hsplit]
    exact herror _ (by rw [splitElements_unclosed h]; rfl)
  obtain ⟨cause, hcause⟩ := exists_readElements_eq_error hmalformed type
  refine ⟨cause, ?_⟩
  rw [readArray_append_quote, hcause]
  rfl

/-- A last piece that breaks off behind a backslash is read as if it were closed there. -/
theorem readArray_backslash {init : List (List Char)} {s t : List Char} (hinit : ∀ p ∈ init, IsPiece p)
    (h : Escapes s t) :
    readArray type (String.ofList (inBraces (joinElements (init ++ ['\x22' :: (t ++ ['\\'])]))))
      = readArray type (String.ofList (inBraces (joinElements (init ++ ['\x22' :: (t ++ ['\x22'])])))) := by
  obtain ⟨f, -, hsplit⟩ := exists_splitElements_append hinit
  have hsame : splitElements (joinElements (init ++ ['\x22' :: (t ++ ['\\'])]))
      = splitElements (joinElements (init ++ ['\x22' :: (t ++ ['\x22'])])) := by
    rw [hsplit, hsplit, splitElements_backslash h]
  rw [readArray_append_quote, readArray_append_quote, readElements_congr hsame]

/-- An array text that is decoded consists of pieces with commas between them. All that are quoted are closed,
but that the last one may break off behind a backslash, which is then read as if the closing quote stood in its
place. A last piece that is not closed and breaks off anywhere else is refused. -/
theorem exists_pieces_of_decode {array element : Oid} (h : elementOid? array = some element) :
    (∀ text v, decode array text = .ok v → ∃ init last,
        text.toList = inBraces (joinElements (init ++ [last])) ∧ (∀ p ∈ init, IsPiece p) ∧
          (IsPiece last ∨ BreaksOff last)) ∧
      ∀ (init : List (List Char)) (s t : List Char), (∀ p ∈ init, IsPiece p) → Escapes s t →
        let textOf (last : List Char) := String.ofList (inBraces (joinElements (init ++ [last])))
        (∃ cause, decode array (textOf ('\x22' :: t)) = .error (.decode array cause)) ∧
          decode array (textOf ('\x22' :: (t ++ ['\\'])))
            = decode array (textOf ('\x22' :: (t ++ ['\x22']))) := by
  obtain ⟨type, -, hnone, harray⟩ := exists_type_of_elementOid? h
  have hdecode := decode_of_elementOfOid? hnone harray
  refine ⟨fun text v htext => ?_, fun init s t hinit ht => ⟨?_, ?_⟩⟩
  · rw [hdecode, mapError_eq_ok_iff] at htext
    exact exists_pieces_of_readArray htext
  · obtain ⟨cause, hcause⟩ := exists_readArray_unclosed hinit ht type
    refine ⟨.text cause, ?_⟩
    rw [hdecode, hcause]
    rfl
  · rw [hdecode, hdecode, readArray_backslash hinit ht]

/-- Of two elements the second one is closed, or breaks off behind its opening quote or behind a backslash. -/
theorem exists_pieces_of_decode_two :
    elementOid? 1009 = some 25 ∧ decode 1009 "\x7ba,\"b\"\x7d" = .ok (.array [.text "a", .text "b"]) ∧
      (∃ init last, "\x7ba,\"b\"\x7d".toList = inBraces (joinElements (init ++ [last])) ∧
        (∀ p ∈ init, IsPiece p) ∧ (IsPiece last ∨ BreaksOff last)) ∧
      (∀ p ∈ [['a']], IsPiece p) ∧ Escapes ['b'] ['b'] ∧
      (∃ cause, decode 1009 "\x7ba,\"b\x7d" = .error (.decode 1009 cause)) ∧
      decode 1009 "\x7ba,\"b\\\x7d" = decode 1009 "\x7ba,\"b\"\x7d" := by
  have hoid : elementOid? 1009 = some 25 := by decide
  have harray : elementOfOid? 1009 = some .text := by decide
  have hescapes : Escapes ['b'] ['b'] := .plain (by decide) (by decide) .nil
  have hfirst : Spells ⟨false, ['a']⟩ ['a'] := .plain (by decide) (by decide) (by decide)
  have hpiece : ∀ p ∈ [['a']], IsPiece p := by simpa using hfirst.isPiece
  have hsplit : splitElements ['a', ',', '\x22', 'b', '\x22'] = ([⟨false, ['a']⟩, ⟨true, ['b']⟩], none) :=
    splitElements_of_spells (.cons hfirst (.cons (.quoted hescapes) .nil)) (List.cons_ne_nil _ _)
  have hread : readArray .text "\x7ba,\"b\"\x7d" = .ok (.array [.text "a", .text "b"]) := by
    show readArray .text (String.ofList (inBraces ['a', ',', '\x22', 'b', '\x22'])) = _
    rw [readArray_inBraces (List.cons_ne_nil _ _), readElements_of_splitElements hsplit]
    rfl
  have hdecode : decode 1009 "\x7ba,\"b\"\x7d" = .ok (.array [.text "a", .text "b"]) := by
    rw [decode_of_elementOfOid? (by decide) harray, hread]
    rfl
  obtain ⟨hpieces, hbroken⟩ := exists_pieces_of_decode hoid
  obtain ⟨hunclosed, hbackslash⟩ := hbroken [['a']] ['b'] ['b'] hpiece hescapes
  exact ⟨hoid, hdecode, hpieces _ _ hdecode, hpiece, hescapes, hunclosed, hbackslash⟩

/-- A text whose closing brace stands behind a backslash within quotes that are never closed is decoded. -/
theorem decode_unclosed_array :
    elementOid? 1009 = some 25 ∧ BreaksOff ['\x22', 'a', '\\'] ∧
      "\x7b\"a\\\x7d".toList = inBraces ['\x22', 'a', '\\'] ∧
      decode 1009 "\x7b\"a\\\x7d" = .ok (.array [.text "a"]) := by
  have hescapes : Escapes ['a'] ['a'] := .plain (by decide) (by decide) .nil
  have hsplit : splitElements ['\x22', 'a', '\\'] = ([⟨true, ['a']⟩], none) :=
    splitElements_of_last (by rw [splitElement_cons_quote]; exact congrArg _ (splitQuoted_backslash hescapes))
  have hread : readArray .text "\x7b\"a\\\x7d" = .ok (.array [.text "a"]) := by
    show readArray .text (String.ofList (inBraces ['\x22', 'a', '\\'])) = _
    rw [readArray_inBraces (List.cons_ne_nil _ _), readElements_of_splitElements hsplit]
    rfl
  have harray : elementOfOid? 1009 = some .text := by decide
  refine ⟨by decide, .mk hescapes, by decide, ?_⟩
  rw [decode_of_elementOfOid? (by decide) harray, hread]
  rfl

end InProcessSql.TextFormat
