import Mathlib
import InProcessSql.Text.Utf8

/-!
# Texts as bytes

An ASCII character is one byte, and all bytes of other characters are beyond ASCII. So a test of bytes that tells
nothing beyond ASCII apart can stand for a test of characters (`Reflects`), and ASCII can be looked for at any index,
also at one inside a character: `RunsInto.meets` says what may be found there. `StandsAt` says that an index is one
between characters, by the characters that are still to come.
-/

namespace InProcessSql.Text

/-! ## Bytes of characters -/

/-- The bytes of characters. -/
def bytesOf (cs : List Char) : List UInt8 := cs.flatMap String.utf8EncodeChar

@[simp] theorem bytesOf_nil : bytesOf [] = [] := rfl

@[simp] theorem bytesOf_cons (c : Char) (cs : List Char) :
    bytesOf (c :: cs) = String.utf8EncodeChar c ++ bytesOf cs := List.flatMap_cons

@[simp] theorem bytesOf_append (cs ds : List Char) : bytesOf (cs ++ ds) = bytesOf cs ++ bytesOf ds :=
  List.flatMap_append

/-- The bytes of a text are those of its characters. -/
theorem toBytes_eq_bytesOf (s : String) : toBytes s = bytesOf s.toList := toBytes_eq_flatMap s

/-- An ASCII character is its own byte. -/
theorem utf8EncodeChar_of_lt {c : Char} (h : c.toNat < 128) : String.utf8EncodeChar c = [c.toUInt8] := by
  have hle : c.val.toNat ≤ 0x7f := Nat.le_of_lt_succ h
  simp only [String.utf8EncodeChar, if_pos hle]
  rfl

/-- No byte of any other character is one of ASCII. -/
theorem le_of_mem_utf8EncodeChar {c : Char} (h : 128 ≤ c.toNat) {b : UInt8} (hb : b ∈ String.utf8EncodeChar c) :
    0x80 ≤ b := by
  have hbeyond : ∀ n, n % 256 = n → 128 ≤ n → 0x80 ≤ UInt8.ofNat n := by
    intro n hn hle
    rw [UInt8.le_iff_toNat_le, UInt8.toNat_ofNat', hn]
    exact hle
  have hlt : ¬c.val.toNat ≤ 0x7f := Nat.not_le_of_lt h
  simp only [String.utf8EncodeChar, if_neg hlt] at hb
  split_ifs at hb <;> simp only [List.mem_cons, List.not_mem_nil, or_false] at hb
  · rcases hb with rfl | rfl <;> exact hbeyond _ (by omega) (by omega)
  · rcases hb with rfl | rfl | rfl <;> exact hbeyond _ (by omega) (by omega)
  · rcases hb with rfl | rfl | rfl | rfl <;> exact hbeyond _ (by omega) (by omega)

/-- Behind its first byte, a character has bytes beyond ASCII only. -/
theorem exists_utf8EncodeChar_eq (c : Char) :
    ∃ b bs, String.utf8EncodeChar c = b :: bs ∧ ∀ b' ∈ bs, 0x80 ≤ b' := by
  rcases Nat.lt_or_ge c.toNat 128 with hc | hc
  · exact ⟨_, [], utf8EncodeChar_of_lt hc, nofun⟩
  · obtain ⟨b, bs, hbytes⟩ := List.exists_cons_of_ne_nil (String.utf8EncodeChar_ne_nil (c := c))
    exact ⟨b, bs, hbytes, fun b' hb' => le_of_mem_utf8EncodeChar hc (hbytes ▸ List.mem_cons_of_mem b hb')⟩

/-- Each byte belongs to one of the characters. -/
theorem exists_of_mem_bytesOf {cs : List Char} {b : UInt8} (h : b ∈ bytesOf cs) :
    ∃ c ∈ cs, b ∈ String.utf8EncodeChar c := List.mem_flatMap.1 h

/-- What the bytes of characters begin with is what the characters begin with. -/
theorem startsWith_of_bytesOf {cs ds : List Char} (h : bytesOf ds <+: bytesOf cs) : ds <+: cs := by
  induction ds generalizing cs with
  | nil => exact List.nil_prefix
  | cons d ds ih =>
    obtain ⟨more, hmore⟩ := h
    rw [bytesOf_cons, List.append_assoc] at hmore
    cases cs with
    | nil => exact absurd (List.append_eq_nil_iff.1 hmore).1 String.utf8EncodeChar_ne_nil
    | cons c cs =>
      have hdecode : ∀ (c : Char) (bs : List UInt8),
          (String.utf8EncodeChar c ++ bs).toByteArray.utf8DecodeChar? 0 = some c := by
        intro c bs
        rw [List.toByteArray_append]
        exact ByteArray.utf8DecodeChar?_utf8EncodeChar_append
      obtain rfl : d = c := by
        have hd := hdecode d (bytesOf ds ++ more)
        rw [hmore, bytesOf_cons, hdecode] at hd
        exact (Option.some.inj hd).symm
      rw [bytesOf_cons] at hmore
      exact List.cons_prefix_cons.2 ⟨rfl, ih ⟨more, List.append_cancel_left hmore⟩⟩

/-! ## Tests of bytes -/

/-- The bytes of a character pass a test if and only if the character passes another. -/
def Reflects (q : UInt8 → Bool) (p : Char → Bool) : Prop := ∀ c, ∀ b ∈ String.utf8EncodeChar c, q b = p c

/-- What is said of all ASCII characters can be tried out. -/
theorem forall_ascii {P : Char → Prop} (h : ∀ n < 128, P (Char.ofNat n)) {c : Char} (hc : c.toNat < 128) : P c := by
  rw [← Char.ofNat_toNat c]
  exact h _ hc

/-- Tests that agree on ASCII and tell nothing beyond it apart agree. -/
theorem reflects_of_ascii {q : UInt8 → Bool} {p : Char → Bool} (beyond : Bool)
    (hascii : ∀ n < 128, q (Char.ofNat n).toUInt8 = p (Char.ofNat n)) (hq : ∀ b, 0x80 ≤ b → q b = beyond)
    (hp : ∀ c : Char, 128 ≤ c.toNat → p c = beyond) : Reflects q p := by
  intro c b hb
  rcases Nat.lt_or_ge c.toNat 128 with hc | hc
  · rw [utf8EncodeChar_of_lt hc, List.mem_singleton] at hb
    rw [hb]
    exact forall_ascii (P := fun c => q c.toUInt8 = p c) hascii hc
  · rw [hq b (le_of_mem_utf8EncodeChar hc hb), hp c hc]

theorem toNat_toUInt8 {c : Char} (h : c.toNat < 128) : c.toUInt8.toNat = c.toNat :=
  (UInt32.toNat_toUInt8 c.val).trans (Nat.mod_eq_of_lt (Nat.lt_trans h (by decide)))

/-- The byte of an ASCII character is one of ASCII. -/
theorem toUInt8_lt {c : Char} (h : c.toNat < 128) : c.toUInt8 < 0x80 := by
  rw [UInt8.lt_iff_toNat_lt, toNat_toUInt8 h]
  exact h

/-- The byte of an ASCII character is a byte of no other character. -/
theorem reflects_eq {a : Char} (ha : a.toNat < 128) : Reflects (· == a.toUInt8) (· == a) := by
  intro c b hb
  rw [Bool.eq_iff_iff, beq_iff_eq, beq_iff_eq]
  rcases Nat.lt_or_ge c.toNat 128 with hc | hc
  · rw [utf8EncodeChar_of_lt hc, List.mem_singleton] at hb
    rw [hb, ← UInt8.toNat_inj, toNat_toUInt8 hc, toNat_toUInt8 ha, Char.toNat_inj]
  · constructor
    · rintro rfl
      exact absurd (toUInt8_lt ha) (UInt8.not_lt.2 (le_of_mem_utf8EncodeChar hc hb))
    · rintro rfl
      omega

/-- Tests of bytes that reflect tests of characters may be combined. -/
theorem Reflects.or {q q' : UInt8 → Bool} {p p' : Char → Bool} (h : Reflects q p) (h' : Reflects q' p') :
    Reflects (fun b => q b || q' b) (fun c => p c || p' c) := by
  intro c b hb
  simp only [h c b hb, h' c b hb]

variable {q : UInt8 → Bool} {p : Char → Bool}

/-- A stretch of bytes that pass a test is that of the characters that pass it. -/
theorem takeWhile_bytesOf (h : Reflects q p) (cs : List Char) :
    (bytesOf cs).takeWhile q = bytesOf (cs.takeWhile p) := by
  induction cs with
  | nil => rfl
  | cons c cs ih =>
    rw [bytesOf_cons]
    cases hc : p c with
    | true =>
      rw [List.takeWhile_append_of_pos fun b hb => (h c b hb).trans hc, ih, List.takeWhile_cons_of_pos hc, bytesOf_cons]
    | false =>
      obtain ⟨b, bs, hbytes⟩ := List.exists_cons_of_ne_nil (String.utf8EncodeChar_ne_nil (c := c))
      have hb : q b = false := (h c b (by rw [hbytes]; exact List.mem_cons_self)).trans hc
      rw [hbytes, List.cons_append, List.takeWhile_cons_of_neg (by rw [hb]; exact Bool.false_ne_true),
        List.takeWhile_cons_of_neg (by rw [hc]; exact Bool.false_ne_true), bytesOf_nil]

/-- The first byte passes a test if the first character does. -/
theorem any_head?_bytesOf (h : Reflects q p) (cs : List Char) : (bytesOf cs).head?.any q = cs.head?.any p := by
  cases cs with
  | nil => rfl
  | cons c cs =>
    obtain ⟨b, bs, hbytes⟩ := List.exists_cons_of_ne_nil (String.utf8EncodeChar_ne_nil (c := c))
    rw [bytesOf_cons, hbytes, List.cons_append, List.head?_cons, List.head?_cons, Option.any_some, Option.any_some]
    exact h c b (by rw [hbytes]; exact List.mem_cons_self)

/-- The last byte passes a test if the last character does. -/
theorem any_getLast?_bytesOf (h : Reflects q p) (cs : List Char) :
    (bytesOf cs).getLast?.any q = cs.getLast?.any p := by
  rcases List.eq_nil_or_concat cs with rfl | ⟨cs, c, rfl⟩
  · rfl
  · have hne : String.utf8EncodeChar c ≠ [] := String.utf8EncodeChar_ne_nil
    rw [List.concat_eq_append, bytesOf_append, bytesOf_cons, bytesOf_nil, List.append_nil,
      List.getLast?_append_of_ne_nil _ hne, List.getLast?_eq_some_getLast hne, List.getLast?_concat, Option.any_some,
      Option.any_some]
    exact h c _ (List.getLast_mem hne)

/-! ## Indices -/

/-- From an index on, characters stand up to the end. -/
structure StandsAt (bytes : List UInt8) (i : Nat) (cs : List Char) : Prop where
  le_length : i ≤ bytes.length
  drop_eq : bytes.drop i = bytesOf cs

namespace StandsAt

variable {bytes : List UInt8} {i : Nat} {cs : List Char}

/-- From an index at a character on there are as many bytes as the characters behind it have. -/
theorem length_eq (h : StandsAt bytes i cs) : i + (bytesOf cs).length = bytes.length := by
  rw [← h.drop_eq, List.length_drop]
  exact Nat.add_sub_cancel' h.le_length

/-- Where the same characters stand is the same index. -/
theorem index_eq {j : Nat} (h : StandsAt bytes i cs) (h' : StandsAt bytes j cs) : i = j := by
  have := h.length_eq
  have := h'.length_eq
  omega

theorem end_of_text (bytes : List UInt8) : StandsAt bytes bytes.length [] :=
  ⟨le_rfl, List.drop_length⟩

/-- No characters stand behind the end of the bytes. -/
theorem eq_nil (h : StandsAt bytes i cs) (hi : ¬i < bytes.length) : cs = [] := by
  have hlength := h.length_eq
  cases cs with
  | nil => rfl
  | cons c cs =>
    have hpos := List.length_pos_iff.2 (String.utf8EncodeChar_ne_nil (c := c))
    rw [bytesOf_cons, List.length_append] at hlength
    omega

/-- Behind a part of the characters stands the rest. -/
theorem behind (text : List Char) (h : StandsAt bytes i (text ++ cs)) :
    StandsAt bytes (i + (bytesOf text).length) cs := by
  have hlength := h.length_eq
  rw [bytesOf_append, List.length_append] at hlength
  refine ⟨by omega, ?_⟩
  rw [← List.drop_drop, h.drop_eq, bytesOf_append, List.drop_left]

/-- Between two indices stands what stands from the one but not from the other. -/
theorem extract_eq {j : Nat} {text : List Char} (h : StandsAt bytes i (text ++ cs)) (h' : StandsAt bytes j cs) :
    i ≤ j ∧ bytes.extract i j = bytesOf text := by
  obtain rfl := (h.behind text).index_eq h'
  refine ⟨Nat.le_add_right _ _, ?_⟩
  rw [List.extract_eq_take_drop, h.drop_eq, Nat.add_sub_cancel_left, bytesOf_append, List.take_left]

/-- Behind an ASCII character the next one starts a byte later. -/
theorem tail {c : Char} (h : StandsAt bytes i (c :: cs)) (hc : c.toNat < 128) : StandsAt bytes (i + 1) cs := by
  have hbehind := behind [c] h
  rwa [bytesOf_cons, utf8EncodeChar_of_lt hc] at hbehind

/-- A byte at a character passes a test if the character does. -/
theorem any_getElem? {q : UInt8 → Bool} {p : Char → Bool} (h : StandsAt bytes i cs) (hqp : Reflects q p) :
    bytes[i]?.any q = cs.head?.any p := by
  rw [← List.head?_drop, h.drop_eq, any_head?_bytesOf hqp]

/-- A byte at a character is that of an ASCII character if the character is the one. -/
theorem getElem?_eq_some_iff {a : Char} (h : StandsAt bytes i cs) (ha : a.toNat < 128) :
    bytes[i]? = some a.toUInt8 ↔ cs.head? = some a := by
  have hany : ∀ {α : Type} [BEq α] [LawfulBEq α] (o : Option α) (a : α), o.any (· == a) = true ↔ o = some a := by
    intro α _ _ o a
    cases o <;> simp
  rw [← hany, ← hany, h.any_getElem? (reflects_eq ha)]

end StandsAt

/-- Behind the bytes of some characters stand the characters that follow them. -/
theorem standsAt_bytesOf (before cs : List Char) : StandsAt (bytesOf (before ++ cs)) (bytesOf before).length cs := by
  rw [bytesOf_append]
  exact ⟨by rw [List.length_append]; exact Nat.le_add_right _ _, List.drop_left⟩

/-- From an index on, characters stand up to the end, behind what may be the last bytes of another. -/
def RunsInto (bytes : List UInt8) (i : Nat) (cs : List Char) : Prop :=
  ∃ rest, (∀ b ∈ rest, 0x80 ≤ b) ∧ bytes.drop i = rest ++ bytesOf cs

/-- What an index of a text meets: a byte inside a character, or the first byte of a character. -/
inductive Meets (bytes : List UInt8) (i : Nat) (b : UInt8) : List Char → Prop where
  | inside {cs : List Char} (hb : 0x80 ≤ b) (hnext : RunsInto bytes (i + 1) cs) : Meets bytes i b cs
  | first {c : Char} {cs : List Char} (hb : b ∈ String.utf8EncodeChar c) (hhere : StandsAt bytes i (c :: cs)) :
    Meets bytes i b (c :: cs)

section Meets

variable {bytes : List UInt8} {i : Nat} {cs : List Char}

theorem StandsAt.runsInto (h : StandsAt bytes i cs) : RunsInto bytes i cs := ⟨[], nofun, h.drop_eq⟩

/-- A byte at a character belongs to it. -/
theorem StandsAt.getElem_mem {c : Char} (h : StandsAt bytes i (c :: cs)) (hi : i < bytes.length) :
    bytes[i] ∈ String.utf8EncodeChar c := by
  obtain ⟨b, bs, hbytes, -⟩ := exists_utf8EncodeChar_eq c
  have hdrop := (List.drop_eq_getElem_cons hi).symm.trans h.drop_eq
  rw [bytesOf_cons, hbytes, List.cons_append] at hdrop
  rw [hbytes, (List.cons.inj hdrop).1]
  exact List.mem_cons_self

/-- Behind the first byte of a character stand its other bytes, and then the characters behind it. -/
theorem StandsAt.runsInto_succ {c : Char} (h : StandsAt bytes i (c :: cs)) : RunsInto bytes (i + 1) cs := by
  obtain ⟨b, bs, hbytes, hbs⟩ := exists_utf8EncodeChar_eq c
  refine ⟨bs, hbs, ?_⟩
  rw [← List.tail_drop, h.drop_eq, bytesOf_cons, hbytes, List.cons_append, List.tail_cons]

namespace RunsInto

theorem eq_nil (h : RunsInto bytes i cs) (hi : ¬i < bytes.length) : cs = [] := by
  obtain ⟨rest, -, hdrop⟩ := h
  rw [List.drop_of_length_le (Nat.le_of_not_lt hi)] at hdrop
  cases cs with
  | nil => rfl
  | cons c cs =>
    have hnil := (List.append_eq_nil_iff.1 hdrop.symm).2
    exact absurd (List.append_eq_nil_iff.1 hnil).1 String.utf8EncodeChar_ne_nil

/-- What stands behind all characters stands behind every later index. -/
theorem succ (h : RunsInto bytes i []) : RunsInto bytes (i + 1) [] := by
  obtain ⟨rest, hrest, hdrop⟩ := h
  refine ⟨rest.tail, fun b hb => hrest b (List.mem_of_mem_tail hb), ?_⟩
  rw [← List.tail_drop, hdrop, bytesOf_nil, List.append_nil, List.append_nil]

/-- A byte that runs into characters is met before them or as the first of them. -/
theorem meets (h : RunsInto bytes i cs) (hi : i < bytes.length) : Meets bytes i bytes[i] cs := by
  obtain ⟨rest, hrest, hdrop⟩ := h
  rw [List.drop_eq_getElem_cons hi] at hdrop
  cases rest with
  | cons b rest =>
    obtain ⟨hb, hdrop⟩ := List.cons.inj hdrop
    rw [hb]
    exact .inside (hrest b List.mem_cons_self) ⟨rest, fun b hb => hrest b (List.mem_cons_of_mem _ hb), hdrop⟩
  | nil =>
    cases cs with
    | nil => cases hdrop
    | cons c cs =>
      have hhere : StandsAt bytes i (c :: cs) := ⟨Nat.le_of_lt hi, (List.drop_eq_getElem_cons hi).trans hdrop⟩
      exact .first (hhere.getElem_mem hi) hhere

end RunsInto

end Meets

/-- From any index of a text, characters are run into. -/
theorem exists_runsInto (all : List Char) (i : Nat) : ∃ cs, RunsInto (bytesOf all) i cs := by
  induction i with
  | zero => exact ⟨all, [], nofun, rfl⟩
  | succ i ih =>
    obtain ⟨cs, h⟩ := ih
    by_cases hi : i < (bytesOf all).length
    · cases h.meets hi with
      | inside _ hnext => exact ⟨_, hnext⟩
      | first _ hhere => exact ⟨_, hhere.runsInto_succ⟩
    · exact ⟨[], [], nofun, List.drop_of_length_le (by omega)⟩

/-- Where an ASCII byte is met, its character stands. -/
theorem Meets.exists_standsAt {bytes : List UInt8} {i : Nat} {a : Char} {cs : List Char} (ha : a.toNat < 128)
    (h : Meets bytes i a.toUInt8 cs) : ∃ rest, cs = a :: rest ∧ StandsAt bytes i (a :: rest) := by
  cases h with
  | inside hb _ => exact absurd (toUInt8_lt ha) (UInt8.not_lt.2 hb)
  | @first c cs hb hhere =>
    have hc : (a.toUInt8 == a.toUInt8) = (c == a) := reflects_eq ha c _ hb
    rw [beq_self_eq_true] at hc
    cases eq_of_beq hc.symm
    exact ⟨_, rfl, hhere⟩

/-- Where the byte of an ASCII character is, the character stands. -/
theorem exists_standsAt_of_getElem? {all : List Char} {i : Nat} {a : Char} (ha : a.toNat < 128)
    (h : (bytesOf all)[i]? = some a.toUInt8) : ∃ cs, StandsAt (bytesOf all) i (a :: cs) := by
  obtain ⟨hi, hbyte⟩ := List.getElem?_eq_some_iff.1 h
  obtain ⟨cs, hruns⟩ := exists_runsInto all i
  obtain ⟨rest, -, hstands⟩ := (hbyte ▸ hruns.meets hi).exists_standsAt ha
  exact ⟨rest, hstands⟩

end InProcessSql.Text
