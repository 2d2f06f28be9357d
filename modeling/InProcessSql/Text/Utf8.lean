/-!
# Texts from bytes

Native texts are bytes that end at the first zero byte and should be UTF-8. `ofBytes` reads them as they
are if they are UTF-8, which is what `ofBytes_toBytes` says. Otherwise each longest piece that could start a
character, and each byte that could not, becomes one replacement character.
-/

namespace InProcessSql.Text

/-- How a character of several bytes starts. -/
structure Lead where
  following : Nat
  /-- The least byte that may come next. -/
  lo : UInt8
  hi : UInt8
  deriving DecidableEq, Repr

/-- What may follow a byte that starts a character of several bytes. -/
def lead? (b : UInt8) : Option Lead :=
  if 0xC2 ≤ b && b ≤ 0xDF then some ⟨1, 0x80, 0xBF⟩
  else if b == 0xE0 then some ⟨2, 0xA0, 0xBF⟩
  else if b == 0xED then some ⟨2, 0x80, 0x9F⟩
  else if 0xE1 ≤ b && b ≤ 0xEF then some ⟨2, 0x80, 0xBF⟩
  else if b == 0xF0 then some ⟨3, 0x90, 0xBF⟩
  else if b == 0xF4 then some ⟨3, 0x80, 0x8F⟩
  else if 0xF1 ≤ b && b ≤ 0xF3 then some ⟨3, 0x80, 0xBF⟩
  else none

/-- The bytes after a lead byte that continue its character. -/
def continuation (lead : Lead) : List UInt8 → List UInt8
  | [] => []
  | b :: bs =>
    if lead.lo ≤ b && b ≤ lead.hi then
      b :: (bs.take (lead.following - 1)).takeWhile fun b => 0x80 ≤ b && b ≤ 0xBF
    else []

/-- The character of a lead byte and all the bytes that follow it. -/
def assemble (lead : UInt8) (following : List UInt8) : Char :=
  let top := lead.toNat % Nat.pow 2 (6 - following.length)
  Char.ofNat (following.foldl (fun acc b => acc * 64 + b.toNat % 64) top)

def replacement : Char := '\uFFFD'

/-- The characters of bytes that need not be UTF-8. -/
def decodeLossy (bytes : List UInt8) : List Char :=
  match bytes with
  | [] => []
  | b :: bs =>
    if b < 0x80 then Char.ofNat b.toNat :: decodeLossy bs
    else
      match lead? b with
      | none => replacement :: decodeLossy bs
      | some lead =>
        let following := continuation lead bs
        let c := if following.length == lead.following then assemble b following else replacement
        c :: decodeLossy (bs.drop following.length)
termination_by bytes.length
decreasing_by
  all_goals simp only [List.length_cons, List.length_drop]; omega

def ofBytes (bytes : List UInt8) : String :=
  match String.fromUTF8? ⟨bytes.toArray⟩ with
  | some s => s
  | none => String.ofList (decodeLossy bytes)

def toBytes (s : String) : List UInt8 := s.toUTF8.data.toList

/-- The text of a native text, which ends at the first zero byte. -/
def ofNative (bytes : List UInt8) : String := ofBytes (bytes.takeWhile (· != 0))

/-- The bytes of a text are those of its characters. -/
theorem toBytes_eq_flatMap (s : String) : toBytes s = s.toList.flatMap String.utf8EncodeChar := by
  rw [toBytes, String.toUTF8_eq_toByteArray]
  conv =>
    lhs
    rw [← String.ofList_toList (s := s)]
  exact List.toList_data_toByteArray

/-- The bytes of a text are read as that text. -/
theorem ofBytes_toBytes (s : String) : ofBytes (toBytes s) = s := by
  have h : (⟨(toBytes s).toArray⟩ : ByteArray) = s.toByteArray := by
    simp [toBytes]
  have hv : s.toByteArray.IsValidUTF8 := s.isValidUTF8
  unfold ofBytes
  rw [h]
  simp [String.fromUTF8?, hv, String.fromUTF8]

end InProcessSql.Text
