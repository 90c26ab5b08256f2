import DecodeSession.Probe.Arguments
import Mathlib.Algebra.Group.Nat.Defs
import Mathlib.Data.List.Basic

/-! How codes are spelled.

A code is shown byte by byte, each as the character of that number, and read from the
bytes of a text in UTF-8. A character takes one byte there below 128 and two from 128 to
255, so what is shown of a code is read again exactly if the code is made of ASCII, and a
text spells a code exactly if it takes four bytes (`fourcc_spelling`). -/
namespace DecodeSession

namespace Fourcc

/-! ### Codes and bytes -/

/-- Nothing is shifted out of a word. -/
theorem toNat_shiftLeft_byte (byte : UInt8) {places : UInt32} (h : places.toNat ≤ 24) :
    (byte.toUInt32 <<< places).toNat = byte.toNat <<< places.toNat := by
  have hfits : byte.toNat <<< places.toNat < 2 ^ 32 := by
    calc byte.toNat <<< places.toNat = byte.toNat * 2 ^ places.toNat := Nat.shiftLeft_eq _ _
      _ < 2 ^ 8 * 2 ^ places.toNat :=
        Nat.mul_lt_mul_of_pos_right byte.toNat_lt (Nat.two_pow_pos _)
      _ = 2 ^ (8 + places.toNat) := (Nat.pow_add _ _ _).symm
      _ ≤ 2 ^ 32 := Nat.pow_le_pow_right (by decide) (Nat.add_le_add_left h 8)
  have hplaces : places.toNat < 32 := by omega
  rw [UInt32.toNat_shiftLeft, UInt8.toNat_toUInt32, Nat.mod_eq_of_lt hplaces,
    Nat.mod_eq_of_lt hfits]

/-- Where nothing overlaps, putting together is adding. -/
theorem or_shiftLeft {low : Nat} (high : Nat) {places : Nat} (hlow : low < 2 ^ places) :
    low ||| high <<< places = low + high * 2 ^ places := by
  rw [Nat.or_comm, ← Nat.shiftLeft_add_eq_or_of_lt hlow, Nat.shiftLeft_eq, Nat.add_comm]

/-- The bytes of a code are its digits to base 256, the first the least. -/
theorem toNat_ofBytes (a b c d : UInt8) : (ofBytes a b c d).code.toNat =
    a.toNat + b.toNat * 2 ^ 8 + c.toNat * 2 ^ 16 + d.toNat * 2 ^ 24 := by
  have ha := a.toNat_lt
  have hb := b.toNat_lt
  have hc := c.toNat_lt
  show (a.toUInt32 ||| b.toUInt32 <<< 8 ||| c.toUInt32 <<< 16 ||| d.toUInt32 <<< 24).toNat = _
  rw [UInt32.toNat_or, UInt32.toNat_or, UInt32.toNat_or, UInt8.toNat_toUInt32,
    toNat_shiftLeft_byte b (by decide), toNat_shiftLeft_byte c (by decide),
    toNat_shiftLeft_byte d (by decide)]
  show a.toNat ||| b.toNat <<< 8 ||| c.toNat <<< 16 ||| d.toNat <<< 24 = _
  rw [or_shiftLeft b.toNat ha, or_shiftLeft c.toNat (by omega), or_shiftLeft d.toNat (by omega)]

/-- A byte that is shifted out of a code is one of its digits. -/
theorem toNat_byte (code : UInt32) {places : UInt32} (h : places.toNat < 32) :
    (code >>> places).toUInt8.toNat = code.toNat / 2 ^ places.toNat % 2 ^ 8 := by
  rw [UInt32.toNat_toUInt8, UInt32.toNat_shiftRight, Nat.mod_eq_of_lt h, Nat.shiftRight_eq_div_pow]

theorem toNat_bytes (f : Fourcc) : f.bytes.map UInt8.toNat =
    [f.code.toNat % 2 ^ 8, f.code.toNat / 2 ^ 8 % 2 ^ 8, f.code.toNat / 2 ^ 16 % 2 ^ 8,
      f.code.toNat / 2 ^ 24 % 2 ^ 8] := by
  have hfirst : f.code.toUInt8.toNat = f.code.toNat % 2 ^ 8 := UInt32.toNat_toUInt8 _
  simp only [bytes, List.map_cons, List.map_nil, hfirst]
  rw [toNat_byte _ (by decide), toNat_byte _ (by decide), toNat_byte _ (by decide)]
  rfl

@[simp] theorem bytes_ofBytes (a b c d : UInt8) : (ofBytes a b c d).bytes = [a, b, c, d] := by
  have ha := a.toNat_lt
  have hb := b.toNat_lt
  have hc := c.toNat_lt
  have hd := d.toNat_lt
  refine List.map_injective_iff.mpr (fun _ _ => UInt8.toNat_inj.mp) ?_
  rw [toNat_bytes, toNat_ofBytes]
  simp only [List.map_cons, List.map_nil, List.cons.injEq, and_true]
  omega

/-- No two codes have the same bytes. -/
theorem bytes_injective : Function.Injective bytes := by
  intro f g h
  have hdigits := congrArg (List.map UInt8.toNat) h
  simp only [toNat_bytes, List.cons.injEq, and_true] at hdigits
  have hcode : f.code.toNat = g.code.toNat := by
    have hf := f.code.toNat_lt
    have hg := g.code.toNat_lt
    omega
  cases f
  cases g
  exact congrArg mk (UInt32.toNat_inj.mp hcode)

/-- Any four bytes make a code. -/
theorem exists_bytes : {list : List UInt8} → list.length = 4 → ∃ f : Fourcc, f.bytes = list
  | [a, b, c, d], _ => ⟨ofBytes a b c d, bytes_ofBytes a b c d⟩

/-! ### Characters -/

/-- The character a byte is shown as. -/
def byteChar (byte : UInt8) : Char := Char.ofNat byte.toNat

theorem text_eq (f : Fourcc) : f.text = String.ofList (f.bytes.map byteChar) := rfl

theorem toNat_byteChar (byte : UInt8) : (byteChar byte).toNat = byte.toNat := by
  have hvalid : byte.toNat.isValidChar := .inl (Nat.lt_trans byte.toNat_lt (by decide))
  unfold byteChar Char.ofNat
  rw [dif_pos hvalid]
  rfl

theorem byteChar_injective : Function.Injective byteChar := by
  intro a b h
  rw [← UInt8.toNat_inj, ← toNat_byteChar a, ← toNat_byteChar b, h]

/-- No two codes are shown alike. -/
theorem text_injective : Function.Injective text := by
  intro f g h
  exact bytes_injective (List.map_injective_iff.mpr byteChar_injective (String.ofList_injective h))

/-! ### UTF-8 -/

/-- In UTF-8 a character takes one byte if its own is ASCII, and otherwise two. -/
theorem utf8Size_byteChar (byte : UInt8) :
    (byteChar byte).utf8Size = if byte < 0x80 then 1 else 2 := by
  have hval : (byteChar byte).val.toNat = byte.toNat := toNat_byteChar byte
  have hlt := byte.toNat_lt
  split
  · next hascii =>
    rw [UInt8.lt_iff_toNat_lt] at hascii
    rw [Char.utf8Size_eq_one_iff, UInt32.le_iff_toNat_le, hval]
    exact Nat.le_of_lt_succ hascii
  · next hhigh =>
    rw [UInt8.lt_iff_toNat_lt] at hhigh
    rw [Char.utf8Size_eq_two_iff, UInt32.lt_iff_toNat_lt, UInt32.le_iff_toNat_le, hval]
    exact ⟨Nat.lt_of_succ_le (Nat.le_of_not_lt hhigh), Nat.le_trans (Nat.le_of_lt hlt) (by decide)⟩

/-- ASCII is written as it is. -/
theorem utf8EncodeChar_byteChar {byte : UInt8} (h : byte < 0x80) :
    String.utf8EncodeChar (byteChar byte) = [byte] := by
  have hsize : (byteChar byte).utf8Size = 1 := (utf8Size_byteChar byte).trans (if_pos h)
  have hval : (byteChar byte).val.toUInt8 = byte := by
    rw [← UInt8.toNat_inj, UInt32.toNat_toUInt8]
    exact (congrArg (· % 2 ^ 8) (toNat_byteChar byte)).trans (Nat.mod_eq_of_lt byte.toNat_lt)
  rw [String.utf8EncodeChar_eq_singleton hsize, hval]

theorem toUTF8_ofList (chars : List Char) :
    (String.ofList chars).toUTF8.data.toList = chars.flatMap String.utf8EncodeChar := by
  rw [String.toUTF8_eq_toByteArray, String.toByteArray_ofList]
  exact List.toList_data_toByteArray

/-- Bytes shown as characters take a byte each, and another one for each that is no ASCII. -/
theorem length_utf8_bytes (bytes : List UInt8) :
    ((bytes.map byteChar).flatMap String.utf8EncodeChar).length =
      bytes.length + bytes.countP (0x80 ≤ ·) := by
  induction bytes with
  | nil => rfl
  | cons byte rest ih =>
    rw [List.map_cons, List.flatMap_cons, List.length_append, ih, String.length_utf8EncodeChar,
      utf8Size_byteChar, List.length_cons, List.countP_cons]
    by_cases h : byte < 0x80
    · have hcounted : ¬ decide (0x80 ≤ byte) = true := by simpa using h
      rw [if_pos h, if_neg hcounted]
      omega
    · have hcounted : decide (0x80 ≤ byte) = true := by simpa using h
      rw [if_neg h, if_pos hcounted]
      omega

theorem utf8ByteSize_text (f : Fourcc) :
    f.text.utf8ByteSize = 4 + f.bytes.countP (0x80 ≤ ·) := by
  show f.text.toUTF8.data.toList.length = _
  rw [text_eq, toUTF8_ofList]
  exact length_utf8_bytes f.bytes

/-- ASCII codes are shown as their bytes. -/
theorem toUTF8_text {f : Fourcc} (h : ∀ byte ∈ f.bytes, byte < 0x80) :
    f.text.toUTF8.data.toList = f.bytes := by
  calc f.text.toUTF8.data.toList
      = f.bytes.flatMap fun byte => String.utf8EncodeChar (byteChar byte) := by
        rw [text_eq, toUTF8_ofList, List.flatMap_map]
    _ = f.bytes.flatMap fun byte => [byte] :=
        List.flatMap_congr fun byte hbyte => utf8EncodeChar_byteChar (h byte hbyte)
    _ = f.bytes := List.flatMap_singleton' _

/-! ### Reading -/

/-- A text spells the code made of its bytes. -/
theorem ofText?_eq_some_iff {s : String} {f : Fourcc} :
    ofText? s = some f ↔ f.bytes = s.toUTF8.data.toList := by
  unfold ofText?
  split
  · next a b c d hbytes =>
    rw [hbytes, ← bytes_ofBytes a b c d, Option.some.injEq]
    exact ⟨fun h => h ▸ rfl, fun h => bytes_injective h.symm⟩
  · next hnot => exact iff_of_false nofun fun hbytes => hnot _ _ _ _ hbytes.symm

/-- A text that takes any other number of bytes than four spells no code. -/
theorem ofText?_eq_none {s : String} (h : s.utf8ByteSize ≠ 4) : ofText? s = none := by
  refine Option.eq_none_iff_forall_ne_some.mpr fun f hf => h ?_
  calc s.utf8ByteSize = s.toUTF8.data.toList.length := rfl
    _ = f.bytes.length := congrArg List.length (ofText?_eq_some_iff.mp hf).symm
    _ = 4 := rfl

end Fourcc

namespace Probe
open Fourcc

/-- A code is read from a text exactly if the text has its bytes in UTF-8. -/
theorem readFourcc_eq_ok_iff {s : String} {f : Fourcc} :
    readFourcc s = .ok f ↔ f.bytes = s.toUTF8.data.toList := by
  rw [← ofText?_eq_some_iff]
  unfold readFourcc
  cases ofText? s with
  | none => exact iff_of_false nofun nofun
  | some g =>
    exact ⟨fun h => congrArg some (Except.ok.inj h), fun h => congrArg Except.ok (Option.some.inj h)⟩

theorem readFourcc_of_size_ne {s : String} (h : s.utf8ByteSize ≠ 4) :
    readFourcc s = .error (.notFourcc s) := by
  unfold readFourcc
  rw [ofText?_eq_none h]

/-- What is shown of a code is read as that code if the code is ASCII, and not at all otherwise. -/
theorem readFourcc_text (f : Fourcc) : readFourcc f.text =
    if f.bytes.all (· < 0x80) then .ok f else .error (.notFourcc f.text) := by
  split
  · next hascii =>
    have hbytes : ∀ byte ∈ f.bytes, byte < 0x80 := by simpa using hascii
    exact readFourcc_eq_ok_iff.mpr (toUTF8_text hbytes).symm
  · next hhigh =>
    -- a byte that is no ASCII makes the text longer than four bytes
    refine readFourcc_of_size_ne fun hsize => hhigh ?_
    rw [utf8ByteSize_text] at hsize
    have hnone : f.bytes.countP (0x80 ≤ ·) = 0 := by omega
    simpa using List.countP_eq_zero.mp hnone

/-- Texts of four bytes spell a code, made of these bytes, and no others do. -/
theorem readFourcc_size (s : String) :
    if s.utf8ByteSize = 4 then ∃ f, readFourcc s = .ok f ∧ f.bytes = s.toUTF8.data.toList
    else readFourcc s = .error (.notFourcc s) := by
  split
  · next hsize =>
    obtain ⟨f, hf⟩ := exists_bytes hsize
    exact ⟨f, readFourcc_eq_ok_iff.mpr hf, hf⟩
  · next hsize => exact readFourcc_of_size_ne hsize

/-- What is shown of a code is read as that code exactly if it is made of ASCII, and not at all
otherwise. No two codes are shown alike. A text is read exactly if it takes four bytes in UTF-8,
and these are the bytes of the code. -/
theorem fourcc_spelling :
    (∀ f : Fourcc, readFourcc f.text =
      if f.bytes.all (· < 0x80) then .ok f else .error (.notFourcc f.text)) ∧
    Function.Injective Fourcc.text ∧
    ∀ s : String,
      if s.utf8ByteSize = 4 then ∃ f, readFourcc s = .ok f ∧ f.bytes = s.toUTF8.data.toList
      else readFourcc s = .error (.notFourcc s) :=
  ⟨readFourcc_text, text_injective, readFourcc_size⟩

/-- The last byte is a space with its highest bit set, and shown as a character of two bytes. -/
example : readFourcc (Fourcc.text ⟨0xA0363159⟩) = .error (.notFourcc "Y16\u00a0") := rfl

end Probe

end DecodeSession
