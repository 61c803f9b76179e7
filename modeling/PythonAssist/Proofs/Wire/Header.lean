import Mathlib.Data.List.Basic
import PythonAssist.Proofs.Text.Splitting
import PythonAssist.TextEngine.Serve

set_option autoImplicit false

namespace PythonAssist

namespace Utf8

theorem toList_loop (bytes : ByteArray) (index : Nat) (seen : List UInt8) :
    ByteArray.toList.loop bytes index seen = seen.reverse ++ bytes.data.toList.drop index := by
  fun_induction ByteArray.toList.loop bytes index seen with
  | case1 index seen inside ih =>
    have listed : index < bytes.data.toList.length := by simpa using inside
    rw [ih, List.drop_eq_getElem_cons listed]
    simp [ByteArray.get!, inside]
  | case2 index seen outside =>
    rw [List.drop_eq_nil_of_le (by simpa using Nat.le_of_not_lt outside)]
    simp

theorem encode_eq (text : String) : encode text = text.toByteArray.data.toList := by
  simp [encode, ByteArray.toList, toList_loop]

theorem decode?_encode (text : String) : decode? (encode text) = some text := by
  have same : (⟨(encode text).toArray⟩ : ByteArray) = text.toByteArray := by rw [encode_eq]
  rw [decode?, same, String.fromUTF8?, dif_pos text.isValidUTF8]
  rfl

theorem length_encode (text : String) : (encode text).length = text.utf8ByteSize := by
  rw [encode_eq]
  rfl

theorem utf8Encode_of_plain {text : List Char} (plain : ∀ c ∈ text, c.toNat < 128) :
    text.utf8Encode.data.toList = text.map Char.toUInt8 := by
  induction text with
  | nil => rfl
  | cons c rest ih =>
    have bound : c.toNat < 128 := plain c List.mem_cons_self
    have small : c.utf8Size = 1 := by
      rw [Char.utf8Size_eq_one_iff, UInt32.le_iff_toNat_le]
      exact Nat.le_of_lt_succ bound
    rw [List.utf8Encode_cons, List.utf8Encode_singleton, String.utf8EncodeChar_eq_singleton small]
    simp [ih fun c member => plain c (List.mem_cons_of_mem _ member)]

theorem encode_of_plain {text : String} (plain : ∀ c ∈ text.toList, c.toNat < 128) :
    encode text = text.toList.map Char.toUInt8 := by
  rw [encode_eq, ← utf8Encode_of_plain plain, String.utf8Encode_toList]

theorem return_not_mem_encode {text : String}
    (plain : ∀ c ∈ text.toList, 13 < c.toNat ∧ c.toNat < 128) : 13 ∉ encode text := by
  rw [encode_of_plain fun c member => (plain c member).2]
  intro member
  obtain ⟨c, inText, same⟩ := List.mem_map.mp member
  have bounds := plain c inText
  have value : c.toNat % 256 = 13 :=
    (UInt32.toNat_toUInt8 c.val).symm.trans (congrArg UInt8.toNat same)
  omega

end Utf8

theorem toList_toString (n : Nat) : (toString n).toList = Nat.toDigits 10 n := Nat.toList_repr

theorem isDigit_of_mem_toString {n : Nat} {c : Char} (member : c ∈ (toString n).toList) :
    c.isDigit = true :=
  Nat.isDigit_of_mem_toDigits (by decide) (by decide) (toList_toString n ▸ member)

theorem toNat_of_isDigit {c : Char} (digit : c.isDigit = true) : 48 ≤ c.toNat ∧ c.toNat ≤ 57 := by
  simpa [Char.isDigit, UInt32.le_iff_toNat_le] using digit

theorem natOfDigits_toString (n : Nat) : natOfDigits (toString n).toList = n := by
  have digits := Nat.ofDigitChars_ten_toDigits (n := n)
  rw [Nat.ofDigitChars_eq_foldl, ← toList_toString] at digits
  simpa [natOfDigits, Nat.mul_comm] using digits

theorem unsigned?_toString {limit n : Nat} (below : n < limit) :
    unsigned? limit (toString n).toList = some n := by
  have filled : (toString n).toList ≠ [] := toList_toString n ▸ Nat.toDigits_ne_nil
  exact unsigned?_eq_some.mpr ⟨_, .inl rfl, filled, fun _ => isDigit_of_mem_toString,
    natOfDigits_toString n, below⟩

theorem trimChars_toString (n : Nat) : trimChars (toString n).toList = (toString n).toList := by
  apply trimChars_of_solid
  intro c member
  have := toNat_of_isDigit (isDigit_of_mem_toString member)
  simp [isWhiteSpace]
  omega

theorem trimChars_number (n : Nat) :
    trimChars (' ' :: (toString n).toList) = (toString n).toList := by
  rw [trimChars_space, trimChars_toString]

namespace Frame

theorem toList_header (n : Nat) :
    (header n).toList = "Content-Length".toList ++ ':' :: ' ' :: (toString n).toList := by
  have name : "Content-Length: ".toList = "Content-Length".toList ++ [':', ' '] := by decide
  have whole : (header n).toList = "Content-Length: ".toList ++ (toString n).toList :=
    String.toList_append
  rw [whole, name, List.append_assoc]
  rfl

theorem mem_header {n : Nat} {c : Char} (member : c ∈ (header n).toList) :
    13 < c.toNat ∧ c.toNat < 128 := by
  have fixed : ("Content-Length".toList ++ [':', ' ']).all
      (fun c => 13 < c.toNat ∧ c.toNat < 128) = true := by decide
  rw [toList_header, List.append_cons, List.append_cons, List.append_assoc "Content-Length".toList,
    List.mem_append] at member
  cases member with
  | inl inName => simpa using List.all_eq_true.mp fixed c inName
  | inr inNumber =>
    have := toNat_of_isDigit (isDigit_of_mem_toString inNumber)
    omega

theorem splitOn_header (n : Nat) : splitOn '\n' (header n).toList = [(header n).toList] :=
  splitOn_of_not_mem fun member => absurd (mem_header member).1 (by decide)

theorem splitFirst_header (n : Nat) :
    splitFirst ':' (header n).toList =
      some ("Content-Length".toList, ' ' :: (toString n).toList) := by
  rw [toList_header]
  exact splitFirst_append (by decide) _

theorem lengthOf_header {n : Nat} (below : n < lengthLimit) :
    lengthOf (splitOn '\n' (header n).toList) none = .ok (some n) := by
  have named : isLengthName "Content-Length".toList = true := by decide
  simp only [splitOn_header, lengthOf, splitFirst_header, named, if_true, trimChars_number,
    unsigned?_toString below]

end Frame

theorem TextEngine.lengthOf_header {n : Nat} (below : n < Frame.lengthLimit) :
    TextEngine.lengthOf (splitOn '\n' (Frame.header n).toList) none = some n := by
  have named : "content-length:".toList.isPrefixOf (lower (Frame.header n).toList) = true := by
    rw [Frame.toList_header, lower, List.map_append, List.map_cons]
    rfl
  simp only [Frame.splitOn_header, lengthOf, named, if_true, Frame.splitFirst_header,
    Option.bind_some, trimChars_number, unsigned?_toString below]

end PythonAssist
