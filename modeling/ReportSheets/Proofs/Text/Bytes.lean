import ReportSheets.Text.Encoding

namespace ReportSheets

theorem toList_loop_left (bytes : ByteArray) (left i : Nat) (front : List UInt8)
    (size : i + left = bytes.data.toList.length) :
    ByteArray.toList.loop bytes i front = front.reverse ++ bytes.data.toList.drop i := by
  induction left generalizing i front with
  | zero =>
    have outside : ¬ i < bytes.size := by simp at size; omega
    rw [ByteArray.toList.loop, if_neg outside, List.drop_eq_nil_of_le (by omega), List.append_nil]
  | succ left ih =>
    have inside : i < bytes.size := by simp at size; omega
    rw [ByteArray.toList.loop, if_pos inside, ih _ _ (by omega)]
    have bound : i < bytes.data.toList.length := by omega
    have front : bytes.data.toList.drop i = bytes.get! i :: bytes.data.toList.drop (i + 1) := by
      rw [List.drop_eq_getElem_cons bound]
      simp [ByteArray.get!, inside]
    rw [front]
    simp

theorem toList_utf8Encode (text : List Char) :
    text.utf8Encode.toList = text.flatMap String.utf8EncodeChar := by
  rw [ByteArray.toList, toList_loop_left _ text.utf8Encode.data.toList.length 0 [] (by simp)]
  simp [List.utf8Encode]

theorem fromUTF8?_encoded (text : List Char) :
    String.fromUTF8? ⟨(text.flatMap String.utf8EncodeChar).toArray⟩ = some (String.ofList text) := by
  have encoded : (⟨(text.flatMap String.utf8EncodeChar).toArray⟩ : ByteArray) = text.utf8Encode := by
    apply ByteArray.ext
    simp [List.utf8Encode]
  rw [encoded, String.fromUTF8?, dif_pos ByteArray.isValidUTF8_utf8Encode]
  rfl

theorem high_of_ofNat {n : Nat} (low : 128 ≤ n) (high : n < 256) :
    128 ≤ (UInt8.ofNat n).toNat := by
  rw [UInt8.toNat_ofNat', Nat.mod_eq_of_lt high]
  exact low

/-- A character is its own encoding, or its encoding has high bits alone. -/
theorem utf8EncodeChar_cases (c : Char) :
    c.toNat < 128 ∧ String.utf8EncodeChar c = [c.toNat.toUInt8] ∨
      128 ≤ c.toNat ∧ ∀ b ∈ String.utf8EncodeChar c, 128 ≤ b.toNat := by
  have value : c.val.toNat = c.toNat := rfl
  fun_cases String.utf8EncodeChar c <;>
    simp only [List.mem_cons, List.not_mem_nil, or_false, forall_eq_or_imp, forall_eq]
  case case1 => exact .inl ⟨by omega, rfl⟩
  case case2 =>
    exact .inr ⟨by omega, high_of_ofNat (by omega) (by omega), high_of_ofNat (by omega) (by omega)⟩
  case case3 =>
    exact .inr ⟨by omega, high_of_ofNat (by omega) (by omega), high_of_ofNat (by omega) (by omega),
      high_of_ofNat (by omega) (by omega)⟩
  case case4 =>
    exact .inr ⟨by omega, high_of_ofNat (by omega) (by omega), high_of_ofNat (by omega) (by omega),
      high_of_ofNat (by omega) (by omega), high_of_ofNat (by omega) (by omega)⟩

theorem utf8EncodeChar_ne_nil (c : Char) : String.utf8EncodeChar c ≠ [] := by
  fun_cases String.utf8EncodeChar c <;> exact List.cons_ne_nil _ _

namespace Text

/-- The bytes of a text, as the characters of their numbers. -/
def byteText (text : List Char) : List Char :=
  text.flatMap fun c => (String.utf8EncodeChar c).map fun byte => Char.ofNat byte.toNat

variable {text : List Char} {c : Char}

theorem byteText_append (front back : List Char) :
    byteText (front ++ back) = byteText front ++ byteText back := List.flatMap_append ..

theorem byteText_cons (c : Char) (rest : List Char) :
    byteText (c :: rest) = byteText [c] ++ byteText rest := byteText_append [c] rest

theorem toNat_ofByte (byte : UInt8) : (Char.ofNat byte.toNat).toNat = byte.toNat := by
  have small : byte.toNat < 256 := byte.toNat_lt
  have valid : byte.toNat.isValidChar := .inl (by omega)
  rw [Char.ofNat, dif_pos valid]
  rfl

theorem byteText_cases (c : Char) :
    c.toNat < 128 ∧ byteText [c] = [c] ∨ 128 ≤ c.toNat ∧ ∀ d ∈ byteText [c], 128 ≤ d.toNat := by
  rw [byteText, List.flatMap_singleton]
  rcases utf8EncodeChar_cases c with ⟨small, encoded⟩ | ⟨large, high⟩
  · refine .inl ⟨small, ?_⟩
    have byte : c.toNat.toUInt8.toNat = c.toNat := by
      rw [Nat.toUInt8, UInt8.toNat_ofNat', Nat.mod_eq_of_lt (by omega)]
    rw [encoded, List.map_singleton, byte, Char.ofNat_toNat]
  · refine .inr ⟨large, fun d member => ?_⟩
    obtain ⟨byte, among, rfl⟩ := List.mem_map.mp member
    rw [toNat_ofByte]
    exact high byte among

theorem byteText_ascii_cons (small : c.toNat < 128) (rest : List Char) :
    byteText (c :: rest) = c :: byteText rest := by
  rcases byteText_cases c with ⟨-, same⟩ | ⟨large, -⟩
  · rw [byteText_cons, same]
    rfl
  · exact absurd small (Nat.not_lt.mpr large)

theorem byteText_of_ascii (ascii : ∀ c ∈ text, c.toNat < 128) : byteText text = text := by
  induction text with
  | nil => rfl
  | cons c text ih =>
    have later := ih fun d member => ascii d (List.mem_cons_of_mem c member)
    rw [byteText_ascii_cons (ascii c List.mem_cons_self), later]

theorem mem_byteText_iff (small : c.toNat < 128) : c ∈ byteText text ↔ c ∈ text := by
  induction text with
  | nil => rfl
  | cons d text ih =>
    rw [byteText_cons, List.mem_append, ih, List.mem_cons]
    rcases byteText_cases d with ⟨-, same⟩ | ⟨large, high⟩
    · rw [same, List.mem_singleton]
    · have other : c ∉ byteText [d] := fun member => Nat.not_lt.mpr (high c member) small
      have apart : c ≠ d := by
        rintro rfl
        exact Nat.not_lt.mpr large small
      simp only [other, apart]

theorem map_toUInt8_byteText (text : List Char) :
    (byteText text).map (fun c => c.toNat.toUInt8) = text.flatMap String.utf8EncodeChar := by
  rw [byteText, List.map_flatMap]
  congr 1
  funext c
  rw [List.map_map]
  refine (List.map_congr_left fun byte _ => ?_).trans (List.map_id _)
  simp only [Function.comp_apply, toNat_ofByte, id]
  exact UInt8.toNat_inj.mp (by simp [Nat.toUInt8])

theorem decode?_byteText (text : List Char) :
    Encoding.utf8.decode? (byteText text) = some text := by
  rw [Encoding.decode?, Encoding.utf8?]
  split
  · rename_i ascii
    rw [List.all_eq_true] at ascii
    rw [byteText_of_ascii]
    intro c member
    rcases byteText_cases c with ⟨small, -⟩ | ⟨-, high⟩
    · exact small
    · obtain ⟨byte, first⟩ := List.exists_mem_of_ne_nil _ (utf8EncodeChar_ne_nil c)
      have own : Char.ofNat byte.toNat ∈ (String.utf8EncodeChar c).map fun byte =>
          Char.ofNat byte.toNat := List.mem_map.mpr ⟨byte, first, rfl⟩
      have low := of_decide_eq_true (ascii _ (List.mem_flatMap.mpr ⟨c, member, own⟩))
      rw [byteText, List.flatMap_singleton] at high
      exact absurd low (Nat.not_lt.mpr (high _ own))
  · have bytes : (text.flatMap String.utf8EncodeChar).toByteArray =
        ⟨(text.flatMap String.utf8EncodeChar).toArray⟩ := by
      apply ByteArray.ext
      simp
    rw [map_toUInt8_byteText, bytes, fromUTF8?_encoded, Option.map_some, String.toList_ofList]

end Text

end ReportSheets
