import ResumableSession.Text.Utf8

/-!
Texts as UTF-8 and back.
-/

namespace ResumableSession.Text.Utf8

theorem front?_encodeChar (c : Char) (rest : List UInt8) :
    front? (String.utf8EncodeChar c ++ rest) = some c := by
  have hlength : (String.utf8EncodeChar c).length ≤ 4 := by
    rw [String.length_utf8EncodeChar]
    exact c.utf8Size_le_four
  rw [front?, List.take_append, List.take_of_length_le hlength, List.toByteArray_append]
  exact ByteArray.utf8DecodeChar?_utf8EncodeChar_append

theorem splitValid_encode (chars : List Char) :
    splitValid (chars.flatMap String.utf8EncodeChar) = (chars, []) := by
  induction chars with
  | nil => simp [splitValid]
  | cons c chars ih =>
      have hfront := front?_encodeChar c (chars.flatMap String.utf8EncodeChar)
      rw [List.flatMap_cons]
      cases hbytes : String.utf8EncodeChar c with
      | nil => exact absurd hbytes String.utf8EncodeChar_ne_nil
      | cons byte bytes =>
          have hlength := String.length_utf8EncodeChar c
          rw [hbytes, List.length_cons] at hlength
          rw [hbytes] at hfront
          rw [List.cons_append, splitValid]
          rw [List.cons_append] at hfront
          simp only [hfront]
          rw [List.drop_left' (by omega), ih]

theorem decode_encode (text : String) : decode (encode text) = .ok text := by
  rw [decode, encode, splitValid_encode]
  exact congrArg Except.ok String.ofList_toList

theorem newline_mem_encodeChar {c : Char} (h : 10 ∈ String.utf8EncodeChar c) : c = '\n' := by
  obtain ⟨i, hi, hbyte⟩ := List.getElem_of_mem h
  have hfirst : ((String.utf8EncodeChar c)[i]).IsUTF8FirstByte := by
    rw [hbyte]
    decide
  obtain rfl := UInt8.isUTF8FirstByte_getElem_utf8EncodeChar.mp hfirst
  cases hbytes : String.utf8EncodeChar c with
  | nil => exact absurd hbytes String.utf8EncodeChar_ne_nil
  | cons byte bytes =>
      have hread := front?_encodeChar c []
      have hnewline := front?_encodeChar '\n' bytes
      simp only [hbytes, List.getElem_cons_zero] at hbyte
      rw [hbytes, List.append_nil, hbyte] at hread
      exact Option.some.inj (hread.symm.trans hnewline)

theorem newline_mem_encode {text : String} (h : 10 ∈ encode text) : '\n' ∈ text.toList := by
  obtain ⟨c, hc, hmem⟩ := List.mem_flatMap.mp h
  exact newline_mem_encodeChar hmem ▸ hc

end ResumableSession.Text.Utf8
