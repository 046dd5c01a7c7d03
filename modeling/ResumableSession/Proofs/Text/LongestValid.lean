import Mathlib.Data.Nat.Find
import ResumableSession.Proofs.Text.Utf8

/-!
What a reading of bytes as UTF-8 says about them.

`decode` is compared with the library's own notion of valid bytes.  It accepts the valid lists of
bytes, with the text that they write, and of any other list it names the length of the longest
valid part in front.
-/

namespace ResumableSession.Text.Utf8

variable {bytes rest : List UInt8} {chars : List Char}

def Valid (bytes : List UInt8) : Prop :=
  bytes.toByteArray.IsValidUTF8

instance (bytes : List UInt8) : Decidable (Valid bytes) :=
  inferInstanceAs (Decidable bytes.toByteArray.IsValidUTF8)

def longestValid (bytes : List UInt8) : Nat :=
  Nat.findGreatest (fun k => Valid (bytes.take k)) bytes.length

theorem valid_iff :
    Valid bytes ↔ ∃ chars : List Char, bytes = chars.flatMap String.utf8EncodeChar := by
  constructor
  · rintro ⟨chars, hchars⟩
    exact ⟨chars, List.toByteArray_inj.mp hchars⟩
  · rintro ⟨chars, rfl⟩
    exact ⟨chars, rfl⟩

/-! ## The character in front -/

theorem front?_eq_some {c : Char} :
    front? bytes = some c ↔ ∃ rest, bytes = String.utf8EncodeChar c ++ rest := by
  constructor
  · intro h
    obtain ⟨beyond, hbeyond⟩ := ByteArray.exists_of_utf8DecodeChar?_eq_some h
    have htake : bytes.take 4 = String.utf8EncodeChar c ++ beyond.data.toList := by
      simpa using congrArg (fun array : ByteArray => array.data.toList) hbeyond
    refine ⟨beyond.data.toList ++ bytes.drop 4, ?_⟩
    rw [← List.append_assoc, ← htake, List.take_append_drop]
  · rintro ⟨rest, rfl⟩
    exact front?_encodeChar c rest

theorem front?_nil : front? [] = none := by
  cases h : front? [] with
  | none => rfl
  | some c =>
      obtain ⟨rest, hrest⟩ := front?_eq_some.mp h
      exact absurd (List.append_eq_nil_iff.mp hrest.symm).1 String.utf8EncodeChar_ne_nil

theorem drop_encodeChar (c : Char) (rest : List UInt8) :
    (String.utf8EncodeChar c ++ rest).tail.drop (c.utf8Size - 1) = rest := by
  have hlength := String.length_utf8EncodeChar c
  have hpos := c.utf8Size_pos
  rw [← List.drop_one, List.drop_drop, List.drop_left' (by omega)]

theorem splitValid_cons {c : Char} :
    splitValid (String.utf8EncodeChar c ++ rest) =
      (c :: (splitValid rest).1, (splitValid rest).2) := by
  have hfront := front?_encodeChar c rest
  have hdrop := drop_encodeChar c rest
  cases hbytes : String.utf8EncodeChar c ++ rest with
  | nil =>
      rw [List.append_eq_nil_iff] at hbytes
      exact absurd hbytes.1 String.utf8EncodeChar_ne_nil
  | cons byte others =>
      rw [hbytes] at hfront hdrop
      rw [List.tail_cons] at hdrop
      rw [splitValid]
      simp only [hfront, hdrop]

/-! ## The longest valid part -/

theorem splitValid_split (bytes : List UInt8) :
    bytes = (splitValid bytes).1.flatMap String.utf8EncodeChar ++ (splitValid bytes).2 ∧
      front? (splitValid bytes).2 = none := by
  induction bytes using splitValid.induct with
  | case1 => exact ⟨by simp [splitValid], by simp [splitValid, front?_nil]⟩
  | case2 byte rest hfront =>
      have hsplit : splitValid (byte :: rest) = ([], byte :: rest) := by
        rw [splitValid]
        simp only [hfront]
      rw [hsplit]
      exact ⟨rfl, hfront⟩
  | case3 byte rest c hfront chars beyond hrest ih =>
      obtain ⟨others, hothers⟩ := front?_eq_some.mp hfront
      have hdrop := drop_encodeChar c others
      rw [← hothers, List.tail_cons] at hdrop
      rw [hdrop] at ih
      rw [hothers, splitValid_cons, List.flatMap_cons, List.append_assoc, ← ih.1]
      exact ⟨rfl, ih.2⟩

theorem length_le_of_append (h : bytes = chars.flatMap String.utf8EncodeChar ++ rest) :
    (splitValid bytes).2.length ≤ rest.length := by
  induction chars generalizing bytes with
  | nil =>
      obtain rfl : bytes = rest := h
      have hlength := congrArg List.length (splitValid_split bytes).1
      rw [List.length_append] at hlength
      omega
  | cons c chars ih =>
      rw [List.flatMap_cons, List.append_assoc] at h
      rw [h, splitValid_cons]
      exact ih rfl

theorem longestValid_eq (bytes : List UInt8) :
    longestValid bytes = bytes.length - (splitValid bytes).2.length := by
  have hsplit := (splitValid_split bytes).1
  have hlength := congrArg List.length hsplit
  rw [List.length_append] at hlength
  rw [longestValid, Nat.findGreatest_eq_iff]
  refine ⟨Nat.sub_le _ _, fun _ => ?_, fun k hlt hle hvalid => ?_⟩
  · have hfront : ((splitValid bytes).1.flatMap String.utf8EncodeChar).length =
        bytes.length - (splitValid bytes).2.length := by
      omega
    have htake := congrArg (List.take (bytes.length - (splitValid bytes).2.length)) hsplit
    rw [List.take_left' hfront] at htake
    exact valid_iff.mpr ⟨_, htake⟩
  · obtain ⟨chars, hchars⟩ := valid_iff.mp hvalid
    have hreach : bytes = chars.flatMap String.utf8EncodeChar ++ bytes.drop k := by
      rw [← hchars, List.take_append_drop]
    have := length_le_of_append hreach
    rw [List.length_drop] at this
    omega

/-! ## Decoding -/

theorem decode_eq_ok {text : String} : decode bytes = .ok text ↔ encode text = bytes := by
  constructor
  · intro h
    have hsplit := (splitValid_split bytes).1
    rw [decode] at h
    split at h
    · next chars hchars =>
        obtain rfl := Except.ok.inj h
        rw [hchars, List.append_nil] at hsplit
        rw [encode, String.toList_ofList]
        exact hsplit.symm
    · contradiction
  · rintro rfl
    exact decode_encode text

theorem decode_of_not_valid (h : ¬ Valid bytes) : decode bytes = .error (longestValid bytes) := by
  rw [decode]
  split
  · next chars hchars =>
      have hsplit := (splitValid_split bytes).1
      rw [hchars, List.append_nil] at hsplit
      exact absurd (valid_iff.mpr ⟨chars, hsplit⟩) h
  · next hbeyond =>
      rw [longestValid_eq, hbeyond]

theorem encode_eq (text : String) : encode text = text.toUTF8.data.toList := by
  rw [String.toUTF8, ← String.utf8Encode_toList]
  simp [encode, List.utf8Encode]

end ResumableSession.Text.Utf8
