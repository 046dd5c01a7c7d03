import ResumableSession.Frame.Buffer
import ResumableSession.Proofs.Text.Utf8

/-!
A buffer that is given one whole line.
-/

namespace ResumableSession.Frame

namespace Buffer

theorem push_empty {fragment : List UInt8} (h : fragment ≠ []) :
    empty.push fragment = { bytes := fragment.toArray } := by
  have hempty : fragment.isEmpty = false := List.isEmpty_eq_false_iff.mpr h
  simp [push, hempty, compact, empty]

theorem findEnd?_line {line : List UInt8} (h : newline ∉ line) :
    findEnd? { bytes := (line ++ [newline]).toArray } = some line.length := by
  have hnone : line.findIdx? (· == newline) = none := by
    rw [List.findIdx?_eq_none_iff]
    intro byte hmem
    rw [beq_eq_false_iff_ne]
    rintro rfl
    exact h hmem
  simp [findEnd?, List.findIdx?_append, hnone]

theorem next_line {line : List UInt8} (h : newline ∉ line) :
    next { bytes := (line ++ [newline]).toArray } = (some (decodeLine line), empty) := by
  simp [next, findEnd?_line h, skipTo]

theorem next_empty : empty.next = (none, empty) := by
  simp [next, findEnd?, empty]

end Buffer

theorem encode_wrap (message : String) :
    Text.Utf8.encode (wrap message) = Text.Utf8.encode message ++ [newline] := by
  simp [Text.Utf8.encode, wrap]
  rfl

theorem newline_not_mem_encode {message : String} (h : '\n' ∉ message.toList) :
    newline ∉ Text.Utf8.encode message := fun hmem =>
  h (Text.Utf8.newline_mem_encode hmem)

theorem decodeLine_encode (message : String) :
    decodeLine (Text.Utf8.encode message) = .ok message := by
  rw [decodeLine, Text.Utf8.decode_encode]
  rfl

theorem next_wrap {message : String} (h : '\n' ∉ message.toList) :
    (Buffer.empty.push (Text.Utf8.encode (wrap message))).next = (some (.ok message), .empty) := by
  rw [encode_wrap, Buffer.push_empty (by simp), Buffer.next_line (newline_not_mem_encode h),
    decodeLine_encode]

end ResumableSession.Frame
