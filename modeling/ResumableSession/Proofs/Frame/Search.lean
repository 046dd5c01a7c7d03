import ResumableSession.Proofs.Frame.Queue

/-!
A buffer and the queue of its unread bytes.

A buffer keeps bytes that were handed out for a while, and it remembers how far it has searched.
`Sound` says what these positions stand for.  Every operation keeps it, and answers as the queue
of the unread bytes does.
-/

namespace ResumableSession.Frame

namespace Buffer

variable {b : Buffer} {stop : Nat}

/-- The positions are in their order, and no newline is unread before the search goes on. -/
structure Sound (b : Buffer) : Prop where
  head_le : b.head ≤ b.scanFrom
  scanFrom_le : b.scanFrom ≤ b.bytes.size
  searched : newline ∉ b.residual.take (b.scanFrom - b.head)

theorem toList_extract_size (bytes : Array UInt8) (start : Nat) :
    (bytes.extract start bytes.size).toList = bytes.toList.drop start := by
  rw [Array.toList_extract, List.extract_eq_take_drop, List.take_of_length_le (by simp)]

theorem residual_eq (b : Buffer) : b.residual = b.bytes.toList.drop b.head :=
  toList_extract_size b.bytes b.head

theorem length_residual (b : Buffer) : b.residual.length = b.length := by
  simp [residual_eq, length]

theorem isEmpty_residual (b : Buffer) : b.residual.isEmpty = b.isEmpty := by
  rw [isEmpty, ← length_residual]
  cases b.residual <;> rfl

theorem residual_ofResidual (residual : List UInt8) :
    (ofResidual residual).residual = residual := by
  simp [residual_eq, ofResidual]

theorem Sound.ofResidual (residual : List UInt8) : Sound (.ofResidual residual) where
  head_le := Nat.le_refl 0
  scanFrom_le := Nat.zero_le _
  searched := by simp [Buffer.ofResidual]

/-! ## Adding bytes -/

theorem compact_eq (b : Buffer) :
    b.compact = b ∨
      b.compact =
        { bytes := b.bytes.extract b.head b.bytes.size, head := 0
          scanFrom := b.scanFrom - b.head } := by
  unfold compact
  split
  · exact .inl rfl
  · exact .inr rfl

theorem residual_compact (b : Buffer) : b.compact.residual = b.residual := by
  rcases compact_eq b with hcompact | hcompact
  · rw [hcompact]
  · rw [hcompact, residual_eq, List.drop_zero]
    rfl

theorem Sound.compact (h : Sound b) : Sound b.compact := by
  have hscan := h.scanFrom_le
  have hsearched := h.searched
  rw [← residual_compact] at hsearched
  rcases compact_eq b with hcompact | hcompact
  · rw [hcompact]
    exact h
  · rw [hcompact] at hsearched ⊢
    refine ⟨Nat.zero_le _, ?_, hsearched⟩
    simp only [Array.size_extract]
    omega

theorem push_eq {fragment : List UInt8} (h : fragment ≠ []) :
    b.push fragment = { b.compact with bytes := b.compact.bytes ++ fragment } := by
  rw [push, List.isEmpty_eq_false_iff.mpr h]
  rfl

theorem residual_push (h : Sound b) (fragment : List UInt8) :
    (b.push fragment).residual = b.residual ++ fragment := by
  by_cases hempty : fragment = []
  · rw [hempty, List.append_nil]
    rfl
  · have hhead : b.compact.head ≤ b.compact.bytes.toList.length :=
      Nat.le_trans h.compact.head_le h.compact.scanFrom_le
    rw [push_eq hempty, ← residual_compact b, residual_eq, residual_eq, Array.toList_appendList,
      List.drop_append_of_le_length hhead]

theorem Sound.push (h : Sound b) (fragment : List UInt8) : Sound (b.push fragment) := by
  by_cases hempty : fragment = []
  · rw [hempty]
    exact h
  · have hresidual := residual_push h fragment
    have hlength : b.compact.scanFrom - b.compact.head ≤ b.residual.length := by
      rw [← residual_compact b, length_residual, length]
      exact Nat.sub_le_sub_right h.compact.scanFrom_le _
    have htake : (b.residual ++ fragment).take (b.compact.scanFrom - b.compact.head) =
        b.residual.take (b.compact.scanFrom - b.compact.head) :=
      List.take_append_of_le_length hlength
    have hsearched := h.compact.searched
    rw [residual_compact, ← htake, ← hresidual] at hsearched
    rw [push_eq hempty] at hsearched ⊢
    refine ⟨h.compact.head_le, ?_, hsearched⟩
    refine Nat.le_trans h.compact.scanFrom_le ?_
    rw [← Array.length_toList, ← Array.length_toList, Array.toList_appendList, List.length_append]
    exact Nat.le_add_right _ _

/-! ## Taking messages -/

theorem findEnd?_eq (h : Sound b) : b.findEnd? = (b.residual.idxOf? newline).map (b.head + ·) := by
  -- The search does not have to start over: there is no newline in what was searched.
  have hhead := h.head_le
  have hscan := h.scanFrom_le
  have hsplit : b.residual =
      b.residual.take (b.scanFrom - b.head) ++ b.bytes.toList.drop b.scanFrom := by
    have hdrop : b.residual.drop (b.scanFrom - b.head) = b.bytes.toList.drop b.scanFrom := by
      rw [residual_eq, List.drop_drop, Nat.add_sub_cancel' hhead]
    rw [← hdrop, List.take_append_drop]
  have hlength : (b.residual.take (b.scanFrom - b.head)).length = b.scanFrom - b.head := by
    rw [List.length_take, length_residual, length]
    omega
  have hnone : (b.residual.take (b.scanFrom - b.head)).findIdx? (· == newline) = none := by
    rw [List.findIdx?_eq_none_iff]
    intro byte hmem
    rw [beq_eq_false_iff_ne]
    rintro rfl
    exact h.searched hmem
  have hfresh : b.findEnd? =
      ((b.bytes.toList.drop b.scanFrom).findIdx? (· == newline)).map (b.scanFrom + ·) := by
    rw [findEnd?, ← toList_extract_size, ← List.findIdx?_toArray]
  rw [hfresh, List.idxOf?, hsplit, List.findIdx?_append, hnone, Option.none_or, Option.map_map,
    hlength]
  congr 1
  funext offset
  simp only [Function.comp_apply]
  omega

theorem residual_skipTo (b : Buffer) (stop : Nat) :
    (b.skipTo stop).residual = b.bytes.toList.drop (stop + 1) := by
  unfold skipTo
  split
  · next hend =>
      rw [List.drop_of_length_le (by simp; omega)]
      rfl
  · simp [residual_eq]

theorem Sound.skipTo (hstop : stop < b.bytes.size) : Sound (b.skipTo stop) := by
  unfold Buffer.skipTo
  split
  · exact .ofResidual []
  · exact ⟨Nat.le_refl _, hstop, by simp⟩

theorem next_eq (h : Sound b) :
    (b.next.1, b.next.2.residual) = Queue.next b.residual ∧ Sound b.next.2 := by
  have hhead := h.head_le
  have hscan := h.scanFrom_le
  have hfind := findEnd?_eq h
  unfold next Queue.next
  cases hindex : b.residual.idxOf? newline with
  | none =>
      simp only [hfind, hindex, Option.map_none]
      refine ⟨rfl, Nat.le_trans hhead hscan, Nat.le_refl _, ?_⟩
      have hresidual : newline ∉ b.residual := List.idxOf?_eq_none_iff.mp hindex
      exact fun hmem => hresidual (List.mem_of_mem_take hmem)
  | some offset =>
      have hoffset : b.head + offset < b.bytes.size :=
        (findEnd?_lt_size (by rw [hfind, hindex]; rfl)).2
      simp only [hfind, hindex, Option.map_some]
      refine ⟨?_, .skipTo hoffset⟩
      have hline : (b.bytes.extract b.head (b.head + offset)).toList = b.residual.take offset := by
        simp [residual_eq]
      have hrest : b.bytes.toList.drop (b.head + offset + 1) = b.residual.drop (offset + 1) := by
        rw [residual_eq, List.drop_drop, Nat.add_assoc]
      rw [residual_skipTo, hline, hrest, decodeLine_eq_read]

theorem drain_none {rest : Buffer} (h : b.next = (none, rest)) : b.drain = ([], rest) := by
  rw [drain]
  split
  · next hnext =>
      obtain ⟨-, rfl⟩ := Prod.mk.inj (hnext.symm.trans h)
      rfl
  · next hnext =>
      simp [h] at hnext

theorem drain_some {rest : Buffer} {message : Except Error String}
    (h : b.next = (some message, rest)) : b.drain = (message :: rest.drain.1, rest.drain.2) := by
  rw [drain]
  split
  · next hnext =>
      simp [h] at hnext
  · next hnext =>
      obtain ⟨hmessage, rfl⟩ := Prod.mk.inj (hnext.symm.trans h)
      obtain rfl := Option.some.inj hmessage
      rfl

theorem drain_eq (h : Sound b) :
    (b.drain.1, b.drain.2.residual) = Queue.drain b.residual ∧ Sound b.drain.2 := by
  induction b using Buffer.drain.induct with
  | case1 b rest hnext =>
      obtain ⟨hqueue, hsound⟩ := next_eq h
      rw [hnext] at hqueue hsound
      rw [drain_none hnext, Queue.drain_none hqueue.symm]
      exact ⟨rfl, hsound⟩
  | case2 b message rest hnext messages beyond hdrain ih =>
      obtain ⟨hqueue, hsound⟩ := next_eq h
      rw [hnext] at hqueue hsound
      obtain ⟨hrest, hlast⟩ := ih hsound
      rw [drain_some hnext, Queue.drain_some hqueue.symm, ← hrest]
      exact ⟨rfl, hlast⟩

end Buffer

end ResumableSession.Frame
