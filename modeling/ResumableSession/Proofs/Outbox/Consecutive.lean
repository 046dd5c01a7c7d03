import ResumableSession.Proofs.Outbox.Ascending

/-!
Lists whose numbers follow one another without a gap.

This is the shape of every outbox, and of what is under way on a connection.  It survives adding
the next number at the end, taking items from the front, and letting go of what is below a
threshold.
-/

namespace ResumableSession

variable {α : Type} [Sequenced α]

/-- The items are numbered from `first` on, and `stop` is the first number that is not used. -/
def Consecutive (first stop : Nat) : List α → Prop
  | [] => first = stop
  | item :: rest => seq item = first ∧ Consecutive (first + 1) stop rest

namespace Consecutive

variable {first middle stop : Nat} {item : α} {items others : List α}

theorem length_eq (h : Consecutive first stop items) : first + items.length = stop := by
  induction items generalizing first with
  | nil => exact h
  | cons item rest ih =>
      have := ih h.2
      rw [List.length_cons]
      omega

theorem append (hitems : Consecutive first middle items)
    (hothers : Consecutive middle stop others) :
    Consecutive first stop (items ++ others) := by
  induction items generalizing first with
  | nil =>
      obtain rfl : first = middle := hitems
      exact hothers
  | cons item rest ih => exact ⟨hitems.1, ih hitems.2⟩

theorem append_iff : Consecutive first stop (items ++ others) ↔
    Consecutive first (first + items.length) items ∧
      Consecutive (first + items.length) stop others := by
  induction items generalizing first with
  | nil => exact ⟨fun h => ⟨rfl, h⟩, And.right⟩
  | cons item rest ih =>
      have hlength : first + (item :: rest).length = first + 1 + rest.length := by
        rw [List.length_cons]
        omega
      rw [hlength]
      constructor
      · rintro ⟨hseq, hrest⟩
        exact ⟨⟨hseq, (ih.mp hrest).1⟩, (ih.mp hrest).2⟩
      · rintro ⟨⟨hseq, hrest⟩, hothers⟩
        exact ⟨hseq, ih.mpr ⟨hrest, hothers⟩⟩

theorem of_part (h : Consecutive first stop items) (hpart : others <:+: items) :
    ∃ earlier later, Consecutive earlier later others := by
  obtain ⟨before, after, rfl⟩ := hpart
  rw [List.append_assoc] at h
  exact ⟨_, _, (append_iff.mp (append_iff.mp h).2).1⟩

theorem push (h : Consecutive first stop items) (hseq : seq item = stop) :
    Consecutive first (stop + 1) (items ++ [item]) :=
  h.append ⟨hseq, rfl⟩

theorem dropBelow {o : Outbox α} {threshold : Nat} (h : Consecutive first stop o.entries)
    (hstop : threshold ≤ stop) :
    Consecutive (max first threshold) stop (o.dropBelow threshold).entries := by
  obtain ⟨items⟩ := o
  simp only [Outbox.dropBelow] at h ⊢
  induction items generalizing first with
  | nil =>
      obtain rfl : first = stop := h
      exact Nat.max_eq_left hstop
  | cons item rest ih =>
      obtain ⟨hseq, hrest⟩ := h
      rw [List.dropWhile_cons]
      by_cases hlt : first < threshold
      · rw [if_pos (by simpa [hseq] using hlt)]
        have := ih hrest
        rwa [Nat.max_eq_right (by omega)] at this ⊢
      · rw [if_neg (by simpa [hseq] using hlt), Nat.max_eq_left (by omega)]
        exact ⟨hseq, hrest⟩

theorem exists_dropBelow {o : Outbox α} (h : Consecutive first stop o.entries)
    (threshold : Nat) : ∃ later, Consecutive later stop (o.dropBelow threshold).entries := by
  obtain ⟨dropped, hdropped⟩ := List.dropWhile_suffix (l := o.entries)
    fun entry => decide (seq entry < threshold)
  rw [← hdropped] at h
  exact ⟨_, (append_iff.mp h).2⟩

theorem le_of_mem (h : Consecutive first stop items) (hmem : item ∈ items) : first ≤ seq item := by
  induction items generalizing first with
  | nil => contradiction
  | cons other rest ih =>
      rcases List.mem_cons.mp hmem with rfl | hmem
      · exact Nat.le_of_eq h.1.symm
      · exact Nat.le_of_succ_le (ih h.2 hmem)

theorem lt_of_mem (h : Consecutive first stop items) (hmem : item ∈ items) : seq item < stop := by
  induction items generalizing first with
  | nil => contradiction
  | cons other rest ih =>
      rcases List.mem_cons.mp hmem with rfl | hmem
      · have := h.1
        have := h.length_eq
        rw [List.length_cons] at this
        omega
      · exact ih h.2 hmem

theorem ascending {o : Outbox α} (h : Consecutive first stop o.entries) : o.Ascending := by
  obtain ⟨items⟩ := o
  simp only [Outbox.Ascending] at h ⊢
  induction items generalizing first with
  | nil => exact .nil
  | cons item rest ih =>
      refine .cons (fun other hmem => ?_) (ih h.2)
      have := h.1
      have := h.2.le_of_mem hmem
      omega

theorem dropBelow_eq_filter {o : Outbox α} (h : Consecutive first stop o.entries)
    (threshold : Nat) :
    (o.dropBelow threshold).entries = o.entries.filter fun item => threshold ≤ seq item :=
  h.ascending.dropBelow_eq_filter threshold

theorem exists_mem (h : Consecutive first stop items) {n : Nat} (hfirst : first ≤ n)
    (hstop : n < stop) : ∃ item ∈ items, seq item = n := by
  induction items generalizing first with
  | nil =>
      obtain rfl : first = stop := h
      omega
  | cons item rest ih =>
      rcases Nat.lt_or_eq_of_le hfirst with hlt | rfl
      · obtain ⟨found, hmem, hseq⟩ := ih h.2 hlt
        exact ⟨found, List.mem_cons_of_mem _ hmem, hseq⟩
      · exact ⟨item, List.mem_cons_self, h.1⟩

end Consecutive

theorem Outbox.mem_of_mem_dropBelow {o : Outbox α} {threshold : Nat} {entry : α}
    (h : entry ∈ (o.dropBelow threshold).entries) : entry ∈ o.entries :=
  (List.dropWhile_sublist _).mem h

end ResumableSession
