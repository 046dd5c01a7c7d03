import ResumableSession.Outbox

/-!
Outboxes whose numbers grow.

Letting go stops at the first entry that is not below the threshold, and listing starts there.
That this leaves, and lists, just the entries that are not below it is due to their order, which
is kept by everything that is done to an outbox.
-/

namespace ResumableSession.Outbox

variable {α : Type} [Sequenced α] {o : Outbox α} {entry : α}

/-- Every number is above the numbers in front of it. -/
def Ascending (o : Outbox α) : Prop :=
  o.entries.Pairwise fun earlier later => seq earlier < seq later

/-- An entry may follow the last one if its number is above the last number. -/
def Admits (o : Outbox α) (entry : α) : Prop :=
  ∀ last ∈ o.entries.getLast?, seq last < seq entry

/-- What comes of adding entries that may be added and of letting go of entries, in any order. -/
inductive Built : Outbox α → Prop where
  | empty : Built .empty
  | push {o : Outbox α} {entry : α} (built : Built o) (admitted : o.Admits entry) :
      Built (o.push entry)
  | dropBelow {o : Outbox α} (built : Built o) (threshold : Nat) : Built (o.dropBelow threshold)

/-! ## The order -/

theorem Ascending.lt_of_admits (h : o.Ascending) (hentry : o.Admits entry) {other : α}
    (hmem : other ∈ o.entries) : seq other < seq entry := by
  rcases o.entries.eq_nil_or_concat with hnil | ⟨front, last, hentries⟩
  · rw [hnil] at hmem
    contradiction
  · rw [List.concat_eq_append] at hentries
    have hlast : seq last < seq entry := hentry last (by simp [hentries])
    rw [Ascending, hentries, List.pairwise_append] at h
    rw [hentries] at hmem
    rcases List.mem_append.mp hmem with hfront | hend
    · exact Nat.lt_trans (h.2.2 other hfront last List.mem_cons_self) hlast
    · rwa [List.mem_singleton.mp hend]

theorem Ascending.push (h : o.Ascending) (hentry : o.Admits entry) : (o.push entry).Ascending := by
  refine List.pairwise_append.mpr ⟨h, List.pairwise_singleton _ _, ?_⟩
  intro other hother added hadded
  rw [List.mem_singleton.mp hadded]
  exact h.lt_of_admits hentry hother

theorem Ascending.dropBelow (h : o.Ascending) (threshold : Nat) :
    (o.dropBelow threshold).Ascending :=
  h.sublist (List.dropWhile_sublist _)

theorem Built.ascending (h : Built o) : o.Ascending := by
  induction h with
  | empty => exact .nil
  | push built admitted ih => exact ih.push admitted
  | dropBelow built threshold ih => exact ih.dropBelow threshold

/-! ## What is let go of, and what stays -/

def released (o : Outbox α) (threshold : Nat) : List α :=
  o.entries.takeWhile fun entry => seq entry < threshold

theorem length_released (o : Outbox α) (threshold : Nat) :
    (o.released threshold).length = o.countBelow threshold :=
  rfl

theorem released_append_dropBelow (o : Outbox α) (threshold : Nat) :
    o.released threshold ++ (o.dropBelow threshold).entries = o.entries :=
  List.takeWhile_append_dropWhile

theorem countBelow_add_length (o : Outbox α) (threshold : Nat) :
    o.countBelow threshold + (o.dropBelow threshold).length = o.length := by
  have hsplit := congrArg List.length (released_append_dropBelow o threshold)
  rwa [List.length_append, length_released] at hsplit

theorem lt_of_mem_released {threshold : Nat} (hmem : entry ∈ o.released threshold) :
    seq entry < threshold :=
  of_decide_eq_true (List.all_eq_true.mp List.all_takeWhile entry hmem)

theorem Ascending.le_of_mem_dropBelow (h : o.Ascending) {threshold : Nat}
    (hmem : entry ∈ (o.dropBelow threshold).entries) : threshold ≤ seq entry := by
  obtain ⟨entries⟩ := o
  simp only [Ascending, Outbox.dropBelow] at h hmem
  induction entries with
  | nil => contradiction
  | cons first rest ih =>
      obtain ⟨hfirst, hrest⟩ := List.pairwise_cons.mp h
      by_cases hlt : seq first < threshold
      · rw [List.dropWhile_cons_of_pos (by simpa using hlt)] at hmem
        exact ih hrest hmem
      · rw [List.dropWhile_cons_of_neg (by simpa using hlt)] at hmem
        rcases List.mem_cons.mp hmem with rfl | hlater
        · exact Nat.not_lt.mp hlt
        · have := hfirst entry hlater
          omega

theorem Ascending.dropBelow_eq_filter (h : o.Ascending) (threshold : Nat) :
    (o.dropBelow threshold).entries = o.entries.filter fun entry => threshold ≤ seq entry := by
  have hreleased : (o.released threshold).filter (fun entry => threshold ≤ seq entry) = [] := by
    rw [List.filter_eq_nil_iff]
    intro entry hmem
    simpa using lt_of_mem_released hmem
  have hkept : (o.dropBelow threshold).entries.filter (fun entry => threshold ≤ seq entry) =
      (o.dropBelow threshold).entries :=
    List.filter_eq_self.mpr fun entry hmem => decide_eq_true (h.le_of_mem_dropBelow hmem)
  calc (o.dropBelow threshold).entries
      = (o.released threshold ++ (o.dropBelow threshold).entries).filter
          (fun entry => threshold ≤ seq entry) := by
        rw [List.filter_append, hreleased, hkept, List.nil_append]
    _ = o.entries.filter fun entry => threshold ≤ seq entry := by
        rw [released_append_dropBelow]

theorem Ascending.countBelow_eq_countP (h : o.Ascending) (threshold : Nat) :
    o.countBelow threshold = o.entries.countP fun entry => seq entry < threshold := by
  have hreleased : (o.released threshold).countP (fun entry => seq entry < threshold) =
      o.countBelow threshold :=
    List.countP_eq_length.mpr fun entry hmem => decide_eq_true (lt_of_mem_released hmem)
  have hkept : (o.dropBelow threshold).entries.countP (fun entry => seq entry < threshold) = 0 := by
    rw [List.countP_eq_zero]
    intro entry hmem
    simpa using h.le_of_mem_dropBelow hmem
  rw [← released_append_dropBelow o threshold, List.countP_append, hreleased, hkept, Nat.add_zero]

/-! ## Letting go more than once -/

theorem dropBelow_dropBelow (o : Outbox α) (a b : Nat) :
    (o.dropBelow a).dropBelow b = o.dropBelow (max a b) := by
  -- This needs no order: what stays first for one threshold stays first for all that are lower.
  obtain ⟨entries⟩ := o
  simp only [dropBelow, mk.injEq]
  induction entries with
  | nil => rfl
  | cons first rest ih =>
      by_cases hfirst : seq first < a
      · have hmax : seq first < max a b := Nat.lt_of_lt_of_le hfirst (Nat.le_max_left a b)
        rw [List.dropWhile_cons_of_pos (by simpa using hfirst),
          List.dropWhile_cons_of_pos (by simpa using hmax), ih]
      · rw [List.dropWhile_cons_of_neg (by simpa using hfirst)]
        by_cases hsecond : seq first < b
        · rw [Nat.max_eq_right (by omega)]
        · rw [List.dropWhile_cons_of_neg (by simpa using hsecond),
            List.dropWhile_cons_of_neg (by simp; omega)]

theorem countBelow_add_countBelow (o : Outbox α) (a b : Nat) :
    o.countBelow a + (o.dropBelow a).countBelow b = o.countBelow (max a b) := by
  have hfirst := countBelow_add_length o a
  have hsecond := countBelow_add_length (o.dropBelow a) b
  have hboth := countBelow_add_length o (max a b)
  rw [dropBelow_dropBelow] at hsecond
  omega

/-- Letting go of a prefix is filtering: just the entries below the threshold go, and they are
counted; just the others stay.  To list these takes no more than a look at the outbox.  Of two
thresholds it is the larger one that counts, whichever comes first, and the order of the entries
is kept. -/
theorem pruned_as_filtered (h : Built o) (a b : Nat) :
    (o.dropBelow a).entries = o.entries.filter (fun entry => a ≤ seq entry) ∧
    o.countBelow a = o.entries.countP (fun entry => seq entry < a) ∧
    o.countBelow a + (o.dropBelow a).length = o.length ∧
    o.entriesFrom a = o.entries.filter (fun entry => a ≤ seq entry) ∧
    (o.dropBelow a).dropBelow b = o.dropBelow (max a b) ∧
    o.countBelow a + (o.dropBelow a).countBelow b = o.countBelow (max a b) ∧
    ((o.dropBelow a).dropBelow a = o.dropBelow a ∧ (o.dropBelow a).countBelow a = 0) ∧
    ((o.dropBelow a).dropBelow b = (o.dropBelow b).dropBelow a ∧
      o.countBelow a + (o.dropBelow a).countBelow b =
        o.countBelow b + (o.dropBelow b).countBelow a) ∧
    o.Ascending ∧ (o.dropBelow a).Ascending ∧
    ∀ entry, o.Admits entry → (o.push entry).Ascending := by
  have hascending := h.ascending
  have hfilter := hascending.dropBelow_eq_filter a
  have hagain : (o.dropBelow a).dropBelow a = o.dropBelow a := by
    rw [dropBelow_dropBelow, Nat.max_self]
  have hnone : (o.dropBelow a).countBelow a = 0 := by
    have := countBelow_add_countBelow o a a
    rw [Nat.max_self] at this
    omega
  refine ⟨hfilter, hascending.countBelow_eq_countP a, countBelow_add_length o a, hfilter,
    dropBelow_dropBelow o a b, countBelow_add_countBelow o a b, ⟨hagain, hnone⟩, ⟨?_, ?_⟩,
    hascending, hascending.dropBelow a, fun entry => hascending.push⟩
  · rw [dropBelow_dropBelow, dropBelow_dropBelow, Nat.max_comm]
  · rw [countBelow_add_countBelow, countBelow_add_countBelow, Nat.max_comm]

def sparse : Outbox Request :=
  (((empty.push ⟨1000, 0, .null⟩).push ⟨1002, 0, .null⟩).dropBelow 1001).push
    ⟨1007, 3, .bool true⟩

theorem sparse_pruned :
    sparse.Built ∧ (sparse.dropBelow 1005).entries = [⟨1007, 3, .bool true⟩] ∧
      sparse.countBelow 1005 = 1 ∧ sparse.entriesFrom 1005 = [⟨1007, 3, .bool true⟩] ∧
      (sparse.dropBelow 1005).dropBelow 1001 = sparse.dropBelow 1005 := by
  have hbuilt : sparse.Built := by
    refine .push (.dropBelow (.push (.push .empty ?_) ?_) 1001) ?_
    · exact fun last hlast => by contradiction
    · rintro last ⟨⟩
      decide
    · rintro last ⟨⟩
      decide
  obtain ⟨hentries, hcount, -, hlisted, htwice, -⟩ := pruned_as_filtered hbuilt 1005 1001
  exact ⟨hbuilt, hentries, hcount, hlisted, htwice⟩

end ResumableSession.Outbox
