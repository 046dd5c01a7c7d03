import ResumableSession.Json.Reader
import ResumableSession.Proofs.Json.Outcome

/-!
What the readers of values come to, case by case.
-/

namespace ResumableSession.Json

variable {text rest more : List Char} {first : Char} {depth : Nat}
  {readItem : (text : List Char) → Reading Json text}

theorem skipBlanks_cons (hfirst : isBlank first = false) :
    skipBlanks (first :: rest) = first :: rest := by
  rw [skipBlanks, List.dropWhile_cons_of_neg (by simp [hfirst])]

/-! ## Lists -/

theorem outcome_readMoreItems_end (htext : text = ']' :: rest) :
    outcome (readMoreItems readItem text) = .ok ([], rest) := by
  have hskip : skipBlanks text = ']' :: rest := htext ▸ skipBlanks_cons rfl
  rw [readMoreItems.eq_def readItem text]
  split
  · next h => simp [hskip] at h
  · next h =>
      obtain rfl := (List.cons.inj (hskip.symm.trans h)).2
      rfl
  · next h => simp [hskip] at h
  · next h _ => exact absurd hskip (h rest)

theorem outcome_readMoreItems_comma (htext : text = ',' :: rest)
    (hrest : skipBlanks rest = first :: more) (hfirst : first ≠ ']') :
    outcome (readMoreItems readItem text) =
      (outcome (readItem rest)).bind fun item =>
        prepend item.1 (outcome (readMoreItems readItem item.2)) := by
  have hskip : skipBlanks text = ',' :: rest := htext ▸ skipBlanks_cons rfl
  rw [readMoreItems.eq_def readItem text]
  split
  · next h => simp [hskip] at h
  · next h => simp [hskip] at h
  · next tail h =>
      obtain rfl := (List.cons.inj (hskip.symm.trans h)).2
      split
      · next h => simp [hrest] at h
      · next h => exact absurd (List.cons.inj (hrest.symm.trans h)).1 hfirst
      · cases readItem rest with
        | error fault => rfl
        | ok item =>
            change outcome (do let items ← readMoreItems readItem item.rest; _) =
              prepend item.value (outcome (readMoreItems readItem item.rest))
            cases readMoreItems readItem item.rest <;> rfl
  · next h => exact absurd hskip (h rest)

theorem outcome_readItems_end (htext : text = ']' :: rest) :
    outcome (readItems readItem text) = .ok ([], rest) := by
  have hskip : skipBlanks text = ']' :: rest := htext ▸ skipBlanks_cons rfl
  unfold readItems
  split
  · next h => simp [hskip] at h
  · next h =>
      obtain rfl := (List.cons.inj (hskip.symm.trans h)).2
      rfl
  · next h => exact absurd hskip (h rest)

theorem outcome_readItems (hskip : skipBlanks text = first :: more) (hfirst : first ≠ ']') :
    outcome (readItems readItem text) =
      (outcome (readItem text)).bind fun item =>
        prepend item.1 (outcome (readMoreItems readItem item.2)) := by
  unfold readItems
  split
  · next h => simp [hskip] at h
  · next h => exact absurd (List.cons.inj (hskip.symm.trans h)).1 hfirst
  · cases readItem text with
    | error fault => rfl
    | ok item =>
        change outcome (do let items ← readMoreItems readItem item.rest; _) =
          prepend item.value (outcome (readMoreItems readItem item.rest))
        cases readMoreItems readItem item.rest <;> rfl

/-! ## Objects -/

theorem outcome_readMemberValue (htext : text = ':' :: rest) :
    outcome (readMemberValue readItem text) = outcome (readItem rest) := by
  have hskip : skipBlanks text = ':' :: rest := htext ▸ skipBlanks_cons rfl
  unfold readMemberValue
  split
  · next h => simp [hskip] at h
  · next h =>
      obtain rfl := (List.cons.inj (hskip.symm.trans h)).2
      cases readItem rest <;> rfl
  · next h => exact absurd hskip (h rest)

theorem outcome_readMember {name : String} (hname : outcome (readString text) = .ok (name, more))
    (hmore : more = ':' :: rest) :
    outcome (readMember readItem text) =
      (outcome (readItem rest)).map fun value => ((name, value.1), value.2) := by
  obtain ⟨shorter, hread⟩ := outcome_eq_ok hname
  rw [← outcome_readMemberValue hmore]
  unfold readMember
  rw [hread]
  change outcome (do let value ← readMemberValue readItem more; _) = _
  cases readMemberValue readItem more <;> rfl

theorem outcome_readMoreMembers_end (htext : text = '}' :: rest) :
    outcome (readMoreMembers readItem text) = .ok ([], rest) := by
  have hskip : skipBlanks text = '}' :: rest := htext ▸ skipBlanks_cons rfl
  rw [readMoreMembers.eq_def readItem text]
  split
  · next h => simp [hskip] at h
  · next h =>
      obtain rfl := (List.cons.inj (hskip.symm.trans h)).2
      rfl
  · next h => simp [hskip] at h
  · next h _ => exact absurd hskip (h rest)

theorem outcome_readMoreMembers_comma (htext : text = ',' :: '"' :: rest) :
    outcome (readMoreMembers readItem text) =
      (outcome (readMember readItem rest)).bind fun member =>
        prepend member.1 (outcome (readMoreMembers readItem member.2)) := by
  have hskip : skipBlanks text = ',' :: '"' :: rest := htext ▸ skipBlanks_cons rfl
  have hrest : skipBlanks ('"' :: rest) = '"' :: rest := skipBlanks_cons rfl
  rw [readMoreMembers.eq_def readItem text]
  split
  · next h => simp [hskip] at h
  · next h => simp [hskip] at h
  · next tail h =>
      obtain rfl := (List.cons.inj (hskip.symm.trans h)).2
      split
      · next h => simp [hrest] at h
      · next h => simp [hrest] at h
      · next h =>
          obtain rfl := (List.cons.inj (hrest.symm.trans h)).2
          cases readMember readItem rest with
          | error fault => rfl
          | ok member =>
              change outcome (do let members ← readMoreMembers readItem member.rest; _) =
                prepend member.value (outcome (readMoreMembers readItem member.rest))
              cases readMoreMembers readItem member.rest <;> rfl
      · next h => exact absurd hrest (h rest)
  · next h => exact absurd hskip (h _)

theorem outcome_readMembers_end (htext : text = '}' :: rest) :
    outcome (readMembers readItem text) = .ok ([], rest) := by
  have hskip : skipBlanks text = '}' :: rest := htext ▸ skipBlanks_cons rfl
  unfold readMembers
  split
  · next h => simp [hskip] at h
  · next h =>
      obtain rfl := (List.cons.inj (hskip.symm.trans h)).2
      rfl
  · next h => simp [hskip] at h
  · next h _ => exact absurd hskip (h rest)

theorem outcome_readMembers (htext : text = '"' :: rest) :
    outcome (readMembers readItem text) =
      (outcome (readMember readItem rest)).bind fun member =>
        prepend member.1 (outcome (readMoreMembers readItem member.2)) := by
  have hskip : skipBlanks text = '"' :: rest := htext ▸ skipBlanks_cons rfl
  unfold readMembers
  split
  · next h => simp [hskip] at h
  · next h => simp [hskip] at h
  · next h =>
      obtain rfl := (List.cons.inj (hskip.symm.trans h)).2
      cases readMember readItem rest with
      | error fault => rfl
      | ok member =>
          change outcome (do let members ← readMoreMembers readItem member.rest; _) =
            prepend member.value (outcome (readMoreMembers readItem member.rest))
          cases readMoreMembers readItem member.rest <;> rfl
  · next h => exact absurd hskip (h rest)

/-! ## Values -/

theorem outcome_readValue_array (htext : text = '[' :: rest) :
    outcome (readValue (depth + 1) text) =
      (outcome (readItems (readValue depth) rest)).map fun items => (.array items.1, items.2) := by
  have hskip : skipBlanks text = '[' :: rest := htext ▸ skipBlanks_cons rfl
  rw [readValue.eq_def (depth + 1) text]
  split
  · next h => simp [hskip] at h
  · next h =>
      obtain rfl := (List.cons.inj (hskip.symm.trans h)).2
      change outcome (do let items ← readItems (readValue depth) rest; _) = _
      cases readItems (readValue depth) rest <;> rfl
  · next h => simp [hskip] at h
  · next hlist _ h => exact absurd (List.cons.inj (hskip.symm.trans h)).1.symm hlist

theorem outcome_readValue_object (htext : text = '{' :: rest) :
    outcome (readValue (depth + 1) text) =
      (outcome (readMembers (readValue depth) rest)).map fun members =>
        (.object (Table.ofPairs members.1), members.2) := by
  have hskip : skipBlanks text = '{' :: rest := htext ▸ skipBlanks_cons rfl
  rw [readValue.eq_def (depth + 1) text]
  split
  · next h => simp [hskip] at h
  · next h => simp [hskip] at h
  · next h =>
      obtain rfl := (List.cons.inj (hskip.symm.trans h)).2
      change outcome (do let members ← readMembers (readValue depth) rest; _) = _
      cases readMembers (readValue depth) rest <;> rfl
  · next _ hobject h => exact absurd (List.cons.inj (hskip.symm.trans h)).1.symm hobject

theorem outcome_readValue_deep (htext : text = first :: rest) (hfirst : first = '[' ∨ first = '{') :
    ∃ fault, outcome (readValue 0 text) = .error fault := by
  have hblank : isBlank first = false := by
    rcases hfirst with rfl | rfl <;> rfl
  have hskip : skipBlanks text = first :: rest := htext ▸ skipBlanks_cons hblank
  rw [readValue.eq_def 0 text]
  split
  · exact ⟨_, rfl⟩
  · exact ⟨_, rfl⟩
  · exact ⟨_, rfl⟩
  · next hlist hobject h =>
      obtain rfl := (List.cons.inj (hskip.symm.trans h)).1
      exact absurd hfirst (not_or.mpr ⟨hlist, hobject⟩)

theorem outcome_readValue_scalar (htext : text = first :: rest) (hblank : isBlank first = false)
    (hlist : first ≠ '[') (hobject : first ≠ '{') :
    outcome (readValue depth text) = outcome (readScalar first rest) := by
  have hskip : skipBlanks text = first :: rest := htext ▸ skipBlanks_cons hblank
  rw [readValue.eq_def depth text]
  split
  · next h => simp [hskip] at h
  · next h => exact absurd (List.cons.inj (hskip.symm.trans h)).1 hlist
  · next h => exact absurd (List.cons.inj (hskip.symm.trans h)).1 hobject
  · next h =>
      obtain ⟨rfl, rfl⟩ := List.cons.inj (hskip.symm.trans h)
      cases readScalar first rest <;> rfl

end ResumableSession.Json
