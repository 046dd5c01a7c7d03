import ResumableSession.Proofs.Json.RoundTrip

/-!
The values that a reader hands out.

They are nested no deeper than the reader bears, their integers fit a word, and the members of
their objects are in order.  So everything that is read and holds no double is among the values
that are printed and read back as they were, unless it is nested too deep.
-/

namespace ResumableSession

/-! ## Members in order -/

namespace Table

variable {α : Type} {table : Table String α} {key : String} {value : α}

theorem mem_insert {entry : String × α} (h : entry ∈ insert key value table) :
    entry = (key, value) ∨ entry ∈ table := by
  induction table with
  | nil => exact .inl (List.mem_singleton.mp h)
  | cons first rest ih =>
      unfold insert at h
      split at h
      · exact List.mem_cons.mp h
      · split at h
        · exact (List.mem_cons.mp h).imp_right fun h => List.mem_cons_of_mem _ h
        · rcases List.mem_cons.mp h with rfl | h
          · exact .inr List.mem_cons_self
          · exact (ih h).imp_right fun h => List.mem_cons_of_mem _ h

theorem pairwise_insert (h : table.Pairwise (·.1 < ·.1)) :
    (insert key value table).Pairwise (·.1 < ·.1) := by
  induction table with
  | nil => exact List.pairwise_singleton _ _
  | cons first rest ih =>
      obtain ⟨hfirst, hrest⟩ := List.pairwise_cons.mp h
      unfold insert
      split
      · next hbefore =>
          refine List.pairwise_cons.mpr ⟨fun entry hmem => ?_, h⟩
          rcases List.mem_cons.mp hmem with rfl | hmem
          · exact hbefore
          · exact String.lt_trans hbefore (hfirst entry hmem)
      · next hbefore =>
          split
          · next hsame =>
              subst hsame
              exact List.pairwise_cons.mpr ⟨hfirst, hrest⟩
          · next hother =>
              have hafter : first.1 < key := by
                refine String.not_le.mp fun hle => hother ?_
                exact String.le_antisymm (String.not_lt.mp hbefore) hle
              refine List.pairwise_cons.mpr ⟨fun entry hmem => ?_, ih hrest⟩
              rcases mem_insert hmem with rfl | hmem
              · exact hafter
              · exact hfirst entry hmem

theorem pairwise_ofPairs (pairs : List (String × α)) : (ofPairs pairs).Pairwise (·.1 < ·.1) :=
  List.foldlRecOn pairs _ .nil fun _ h _ _ => pairwise_insert h

theorem mem_of_mem_ofPairs {pairs : List (String × α)} {pair : String × α}
    (h : pair ∈ ofPairs pairs) : pair ∈ pairs := by
  have hall : ∀ entry ∈ ofPairs pairs, entry ∈ pairs := by
    apply List.foldlRecOn (motive := fun table => ∀ entry ∈ table, entry ∈ pairs) pairs
    · exact nofun
    · intro table htable pair hpair entry hmem
      rcases mem_insert hmem with rfl | hmem
      · exact hpair
      · exact htable entry hmem
  exact hall pair h

end Table

namespace Json

/-! ## Numbers -/

section Numbers

variable {negative down : Bool} {g whole : Gathered} {text rest : List Char} {n : Number}

def Number.Fits : Number → Prop
  | .integer value => Word value
  | .float _ => True

theorem gather_lt {limit n : Nat} (hn : n < limit) (digits : List Char) :
    (gather limit n digits).1 < limit := by
  fun_induction gather limit n digits with
  | case1 => exact hn
  | case2 _ _ _ hfits ih => exact ih hfits
  | case3 => exact hn

theorem finishFloat_fits (h : finishFloat negative g text = .ok (n, rest)) : n.Fits := by
  unfold finishFloat at h
  split at h
  · obtain ⟨rfl, -⟩ := Prod.mk.inj (Except.ok.inj h)
    trivial
  · contradiction

theorem readExponentDigits_fits (h : readExponentDigits negative down g text = .ok (n, rest)) :
    n.Fits := by
  unfold readExponentDigits at h
  split at h
  · contradiction
  · split at h
    · split at h
      · exact finishFloat_fits h
      · split at h
        · contradiction
        · obtain ⟨rfl, -⟩ := Prod.mk.inj (Except.ok.inj h)
          trivial
    · contradiction

theorem readExponent_fits (h : readExponent negative g text = .ok (n, rest)) : n.Fits := by
  unfold readExponent at h
  split at h
  all_goals exact readExponentDigits_fits h

theorem readAfterPlaces_fits (h : readAfterPlaces negative g text = .ok (n, rest)) : n.Fits := by
  unfold readAfterPlaces at h
  split at h
  · exact readExponent_fits h
  · exact readExponent_fits h
  · exact finishFloat_fits h

theorem readPlaces_fits (h : readPlaces negative whole text = .ok (n, rest)) : n.Fits := by
  unfold readPlaces at h
  split at h
  · contradiction
  · split at h
    · exact readAfterPlaces_fits h
    · contradiction

theorem ofWhole_fits {n : Nat} (h : n < UInt64.size) : (ofWhole negative n).Fits := by
  unfold ofWhole
  split
  · split
    · trivial
    · next hsize =>
        simp only [Number.Fits, Word, UInt64.size]
        omega
  · exact word_natCast.mpr h

theorem readAfterWhole_fits (hwhole : whole.significand < UInt64.size)
    (h : readAfterWhole negative whole text = .ok (n, rest)) : n.Fits := by
  unfold readAfterWhole at h
  split at h
  · exact readPlaces_fits h
  · exact readExponent_fits h
  · exact readExponent_fits h
  · split at h
    · obtain ⟨rfl, -⟩ := Prod.mk.inj (Except.ok.inj h)
      exact ofWhole_fits hwhole
    · exact finishFloat_fits h

theorem readUnsigned_reads_fits (h : readUnsigned negative text = .ok (n, rest)) : n.Fits := by
  unfold readUnsigned at h
  split at h
  · contradiction
  · split at h
    · contradiction
    · split at h
      · exact readAfterWhole_fits (gather_lt (by decide) _) h
      · contradiction

end Numbers

/-! ## Readings -/

section Readings

variable {α β : Type} {P : α → Prop} {Q : β → Prop} {text other : List Char}

def Gives (P : α → Prop) (reading : Reading α text) : Prop :=
  ∀ parsed, reading = .ok parsed → P parsed.value

theorem Gives.error (fault : Fault) : Gives P (.error fault : Reading α text) :=
  nofun

theorem Gives.ok {parsed : Parsed α text} (h : P parsed.value) :
    Gives P (.ok parsed : Reading α text) := by
  rintro _ ⟨⟩
  exact h

theorem Gives.bind {reading : Reading α other} {next : Parsed α other → Reading β text}
    (h : Gives P reading) (hnext : ∀ parsed, P parsed.value → Gives Q (next parsed)) :
    Gives Q (reading >>= next) := by
  cases reading with
  | error fault => exact .error fault
  | ok parsed => exact hnext parsed (h parsed rfl)

theorem readNumber_gives (text : List Char) : Gives Number.Fits (readNumber text) := by
  unfold readNumber
  split
  · split
    · next h => exact .ok (readUnsigned_reads_fits h)
    · exact .error _
  · split
    · next h => exact .ok (readUnsigned_reads_fits h)
    · exact .error _

end Readings

/-! ## Values -/

inductive HoldsDouble : Json → Prop where
  | double (x : Float) : HoldsDouble (.number (.float x))
  | item {items : List Json} {item : Json} (mem : item ∈ items) (inside : HoldsDouble item) :
      HoldsDouble (.array items)
  | member {members : List (String × Json)} {name : String} {value : Json}
      (mem : (name, value) ∈ members) (inside : HoldsDouble value) :
      HoldsDouble (.object members)

/-- What can be handed out by a reader that bears so many levels. -/
structure Accepted (depth : Nat) (v : Json) : Prop where
  fits : v.depth ≤ depth
  exact : ¬ v.HoldsDouble → v.Exact

section Values

variable {items : List Json} {members : List (String × Json)} {depth : Nat} {v : Json}

theorem exactItems_iff : ExactItems items ↔ ∀ item ∈ items, item.Exact := by
  induction items with
  | nil => simp [ExactItems]
  | cons item rest ih => simp [ExactItems, ih]

theorem exactMembers_iff : ExactMembers members ↔ ∀ member ∈ members, member.2.Exact := by
  induction members with
  | nil => simp [ExactMembers]
  | cons member rest ih => simp [ExactMembers, ih]

theorem depthItems_le_iff : depthItems items ≤ depth ↔ ∀ item ∈ items, item.depth ≤ depth := by
  induction items with
  | nil => simp [depthItems]
  | cons item rest ih => simp only [depthItems, Nat.max_le, ih, List.mem_cons, forall_eq_or_imp]

theorem depthMembers_le_iff :
    depthMembers members ≤ depth ↔ ∀ member ∈ members, member.2.depth ≤ depth := by
  induction members with
  | nil => simp [depthMembers]
  | cons member rest ih => simp only [depthMembers, Nat.max_le, ih, List.mem_cons, forall_eq_or_imp]

theorem Accepted.array (h : ∀ item ∈ items, Accepted depth item) :
    Accepted (depth + 1) (.array items) where
  fits := Nat.succ_le_succ (depthItems_le_iff.mpr fun item hmem => (h item hmem).fits)
  exact hplain := exactItems_iff.mpr fun item hmem =>
    (h item hmem).exact fun hdouble => hplain (.item hmem hdouble)

theorem Accepted.object (h : ∀ member ∈ members, Accepted depth member.2) :
    Accepted (depth + 1) (.object (Table.ofPairs members)) where
  fits := Nat.succ_le_succ (depthMembers_le_iff.mpr fun member hmem =>
    (h member (Table.mem_of_mem_ofPairs hmem)).fits)
  exact hplain := by
  -- Members that were given up for later ones with their names do not count any more.
    refine ⟨exactMembers_iff.mpr fun member hmem => ?_, Table.pairwise_ofPairs members⟩
    refine (h member (Table.mem_of_mem_ofPairs hmem)).exact fun hdouble => ?_
    exact hplain (.member hmem hdouble)

/-! ## Readers of values -/

variable {P : Json → Prop} {readItem : (text : List Char) → Reading Json text}

theorem readLetters_gives {value : Json} {letters text rest : List Char}
    (h : readLetters value letters text = .ok (v, rest)) : v = value := by
  fun_induction readLetters value letters text with
  | case1 => exact (Prod.mk.inj (Except.ok.inj h)).1.symm
  | case2 => contradiction
  | case3 _ _ _ ih => exact ih h
  | case4 => contradiction

theorem readWord_gives {value : Json} (h : P value) (letters : List Char) (first : Char)
    (text : List Char) : Gives P (readWord value letters first text) := by
  unfold readWord
  split
  · next hread => exact .ok (readLetters_gives hread ▸ h)
  · exact .error _

theorem readScalar_gives (depth : Nat) (first : Char) (text : List Char) :
    Gives (Accepted depth) (readScalar first text) := by
  have hword (value : Json) (hdepth : value.depth = 0) (hexact : value.Exact) :
      Accepted depth value :=
    ⟨hdepth ▸ Nat.zero_le depth, fun _ => hexact⟩
  unfold readScalar
  split
  · exact readWord_gives (hword .null rfl trivial) _ _ _
  · split
    · exact readWord_gives (hword (.bool true) rfl trivial) _ _ _
    · split
      · exact readWord_gives (hword (.bool false) rfl trivial) _ _ _
      · split
        · refine .bind (P := fun _ => True) (fun _ _ => trivial) fun parsed _ => .ok ?_
          exact hword (.string parsed.value) rfl trivial
        · split
          · refine .bind (readNumber_gives _) fun parsed hfits => .ok ?_
            refine ⟨Nat.zero_le depth, fun hplain => ?_⟩
            change Exact (.number parsed.value)
            cases hvalue : parsed.value with
            | integer value =>
                rw [hvalue] at hfits
                exact hfits
            | float x =>
                refine absurd ?_ hplain
                change HoldsDouble (.number parsed.value)
                rw [hvalue]
                exact .double x
          · exact .error _

theorem readMoreItems_gives (hitem : ∀ text, Gives P (readItem text)) (text : List Char) :
    Gives (fun items => ∀ item ∈ items, P item) (readMoreItems readItem text) := by
  fun_induction readMoreItems readItem text with
  | case1 => exact .error _
  | case2 => exact .ok (by simp)
  | case3 => exact .error _
  | case4 => exact .error _
  | case5 _ _ _ _ _ _ ih =>
      refine .bind (hitem _) fun item hvalue => .bind (ih item) fun items hitems => .ok ?_
      exact List.forall_mem_cons.mpr ⟨hvalue, hitems⟩
  | case6 => exact .error _

theorem readItems_gives (hitem : ∀ text, Gives P (readItem text)) (text : List Char) :
    Gives (fun items => ∀ item ∈ items, P item) (readItems readItem text) := by
  unfold readItems
  split
  · exact .error _
  · exact .ok (by simp)
  · refine .bind (hitem _) fun item hvalue => ?_
    refine .bind (readMoreItems_gives hitem _) fun items hitems => .ok ?_
    exact List.forall_mem_cons.mpr ⟨hvalue, hitems⟩

theorem readMemberValue_gives (hitem : ∀ text, Gives P (readItem text)) (text : List Char) :
    Gives P (readMemberValue readItem text) := by
  unfold readMemberValue
  split
  · exact .error _
  · exact .bind (hitem _) fun item hvalue => .ok hvalue
  · exact .error _

theorem readMember_gives (hitem : ∀ text, Gives P (readItem text)) (text : List Char) :
    Gives (fun member => P member.2) (readMember readItem text) :=
  .bind (P := fun _ => True) (fun _ _ => trivial) fun name _ =>
    .bind (readMemberValue_gives hitem name.rest) fun _ hvalue => .ok hvalue

theorem readMoreMembers_gives (hitem : ∀ text, Gives P (readItem text)) (text : List Char) :
    Gives (fun members => ∀ member ∈ members, P member.2) (readMoreMembers readItem text) := by
  fun_induction readMoreMembers readItem text with
  | case1 => exact .error _
  | case2 => exact .ok (by simp)
  | case3 => exact .error _
  | case4 => exact .error _
  | case5 _ _ _ _ _ _ _ ih =>
      refine .bind (readMember_gives hitem _) fun member hvalue => ?_
      refine .bind (ih member) fun members hmembers => .ok ?_
      exact List.forall_mem_cons.mpr ⟨hvalue, hmembers⟩
  | case6 => exact .error _
  | case7 => exact .error _

theorem readMembers_gives (hitem : ∀ text, Gives P (readItem text)) (text : List Char) :
    Gives (fun members => ∀ member ∈ members, P member.2) (readMembers readItem text) := by
  unfold readMembers
  split
  · exact .error _
  · exact .ok (by simp)
  · refine .bind (readMember_gives hitem _) fun member hvalue => ?_
    refine .bind (readMoreMembers_gives hitem _) fun members hmembers => .ok ?_
    exact List.forall_mem_cons.mpr ⟨hvalue, hmembers⟩
  · exact .error _

theorem readValue_gives (depth : Nat) (text : List Char) :
    Gives (Accepted depth) (readValue depth text) := by
  induction depth generalizing text with
  | zero =>
      unfold readValue
      split
      · exact .error _
      · exact .error _
      · exact .error _
      · exact .bind (readScalar_gives 0 _ _) fun value hvalue => .ok hvalue
  | succ depth ih =>
      unfold readValue
      split
      · exact .error _
      · exact .bind (readItems_gives ih _) fun items hitems => .ok (.array hitems)
      · exact .bind (readMembers_gives ih _) fun members hmembers => .ok (.object hmembers)
      · exact .bind (readScalar_gives (depth + 1) _ _) fun value hvalue => .ok hvalue

theorem accepted_of_parse {text : String} (h : parse text = .ok v) : Accepted depthLimit v := by
  rw [parse, parseChars_eq] at h
  have hread := readValue_gives depthLimit text.toList
  cases hvalue : readValue depthLimit text.toList with
  | error fault =>
      rw [hvalue] at h
      contradiction
  | ok parsed =>
      have haccepted := hread parsed hvalue
      rw [hvalue] at h
      simp only [outcome, Except.map, Except.bind] at h
      split at h
      · obtain rfl := Except.ok.inj h
        exact haccepted
      · contradiction

end Values

end Json

end ResumableSession
