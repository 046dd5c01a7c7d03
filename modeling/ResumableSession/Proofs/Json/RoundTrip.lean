import ResumableSession.Proofs.Json.Numerals
import ResumableSession.Proofs.Json.Strings
import ResumableSession.Proofs.Json.Values

/-!
Values that are printed and read back.

Apart from doubles, which need not be read as the doubles that were printed, every value is read
as it was.  The only thing that can go wrong is that it is nested too deep.
-/

namespace ResumableSession.Json

/-! ## The values in question -/

mutual

/-- A value without doubles.  Its integers fit a word, and its members are in order. -/
def Exact : Json → Prop
  | .null | .bool _ | .string _ => True
  | .number (.integer value) => Word value
  | .number (.float _) => False
  | .array items => ExactItems items
  | .object members => ExactMembers members ∧ members.Pairwise (·.1 < ·.1)

def ExactItems : List Json → Prop
  | [] => True
  | item :: rest => item.Exact ∧ ExactItems rest

def ExactMembers : List (String × Json) → Prop
  | [] => True
  | (_, value) :: rest => value.Exact ∧ ExactMembers rest

end

mutual

def depth : Json → Nat
  | .null | .bool _ | .number _ | .string _ => 0
  | .array items => depthItems items + 1
  | .object members => depthMembers members + 1

def depthItems : List Json → Nat
  | [] => 0
  | item :: rest => max item.depth (depthItems rest)

def depthMembers : List (String × Json) → Nat
  | [] => 0
  | (_, value) :: rest => max value.depth (depthMembers rest)

end

/-! ## What is written after the first item -/

def closing : List Json → List Char
  | [] => [']']
  | item :: rest => ',' :: item.print ++ closing rest

def closingMembers : List (String × Json) → List Char
  | [] => ['}']
  | (name, value) :: rest => ',' :: printString name ++ ':' :: value.print ++ closingMembers rest

theorem printItems_cons (item : Json) (rest : List Json) :
    printItems (item :: rest) ++ [']'] = item.print ++ closing rest := by
  induction rest generalizing item with
  | nil => rfl
  | cons second rest ih =>
      have hprint : printItems (item :: second :: rest) =
          item.print ++ ',' :: printItems (second :: rest) := rfl
      rw [hprint, List.append_assoc, List.cons_append, ih]
      simp [closing]

theorem printMembers_cons (name : String) (value : Json) (rest : List (String × Json)) :
    printMembers ((name, value) :: rest) ++ ['}'] =
      printString name ++ ':' :: value.print ++ closingMembers rest := by
  induction rest generalizing name value with
  | nil => simp [printMembers, closingMembers]
  | cons second rest ih =>
      obtain ⟨second, next⟩ := second
      have hprint : printMembers ((name, value) :: (second, next) :: rest) =
          printString name ++ ':' :: value.print ++ ',' :: printMembers ((second, next) :: rest) :=
        rfl
      rw [hprint, List.append_assoc, List.cons_append, ih]
      simp [closingMembers]

theorem closed_closing (items : List Json) (rest : List Char) : Closed (closing items ++ rest) := by
  cases items with
  | nil => exact .cons (.inr (.inl rfl))
  | cons item items => exact .cons (.inl rfl)

theorem closed_closingMembers (members : List (String × Json)) (rest : List Char) :
    Closed (closingMembers members ++ rest) := by
  cases members with
  | nil => exact .cons (.inr (.inr rfl))
  | cons member members => exact .cons (.inl rfl)

/-! ## Beginnings -/

theorem isDigit_start {c : Char} (h : c.isDigit) :
    isBlank c = false ∧ c ≠ '[' ∧ c ≠ '{' ∧ c ≠ ']' ∧ c ≠ 'n' ∧ c ≠ 't' ∧ c ≠ 'f' ∧ c ≠ '"' := by
  have hne {d : Char} (hd : d.isDigit = false) : c ≠ d := by
    rintro rfl
    rw [hd] at h
    contradiction
  refine ⟨?_, hne rfl, hne rfl, hne rfl, hne rfl, hne rfl, hne rfl, hne rfl⟩
  simp only [isBlank, Bool.or_eq_false_iff, beq_eq_false_iff_ne]
  exact ⟨⟨⟨hne rfl, hne rfl⟩, hne rfl⟩, hne rfl⟩

theorem exists_printInt (value : Int) : ∃ first more, printInt value = first :: more ∧
    (first = '-' ∨ first.isDigit) := by
  unfold printInt
  split
  · exact ⟨_, _, rfl, .inl rfl⟩
  · cases hdigits : Nat.toDigits 10 value.natAbs with
    | nil => exact absurd hdigits Nat.toDigits_ne_nil
    | cons c digits =>
        refine ⟨c, digits, rfl, .inr ?_⟩
        exact Nat.isDigit_of_mem_toDigits (by decide) (by decide) (hdigits ▸ List.mem_cons_self)

theorem exists_print {v : Json} (hfloat : ∀ x, v ≠ .number (.float x)) :
    ∃ first more, v.print = first :: more ∧ isBlank first = false ∧ first ≠ ']' := by
  cases v with
  | null => exact ⟨_, _, rfl, rfl, by decide⟩
  | bool value => cases value <;> exact ⟨_, _, rfl, rfl, by decide⟩
  | string value => exact ⟨_, _, rfl, rfl, by decide⟩
  | array items => exact ⟨_, _, rfl, rfl, by decide⟩
  | object members => exact ⟨_, _, rfl, rfl, by decide⟩
  | number number =>
      cases number with
      | float value => exact absurd rfl (hfloat value)
      | integer value =>
          obtain ⟨first, more, hprint, hfirst⟩ := exists_printInt value
          refine ⟨first, more, hprint, ?_⟩
          rcases hfirst with rfl | hdigit
          · exact ⟨rfl, by decide⟩
          · obtain ⟨hblank, -, -, hend, -⟩ := isDigit_start hdigit
            exact ⟨hblank, hend⟩

theorem Exact.ne_float {v : Json} (h : v.Exact) (x : Float) : v ≠ .number (.float x) := by
  rintro rfl
  exact h

theorem outcome_readItems_print {item : Json} (hfloat : ∀ x, item ≠ .number (.float x)) (d : Nat)
    (rest : List Char) :
    outcome (readItems (readValue d) (item.print ++ rest)) =
      (outcome (readValue d (item.print ++ rest))).bind fun item =>
        prepend item.1 (outcome (readMoreItems (readValue d) item.2)) := by
  obtain ⟨first, more, hprint, hblank, hend⟩ := exists_print hfloat
  have hskip : skipBlanks (item.print ++ rest) = first :: (more ++ rest) := by
    rw [hprint, List.cons_append, skipBlanks_cons hblank]
  exact outcome_readItems hskip hend

theorem outcome_readMoreItems_print {item : Json} (hfloat : ∀ x, item ≠ .number (.float x))
    (d : Nat) (rest : List Char) :
    outcome (readMoreItems (readValue d) (',' :: (item.print ++ rest))) =
      (outcome (readValue d (item.print ++ rest))).bind fun item =>
        prepend item.1 (outcome (readMoreItems (readValue d) item.2)) := by
  obtain ⟨first, more, hprint, hblank, hend⟩ := exists_print hfloat
  have hskip : skipBlanks (item.print ++ rest) = first :: (more ++ rest) := by
    rw [hprint, List.cons_append, skipBlanks_cons hblank]
  exact outcome_readMoreItems_comma rfl hskip hend

/-! ## Reading back -/

def Reads {α : Type} (fits : Prop) (value : α) (rest : List Char)
    (result : Except Fault (α × List Char)) : Prop :=
  (fits ∧ result = .ok (value, rest)) ∨ (¬ fits ∧ ∃ fault, result = .error fault)

namespace Reads

variable {α β : Type} {fits also : Prop} {value : α} {other : β} {rest more : List Char}
  {result : Except Fault (α × List Char)}

theorem congr (h : Reads fits value rest result) (hiff : also ↔ fits) :
    Reads also value rest result :=
  propext hiff ▸ h

theorem map (h : Reads fits value rest result) (f : α → β) :
    Reads fits (f value) rest (result.map fun result => (f result.1, result.2)) := by
  rcases h with ⟨hfits, rfl⟩ | ⟨hfits, fault, rfl⟩
  · exact .inl ⟨hfits, rfl⟩
  · exact .inr ⟨hfits, fault, rfl⟩

theorem bind (h : Reads fits value more result)
    {next : α × List Char → Except Fault (β × List Char)}
    (hnext : Reads also other rest (next (value, more))) :
    Reads (fits ∧ also) other rest (result.bind next) := by
  rcases h with ⟨hfits, rfl⟩ | ⟨hfits, fault, rfl⟩
  · rcases hnext with ⟨halso, hresult⟩ | ⟨halso, fault, hresult⟩
    · exact .inl ⟨⟨hfits, halso⟩, hresult⟩
    · exact .inr ⟨fun hboth => halso hboth.2, fault, hresult⟩
  · exact .inr ⟨fun hboth => hfits hboth.1, fault, rfl⟩

end Reads

theorem readScalar_string (value : String) (rest : List Char) (d : Nat) :
    outcome (readValue d (printString value ++ rest)) = .ok (.string value, rest) := by
  have htext : printString value ++ rest =
      '"' :: (value.toList.flatMap escapeChar ++ '"' :: rest) := by
    simp [printString]
  obtain ⟨shorter, hread⟩ := outcome_eq_ok (outcome_readString value rest)
  rw [outcome_readValue_scalar htext rfl (by decide) (by decide)]
  simp [readScalar, hread]
  rfl

theorem outcome_readScalar_number {first : Char} (hfirst : first = '-' ∨ first.isDigit)
    (more : List Char) :
    outcome (readScalar first more) =
      (outcome (readNumber (first :: more))).map fun number => (.number number.1, number.2) := by
  have hstart : first ≠ 'n' ∧ first ≠ 't' ∧ first ≠ 'f' ∧ first ≠ '"' := by
    rcases hfirst with rfl | hdigit
    · decide
    · exact (isDigit_start hdigit).2.2.2.2
  obtain ⟨hn, ht, hf, hquote⟩ := hstart
  rw [readScalar, if_neg hn, if_neg ht, if_neg hf, if_neg hquote, if_pos hfirst]
  cases readNumber (first :: more) <;> rfl

theorem outcome_readValue_printInt (value : Int) (rest : List Char) (d : Nat) :
    outcome (readValue d (printInt value ++ rest)) =
      (outcome (readNumber (printInt value ++ rest))).map fun number =>
        (.number number.1, number.2) := by
  obtain ⟨first, more, hprint, hfirst⟩ := exists_printInt value
  have hstart : isBlank first = false ∧ first ≠ '[' ∧ first ≠ '{' := by
    rcases hfirst with rfl | hdigit
    · decide
    · obtain ⟨hblank, hlist, hobject, -⟩ := isDigit_start hdigit
      exact ⟨hblank, hlist, hobject⟩
  obtain ⟨hblank, hlist, hobject⟩ := hstart
  have htext : printInt value ++ rest = first :: (more ++ rest) := by
    rw [hprint, List.cons_append]
  rw [outcome_readValue_scalar htext hblank hlist hobject, outcome_readScalar_number hfirst, htext]

theorem insert_last {name : String} {value : Json} {members : List (String × Json)}
    (h : ∀ member ∈ members, member.1 < name) :
    Table.insert name value members = members ++ [(name, value)] := by
  induction members with
  | nil => rfl
  | cons member members ih =>
      obtain ⟨hmember, hmembers⟩ := List.forall_mem_cons.mp h
      have hne : member.1 ≠ name := by
        intro heq
        rw [heq] at hmember
        exact String.lt_irrefl name hmember
      rw [Table.insert, if_neg (String.lt_asymm hmember), if_neg hne, ih hmembers]
      rfl

theorem ofPairs_ascending {members : List (String × Json)} (h : members.Pairwise (·.1 < ·.1)) :
    Table.ofPairs members = members := by
  have hfold (before later : List (String × Json))
      (hordered : (before ++ later).Pairwise (·.1 < ·.1)) :
      later.foldl (fun table (name, value) => Table.insert name value table) before =
        before ++ later := by
    induction later generalizing before with
    | nil => simp
    | cons member later ih =>
        have hbefore := (List.pairwise_append.mp hordered).2.2
        rw [List.foldl_cons]
        change List.foldl _ (Table.insert member.1 member.2 before) later = _
        rw [insert_last fun other hmem => hbefore other hmem member List.mem_cons_self]
        have hsplit : before ++ [member] ++ later = before ++ member :: later := by simp
        rw [← hsplit] at hordered ⊢
        exact ih _ hordered
  exact hfold [] members h

theorem Reads.items {item : Json} {items : List Json} {d : Nat} {rest more : List Char}
    {result : Except Fault (Json × List Char)} (hitem : Reads (item.depth ≤ d) item more result)
    (hitems : Reads (depthItems items ≤ d) items rest
      (outcome (readMoreItems (readValue d) more))) :
    Reads (depthItems (item :: items) ≤ d) (item :: items) rest
      (result.bind fun item => prepend item.1 (outcome (readMoreItems (readValue d) item.2))) :=
  (hitem.bind (hitems.map (item :: ·))).congr Nat.max_le

theorem Reads.members {name : String} {value : Json} {members : List (String × Json)} {d : Nat}
    {rest more : List Char} {result : Except Fault ((String × Json) × List Char)}
    (hvalue : Reads (value.depth ≤ d) (name, value) more result)
    (hmembers : Reads (depthMembers members ≤ d) members rest
      (outcome (readMoreMembers (readValue d) more))) :
    Reads (depthMembers ((name, value) :: members) ≤ d) ((name, value) :: members) rest
      (result.bind fun member =>
        prepend member.1 (outcome (readMoreMembers (readValue d) member.2))) :=
  (hvalue.bind (hmembers.map ((name, value) :: ·))).congr Nat.max_le

theorem outcome_readMember_print (name : String) (value : Json) (d : Nat) (rest : List Char) :
    outcome (readMember (readValue d)
        (name.toList.flatMap escapeChar ++ '"' :: ':' :: (value.print ++ rest))) =
      (outcome (readValue d (value.print ++ rest))).map fun result =>
        ((name, result.1), result.2) :=
  outcome_readMember (outcome_readString name _) rfl

mutual

theorem reads_print : (v : Json) → v.Exact → (d : Nat) → (rest : List Char) → Closed rest →
    Reads (v.depth ≤ d) v rest (outcome (readValue d (v.print ++ rest)))
  | .null, _, d, rest, _ => by
      refine .inl ⟨Nat.zero_le d, ?_⟩
      exact (outcome_readValue_scalar rfl rfl (by decide) (by decide)).trans rfl
  | .bool true, _, d, rest, _ => by
      refine .inl ⟨Nat.zero_le d, ?_⟩
      exact (outcome_readValue_scalar rfl rfl (by decide) (by decide)).trans rfl
  | .bool false, _, d, rest, _ => by
      refine .inl ⟨Nat.zero_le d, ?_⟩
      exact (outcome_readValue_scalar rfl rfl (by decide) (by decide)).trans rfl
  | .number (.integer value), hexact, d, rest, hrest => by
      refine .inl ⟨Nat.zero_le d, ?_⟩
      change outcome (readValue d (printInt value ++ rest)) = _
      rw [outcome_readValue_printInt, outcome_printInt hexact hrest]
      rfl
  | .number (.float _), hexact, _, _, _ => hexact.elim
  | .string value, _, d, rest, _ => .inl ⟨Nat.zero_le d, readScalar_string value rest d⟩
  | .array items, hexact, d, rest, _ => by
      have htext : (array items).print ++ rest = '[' :: (printItems items ++ ']' :: rest) := by
        simp [print]
      cases d with
      | zero => exact .inr ⟨nofun, outcome_readValue_deep htext (.inl rfl)⟩
      | succ d =>
          rw [outcome_readValue_array htext]
          refine (Reads.map ?_ Json.array).congr Nat.succ_le_succ_iff
          cases items with
          | nil => exact .inl ⟨Nat.zero_le d, outcome_readItems_end rfl⟩
          | cons item items =>
              obtain ⟨hitem, hitems⟩ := hexact
              have htext : printItems (item :: items) ++ ']' :: rest =
                  item.print ++ (closing items ++ rest) := by
                rw [List.append_cons, printItems_cons, List.append_assoc]
              rw [htext, outcome_readItems_print hitem.ne_float]
              exact (reads_print item hitem d _ (closed_closing items rest)).items
                (reads_closing items hitems d rest)
  | .object members, ⟨hexact, hordered⟩, d, rest, _ => by
      have htext : (object members).print ++ rest = '{' :: (printMembers members ++ '}' :: rest) := by
        simp [print]
      cases d with
      | zero => exact .inr ⟨nofun, outcome_readValue_deep htext (.inr rfl)⟩
      | succ d =>
          rw [outcome_readValue_object htext]
          have hread : Reads (depthMembers members ≤ d) members rest
              (outcome (readMembers (readValue d) (printMembers members ++ '}' :: rest))) := by
            cases members with
            | nil => exact .inl ⟨Nat.zero_le d, outcome_readMembers_end rfl⟩
            | cons member members =>
                obtain ⟨name, value⟩ := member
                obtain ⟨hvalue, hmembers⟩ := hexact
                have htext : printMembers ((name, value) :: members) ++ '}' :: rest =
                    '"' :: (name.toList.flatMap escapeChar ++
                      '"' :: ':' :: (value.print ++ (closingMembers members ++ rest))) := by
                  rw [List.append_cons, printMembers_cons]
                  simp [printString]
                have hread := reads_print value hvalue d _ (closed_closingMembers members rest)
                rw [outcome_readMembers htext, outcome_readMember_print]
                exact (hread.map (name, ·)).members (reads_closingMembers members hmembers d rest)
          have hobject := hread.map fun members => Json.object (Table.ofPairs members)
          rw [ofPairs_ascending hordered] at hobject
          exact hobject.congr Nat.succ_le_succ_iff

theorem reads_closing : (items : List Json) → ExactItems items → (d : Nat) → (rest : List Char) →
    Reads (depthItems items ≤ d) items rest
      (outcome (readMoreItems (readValue d) (closing items ++ rest)))
  | [], _, d, rest => .inl ⟨Nat.zero_le d, outcome_readMoreItems_end rfl⟩
  | item :: items, ⟨hitem, hitems⟩, d, rest => by
      have htext : closing (item :: items) ++ rest =
          ',' :: (item.print ++ (closing items ++ rest)) := by
        simp [closing]
      rw [htext, outcome_readMoreItems_print hitem.ne_float]
      exact (reads_print item hitem d _ (closed_closing items rest)).items
        (reads_closing items hitems d rest)

theorem reads_closingMembers : (members : List (String × Json)) → ExactMembers members →
    (d : Nat) → (rest : List Char) →
    Reads (depthMembers members ≤ d) members rest
      (outcome (readMoreMembers (readValue d) (closingMembers members ++ rest)))
  | [], _, d, rest => .inl ⟨Nat.zero_le d, outcome_readMoreMembers_end rfl⟩
  | (name, value) :: members, ⟨hvalue, hmembers⟩, d, rest => by
      have htext : closingMembers ((name, value) :: members) ++ rest =
          ',' :: '"' :: (name.toList.flatMap escapeChar ++
            '"' :: ':' :: (value.print ++ (closingMembers members ++ rest))) := by
        simp [closingMembers, printString]
      have hread := reads_print value hvalue d _ (closed_closingMembers members rest)
      rw [outcome_readMoreMembers_comma htext, outcome_readMember_print]
      exact (hread.map (name, ·)).members (reads_closingMembers members hmembers d rest)

end

/-! ## Texts -/

theorem parseChars_eq (text : List Char) :
    parseChars text = (outcome (readValue depthLimit text)).bind fun result =>
      match skipBlanks result.2 with
      | [] => .ok result.1
      | rest => .error (.front .trailingCharacters rest) := by
  unfold parseChars
  cases readValue depthLimit text <;> rfl

theorem parse_render_eq_ok {v read : Json} :
    parse v.render = .ok read ↔
      ∃ rest, outcome (readValue depthLimit v.print) = .ok (read, rest) ∧
        skipBlanks rest = [] := by
  rw [parse, render, String.toList_ofList, parseChars_eq]
  cases hread : outcome (readValue depthLimit v.print) with
  | error fault =>
      constructor
      · intro h
        contradiction
      · rintro ⟨rest, h, -⟩
        simp at h
  | ok result =>
      obtain ⟨value, rest⟩ := result
      simp only [Except.bind, Except.ok.injEq, Prod.mk.injEq]
      cases hskip : skipBlanks rest with
      | nil =>
          constructor
          · intro h
            exact ⟨rest, ⟨Except.ok.inj h, rfl⟩, hskip⟩
          · rintro ⟨_, ⟨rfl, rfl⟩, -⟩
            rfl
      | cons c after =>
          constructor
          · intro h
            contradiction
          · rintro ⟨_, ⟨rfl, rfl⟩, h⟩
            simp [hskip] at h

/-- What is printed is read back, unless it is nested too deep. -/
theorem parse_render {v : Json} (hexact : v.Exact) :
    (v.depth ≤ depthLimit ∧ parse v.render = .ok v) ∨
      (¬ v.depth ≤ depthLimit ∧ ∃ error, parse v.render = .error error) := by
  have hread := reads_print v hexact depthLimit [] .nil
  rw [List.append_nil] at hread
  rw [parse, render, String.toList_ofList, parseChars_eq]
  rcases hread with ⟨hfits, hread⟩ | ⟨hdeep, fault, hread⟩
  · exact .inl ⟨hfits, by rw [hread]; rfl⟩
  · exact .inr ⟨hdeep, _, by rw [hread]; rfl⟩

end ResumableSession.Json
