import ResumableSession.Json.NumberReader
import ResumableSession.Json.Printer
import ResumableSession.Proofs.Json.Outcome

/-!
Integers that are printed and read back.

An integer that fits a word is read as it was printed.  One that does not is read as a double,
or not at all, but never as another integer.  Nothing else is read as an integer either, unless
it is negative: no point, no exponent and no zero in front.
-/

namespace ResumableSession.Json

def Closed (rest : List Char) : Prop :=
  ∀ c more, rest = c :: more → c = ',' ∨ c = ']' ∨ c = '}'

namespace Closed

theorem nil : Closed [] := nofun

theorem cons {c : Char} {more : List Char} (h : c = ',' ∨ c = ']' ∨ c = '}') :
    Closed (c :: more) := by
  intro d rest heq
  obtain ⟨rfl, -⟩ := List.cons.inj heq
  exact h

end Closed

def Stops (rest : List Char) : Prop :=
  ∀ c more, rest = c :: more → c.isDigit = false ∧ c ≠ '.' ∧ c ≠ 'e' ∧ c ≠ 'E'

theorem Closed.stops {rest : List Char} (h : Closed rest) : Stops rest := by
  intro c more hrest
  rcases h c more hrest with rfl | rfl | rfl <;> decide

/-! ## Digits -/

theorem takeWhile_digits {digits rest : List Char} (hdigits : ∀ c ∈ digits, c.isDigit)
    (hrest : Stops rest) : digitsOf (digits ++ rest) = digits ∧
      afterDigits (digits ++ rest) = rest := by
  rw [digitsOf, afterDigits, List.takeWhile_append_of_pos hdigits,
    List.dropWhile_append_of_pos hdigits]
  cases rest with
  | nil => simp
  | cons c more => simp [(hrest c more rfl).1]

theorem toDigits_zero_cons {n : Nat} {more : List Char} (h : Nat.toDigits 10 n = '0' :: more) :
    more = [] := by
  induction n using Nat.strongRecOn generalizing more with
  | ind n ih =>
      rcases Nat.lt_or_ge n 10 with hlt | hge
      · rw [Nat.toDigits_of_lt_base hlt] at h
        exact (List.cons.inj h).2.symm
      · rw [Nat.toDigits_of_base_le (by decide) hge] at h
        cases hfirst : Nat.toDigits 10 (n / 10) with
        | nil => exact absurd hfirst Nat.toDigits_ne_nil
        | cons c digits =>
            rw [hfirst, List.cons_append] at h
            obtain ⟨rfl, -⟩ := List.cons.inj h
            obtain rfl := ih (n / 10) (by omega) hfirst
            have hsmall := congrArg (Nat.ofDigitChars 10 · 0) hfirst
            simp [Nat.ofDigitChars_cons] at hsmall
            omega

theorem digitValue_lt {c : Char} (hc : c.isDigit) : digitValue c < 10 := by
  obtain ⟨hlow, hhigh⟩ := Char.isDigit_iff_toNat.mp hc
  simp [digitValue] at hlow hhigh ⊢
  omega

theorem digitChar_digitValue {c : Char} (hc : c.isDigit) : (digitValue c).digitChar = c := by
  obtain ⟨hlow, -⟩ := Char.isDigit_iff_toNat.mp hc
  apply Char.toNat_inj.mp
  rw [Nat.toNat_digitChar_of_lt_ten (digitValue_lt hc)]
  simp [digitValue] at hlow ⊢
  omega

theorem toDigits_digitValue {c : Char} (hc : c.isDigit) :
    Nat.toDigits 10 (digitValue c) = [c] := by
  rw [Nat.toDigits_of_lt_base (digitValue_lt hc), digitChar_digitValue hc]

theorem toDigits_ofDigitChars_of_pos (digits : List Char) {n : Nat} (hn : 0 < n)
    (hdigits : ∀ c ∈ digits, c.isDigit) :
    Nat.toDigits 10 (Nat.ofDigitChars 10 digits n) = Nat.toDigits 10 n ++ digits := by
  induction digits generalizing n with
  | nil => simp
  | cons c digits ih =>
      obtain ⟨hc, hmore⟩ := List.forall_mem_cons.mp hdigits
      have happend := Nat.toDigits_append_toDigits (b := 10) (by decide) hn (digitValue_lt hc)
      rw [toDigits_digitValue hc] at happend
      rw [Nat.ofDigitChars_cons]
      change Nat.toDigits 10 (Nat.ofDigitChars 10 digits (10 * n + digitValue c)) = _
      rw [ih (by omega) hmore, ← happend, List.append_assoc]
      rfl

theorem toDigits_ofDigitChars {c : Char} {more : List Char}
    (hdigits : ∀ d ∈ c :: more, d.isDigit) (hzero : c = '0' → more = []) :
    Nat.toDigits 10 (Nat.ofDigitChars 10 (c :: more) 0) = c :: more := by
  obtain ⟨hc, hmore⟩ := List.forall_mem_cons.mp hdigits
  have hvalue : Nat.ofDigitChars 10 (c :: more) 0 = Nat.ofDigitChars 10 more (digitValue c) := by
    rw [Nat.ofDigitChars_cons, Nat.mul_zero, Nat.zero_add, digitValue]
  rw [hvalue]
  rcases Nat.eq_zero_or_pos (digitValue c) with hfirst | hfirst
  · have hc0 : c = '0' := by rw [← digitChar_digitValue hc, hfirst]; rfl
    rw [hzero hc0, Nat.ofDigitChars_nil, toDigits_digitValue hc]
  · rw [toDigits_ofDigitChars_of_pos more hfirst hmore, toDigits_digitValue hc]
    rfl

theorem le_ofDigitChars (digits : List Char) (n : Nat) : n ≤ Nat.ofDigitChars 10 digits n := by
  induction digits generalizing n with
  | nil => simp
  | cons c digits ih =>
      rw [Nat.ofDigitChars_cons]
      have := ih (10 * n + (c.toNat - '0'.toNat))
      omega

theorem gather_ofDigitChars {limit : Nat} (digits : List Char) {n : Nat} (hn : n < limit) :
    if Nat.ofDigitChars 10 digits n < limit then
      gather limit n digits = (Nat.ofDigitChars 10 digits n, [])
    else (gather limit n digits).2 ≠ [] := by
  induction digits generalizing n with
  | nil =>
      rw [Nat.ofDigitChars_nil, if_pos hn]
      rfl
  | cons c digits ih =>
      have hvalue : n * 10 + digitValue c = 10 * n + (c.toNat - '0'.toNat) := by
        rw [Nat.mul_comm, digitValue]
      rw [gather, Nat.ofDigitChars_cons, ← hvalue]
      by_cases hfits : n * 10 + digitValue c < limit
      · rw [if_pos hfits]
        exact ih hfits
      · have := le_ofDigitChars digits (n * 10 + digitValue c)
        rw [if_neg hfits, if_neg (by omega)]
        exact nofun

/-! ## Numbers -/

variable {negative : Bool} {n : Nat} {rest : List Char}

theorem readUnsigned_toDigits (hrest : Stops rest) :
    readUnsigned negative (Nat.toDigits 10 n ++ rest) =
      readAfterWhole negative (gatherWhole (Nat.toDigits 10 n)) rest := by
  have hall : ∀ c ∈ Nat.toDigits 10 n, c.isDigit := fun _ hmem =>
    Nat.isDigit_of_mem_toDigits (by decide) (by decide) hmem
  cases hdigits : Nat.toDigits 10 n with
  | nil => exact absurd hdigits Nat.toDigits_ne_nil
  | cons c digits =>
      rw [hdigits] at hall
      obtain ⟨hc, hmore⟩ := List.forall_mem_cons.mp hall
      obtain ⟨htake, hdrop⟩ := takeWhile_digits hall hrest
      have hzero : ¬ (c = '0' ∧ (digitsOf (digits ++ rest)).length ≠ 0) := by
        rintro ⟨rfl, hlength⟩
        rw [(takeWhile_digits hmore hrest).1, toDigits_zero_cons hdigits] at hlength
        exact hlength rfl
      rw [List.cons_append] at htake hdrop ⊢
      rw [readUnsigned, if_neg hzero, if_pos hc, htake, hdrop]

theorem readAfterWhole_stops (whole : Gathered) (hrest : Stops rest) :
    readAfterWhole negative whole rest =
      if whole.exponent = 0 then .ok (ofWhole negative whole.significand, rest)
      else finishFloat negative whole rest := by
  unfold readAfterWhole
  split
  · next more => simpa using hrest '.' more rfl
  · next more => simpa using hrest 'e' more rfl
  · next more => simpa using hrest 'E' more rfl
  · rfl

theorem gatherWhole_toDigits (n : Nat) :
    if n < UInt64.size then gatherWhole (Nat.toDigits 10 n) = ⟨n, 0⟩
    else (gatherWhole (Nat.toDigits 10 n)).exponent ≠ 0 := by
  have hgather := @gather_ofDigitChars UInt64.size (Nat.toDigits 10 n) 0 (by decide)
  rw [Nat.ofDigitChars_ten_toDigits] at hgather
  split at hgather
  · next hfits =>
      rw [if_pos hfits, gatherWhole, hgather]
      rfl
  · next hlarge =>
      rw [if_neg hlarge, gatherWhole]
      simpa using hgather

theorem readUnsigned_fits (hrest : Stops rest) (hfits : n < UInt64.size) :
    readUnsigned negative (Nat.toDigits 10 n ++ rest) = .ok (ofWhole negative n, rest) := by
  have hwhole := gatherWhole_toDigits n
  rw [if_pos hfits] at hwhole
  rw [readUnsigned_toDigits hrest, hwhole, readAfterWhole_stops _ hrest]
  exact if_pos rfl

theorem readUnsigned_large (hrest : Closed rest) (hlarge : ¬ n < UInt64.size) :
    (∃ x, readUnsigned negative (Nat.toDigits 10 n ++ rest) = .ok (.float x, rest)) ∨
      ∃ fault, readUnsigned negative (Nat.toDigits 10 n ++ rest) = .error fault := by
  have hwhole := gatherWhole_toDigits n
  rw [if_neg hlarge] at hwhole
  rw [readUnsigned_toDigits hrest.stops, readAfterWhole_stops _ hrest.stops, if_neg hwhole]
  unfold finishFloat
  split
  · next x _ => exact .inl ⟨x, rfl⟩
  · exact .inr ⟨_, rfl⟩

theorem outcome_readNumber_minus {text digits : List Char} (htext : text = '-' :: digits) :
    outcome (readNumber text) = readUnsigned true digits := by
  unfold readNumber
  split
  · obtain rfl := (List.cons.inj htext).2
    split
    · next h => exact h.symm
    · next h => exact h.symm
  · next hminus => exact absurd htext (hminus digits)

theorem outcome_readNumber {text : List Char} (htext : ∀ digits, text ≠ '-' :: digits) :
    outcome (readNumber text) = readUnsigned false text := by
  unfold readNumber
  split
  · next digits => exact absurd rfl (htext digits)
  · split
    · next h => exact h.symm
    · next h => exact h.symm

theorem outcome_readNumber_toDigits (n : Nat) (rest : List Char) :
    outcome (readNumber (Nat.toDigits 10 n ++ rest)) =
      readUnsigned false (Nat.toDigits 10 n ++ rest) := by
  apply outcome_readNumber
  intro digits htext
  cases hdigits : Nat.toDigits 10 n with
  | nil => exact absurd hdigits Nat.toDigits_ne_nil
  | cons c more =>
      have hminus : '-' ∈ Nat.toDigits 10 n := by
        rw [hdigits, List.cons_append] at htext
        rw [hdigits, (List.cons.inj htext).1]
        exact List.mem_cons_self
      exact nomatch Nat.isDigit_of_mem_toDigits (by decide) (by decide) hminus

def Word (value : Int) : Prop :=
  -leastSize ≤ value ∧ value < UInt64.size

theorem word_natCast {n : Nat} : Word n ↔ n < UInt64.size := by
  simp only [Word, leastSize]
  omega

theorem outcome_printInt {value : Int} (hword : Word value) (hrest : Closed rest) :
    outcome (readNumber (printInt value ++ rest)) = .ok (.integer value, rest) := by
  obtain ⟨hlow, hhigh⟩ := hword
  simp only [leastSize, UInt64.size] at hlow hhigh
  by_cases hnegative : value < 0
  · have hfits : value.natAbs < UInt64.size := by
      simp only [UInt64.size]
      omega
    have hsize : ¬ (value.natAbs = 0 ∨ leastSize < value.natAbs) := by
      simp only [leastSize]
      omega
    have hvalue : -(value.natAbs : Int) = value := by omega
    rw [printInt, if_pos hnegative, outcome_readNumber_minus (List.cons_append ..),
      readUnsigned_fits hrest.stops hfits, ofWhole, if_pos rfl, if_neg hsize, hvalue]
  · have hfits : value.natAbs < UInt64.size := by
      simp only [UInt64.size]
      omega
    have hvalue : (value.natAbs : Int) = value := by omega
    rw [printInt, if_neg hnegative, outcome_readNumber_toDigits, readUnsigned_fits hrest.stops hfits,
      ofWhole, if_neg nofun, hvalue]

/-! ## The spelling of an integer -/

variable {text : List Char} {g whole : Gathered} {number : Number}

theorem finishFloat_float (h : finishFloat negative g text = .ok (number, rest)) :
    ∃ x, number = .float x := by
  unfold finishFloat at h
  split at h
  · next x _ => exact ⟨x, (Prod.mk.inj (Except.ok.inj h)).1.symm⟩
  · contradiction

theorem readExponent_float (h : readExponent negative g text = .ok (number, rest)) :
    ∃ x, number = .float x := by
  have hdigits (down : Bool) (digits : List Char)
      (h : readExponentDigits negative down g digits = .ok (number, rest)) :
      ∃ x, number = .float x := by
    unfold readExponentDigits at h
    split at h
    · contradiction
    · split at h
      · split at h
        · exact finishFloat_float h
        · split at h
          · contradiction
          · exact ⟨_, (Prod.mk.inj (Except.ok.inj h)).1.symm⟩
      · contradiction
  unfold readExponent at h
  split at h <;> exact hdigits _ _ h

theorem readPlaces_float (h : readPlaces negative whole text = .ok (number, rest)) :
    ∃ x, number = .float x := by
  unfold readPlaces at h
  split at h
  · contradiction
  · split at h
    · unfold readAfterPlaces at h
      split at h
      · exact readExponent_float h
      · exact readExponent_float h
      · exact finishFloat_float h
    · contradiction

theorem readAfterWhole_integer {value : Int}
    (h : readAfterWhole negative whole text = .ok (.integer value, rest)) :
    whole.exponent = 0 ∧ ofWhole negative whole.significand = .integer value ∧ rest = text ∧
      ∀ c more, text = c :: more → c ≠ '.' ∧ c ≠ 'e' ∧ c ≠ 'E' := by
  unfold readAfterWhole at h
  split at h
  · exact nomatch readPlaces_float h
  · exact nomatch readExponent_float h
  · exact nomatch readExponent_float h
  · next hpoint he hE =>
      split at h
      · next hexponent =>
          obtain ⟨hvalue, rfl⟩ := Prod.mk.inj (Except.ok.inj h)
          refine ⟨hexponent, hvalue, rfl, ?_⟩
          rintro c more rfl
          exact ⟨fun hc => hpoint more (hc ▸ rfl), fun hc => he more (hc ▸ rfl),
            fun hc => hE more (hc ▸ rfl)⟩
      · exact nomatch finishFloat_float h

theorem stops_afterDigits
    (h : ∀ c more, afterDigits text = c :: more → c ≠ '.' ∧ c ≠ 'e' ∧ c ≠ 'E') :
    Stops (afterDigits text) := by
  intro c more hrest
  refine ⟨?_, h c more hrest⟩
  have hhead := List.head?_dropWhile_not Char.isDigit text
  rw [afterDigits] at hrest
  rw [hrest] at hhead
  exact hhead

theorem gatherWhole_digitsOf {c : Char} {tail : List Char} (hdigit : c.isDigit)
    (hzero : ¬ (c = '0' ∧ (digitsOf tail).length ≠ 0))
    (hexponent : (gatherWhole (digitsOf (c :: tail))).exponent = 0) :
    ∃ n < UInt64.size, digitsOf (c :: tail) = Nat.toDigits 10 n ∧
      (gatherWhole (digitsOf (c :: tail))).significand = n := by
  have hall : ∀ d ∈ digitsOf (c :: tail), d.isDigit := List.all_eq_true.mp List.all_takeWhile
  have hfirst : digitsOf (c :: tail) = c :: digitsOf tail := List.takeWhile_cons_of_pos hdigit
  have hspelled : Nat.toDigits 10 (Nat.ofDigitChars 10 (digitsOf (c :: tail)) 0) =
      digitsOf (c :: tail) := by
    rw [hfirst] at hall ⊢
    exact toDigits_ofDigitChars hall fun hc => by simpa [hc] using hzero
  have hwhole := gatherWhole_toDigits (Nat.ofDigitChars 10 (digitsOf (c :: tail)) 0)
  rw [hspelled] at hwhole
  split at hwhole
  · next hfits => exact ⟨_, hfits, hspelled.symm, by rw [hwhole]⟩
  · exact absurd hexponent hwhole

theorem readUnsigned_integer {value : Int}
    (h : readUnsigned negative text = .ok (.integer value, rest)) :
    ∃ n < UInt64.size, text = Nat.toDigits 10 n ++ rest ∧ Stops rest ∧
      ofWhole negative n = .integer value := by
  unfold readUnsigned at h
  split at h
  · contradiction
  · next c tail =>
      split at h
      · contradiction
      · next hzero =>
          split at h
          · next hc =>
              obtain ⟨hexponent, hvalue, rfl, hend⟩ := readAfterWhole_integer h
              obtain ⟨n, hfits, hspelled, hsize⟩ := gatherWhole_digitsOf hc hzero hexponent
              rw [hsize] at hvalue
              refine ⟨n, hfits, ?_, stops_afterDigits hend, hvalue⟩
              rw [← hspelled]
              exact List.takeWhile_append_dropWhile.symm
          · contradiction

theorem readNumber_natural {n : Nat} :
    outcome (readNumber text) = .ok (.integer n, rest) ↔
      n < UInt64.size ∧ text = Nat.toDigits 10 n ++ rest ∧ Stops rest := by
  constructor
  · intro h
    by_cases hminus : ∃ digits, text = '-' :: digits
    · obtain ⟨digits, hdigits⟩ := hminus
      rw [outcome_readNumber_minus hdigits] at h
      obtain ⟨m, -, -, -, hvalue⟩ := readUnsigned_integer h
      -- a minus sign leads to a negative integer or to a double
      rw [ofWhole, if_pos rfl] at hvalue
      split at hvalue
      · contradiction
      · have := Number.integer.inj hvalue
        omega
    · rw [outcome_readNumber fun digits hdigits => hminus ⟨digits, hdigits⟩] at h
      obtain ⟨m, hfits, htext, hrest, hvalue⟩ := readUnsigned_integer h
      obtain rfl : m = n := Int.ofNat.inj (Number.integer.inj hvalue)
      exact ⟨hfits, htext, hrest⟩
  · rintro ⟨hfits, rfl, hrest⟩
    rw [outcome_readNumber_toDigits, readUnsigned_fits hrest hfits]
    rfl

end ResumableSession.Json
