import ResumableSession.Proofs.Json.Outcome
import ResumableSession.Proofs.Json.Printing

/-!
Strings that are printed and read back.
-/

namespace ResumableSession.Json

variable {c : Char} {text rest more : List Char}

theorem outcome_readStringBody_plain (htext : text = c :: rest) (hvisible : ' ' ≤ c)
    (hquote : c ≠ '"') (hbackslash : c ≠ '\\') :
    outcome (readStringBody text) = prepend c (outcome (readStringBody rest)) := by
  rw [readStringBody.eq_def text]
  split
  · contradiction
  · exact absurd (List.cons.inj htext).1.symm hquote
  · exact absurd (List.cons.inj htext).1.symm hbackslash
  · next d more _ _ =>
      obtain ⟨rfl, rfl⟩ := List.cons.inj htext
      rw [if_neg (Char.not_lt.mpr hvisible)]
      cases readStringBody more <;> rfl

theorem outcome_readStringBody_escape (htext : text = '\\' :: rest)
    (hescape : outcome (readEscape rest) = .ok (c, more)) :
    outcome (readStringBody text) = prepend c (outcome (readStringBody more)) := by
  rw [readStringBody.eq_def text]
  split
  · contradiction
  · exact absurd (List.cons.inj htext).1 (by decide)
  · obtain rfl := (List.cons.inj htext).2
    obtain ⟨shorter, hread⟩ := outcome_eq_ok hescape
    rw [hread]
    change outcome (do let body ← readStringBody more; _) = _
    cases readStringBody more <;> rfl
  · next hbackslash => exact absurd (List.cons.inj htext).1 hbackslash

theorem outcome_readStringBody_end (htext : text = '"' :: rest) :
    outcome (readStringBody text) = .ok ([], rest) := by
  rw [readStringBody.eq_def text]
  split
  · contradiction
  · obtain rfl := (List.cons.inj htext).2
    rfl
  · exact absurd (List.cons.inj htext).1 (by decide)
  · next hquote _ => exact absurd (List.cons.inj htext).1 hquote

/-! ## Escapes -/

theorem outcome_readEscape_short {letter : Char} (htext : text = letter :: rest)
    (hletter : shortEscape? letter = some c) : outcome (readEscape text) = .ok (c, rest) := by
  unfold readEscape
  split
  · contradiction
  · obtain rfl := (List.cons.inj htext).1
    contradiction
  · obtain ⟨rfl, rfl⟩ := List.cons.inj htext
    split
    · next d hd =>
        obtain rfl := Option.some.inj (hd.symm.trans hletter)
        rfl
    · next hnone => exact nomatch hnone.symm.trans hletter

theorem hexValue?_digitChar : ∀ d < 16, hexValue? (Nat.digitChar d) = some d := by
  decide

theorem outcome_readHex {high low : Char} {a b : Nat} (hhigh : hexValue? high = some a)
    (hlow : hexValue? low = some b) (rest : List Char) :
    outcome (readHex ('0' :: '0' :: high :: low :: rest)) = .ok (a * 16 + b, rest) := by
  have hlength : ¬ byteLength (('0' :: '0' :: high :: low :: rest).take 4) < 4 := by
    have := high.utf8Size_pos
    have := low.utf8Size_pos
    have : '0'.utf8Size = 1 := rfl
    simp only [List.take_succ_cons, List.take_zero, byteLength]
    omega
  have hzero : hexValue? '0' = some 0 := rfl
  unfold readHex
  rw [if_neg hlength]
  simp [hhigh, hlow, hzero, outcome, Except.map]

theorem outcome_readEscape_numbered (hcontrol : c < ' ')
    (htext : text = 'u' :: '0' :: '0' :: Nat.digitChar (c.toNat / 16) ::
      Nat.digitChar (c.toNat % 16) :: rest) :
    outcome (readEscape text) = .ok (c, rest) := by
  have hsmall : c.toNat < 32 := hcontrol
  have hhigh := hexValue?_digitChar (c.toNat / 16) (by omega)
  have hlow := hexValue?_digitChar (c.toNat % 16) (by omega)
  obtain ⟨shorter, hread⟩ := outcome_eq_ok (outcome_readHex hhigh hlow rest)
  have hunit : c.toNat / 16 * 16 + c.toNat % 16 = c.toNat := by omega
  have hunpaired : isLowSurrogate c.toNat = false ∧ isHighSurrogate c.toNat = false := by
    simp only [isLowSurrogate, isHighSurrogate, Bool.and_eq_false_iff, decide_eq_false_iff_not]
    omega
  subst htext
  simp [readEscape, readNumberedEscape, hread, hunit, hunpaired, bind, Except.bind, outcome,
    Except.map, Parsed.map, Parsed.behind, Parsed.within, Char.ofNat_toNat]

/-! ## Strings -/

theorem outcome_readStringBody_escapeChar (c : Char) (rest : List Char) :
    outcome (readStringBody (escapeChar c ++ rest)) =
      prepend c (outcome (readStringBody rest)) := by
  have hescape := escape_escapeChar c
  generalize escapeChar c = text at hescape
  cases hescape with
  | short letter names =>
      exact outcome_readStringBody_escape rfl (outcome_readEscape_short rfl names)
  | numbered control =>
      exact outcome_readStringBody_escape rfl (outcome_readEscape_numbered control rfl)
  | plain visible quote backslash =>
      exact outcome_readStringBody_plain rfl visible quote backslash

theorem outcome_readStringBody (chars rest : List Char) :
    outcome (readStringBody (chars.flatMap escapeChar ++ '"' :: rest)) = .ok (chars, rest) := by
  induction chars with
  | nil => exact outcome_readStringBody_end rfl
  | cons c chars ih =>
      rw [List.flatMap_cons, List.append_assoc, outcome_readStringBody_escapeChar, ih]
      rfl

theorem outcome_readString (value : String) (rest : List Char) :
    outcome (readString (value.toList.flatMap escapeChar ++ '"' :: rest)) = .ok (value, rest) := by
  obtain ⟨shorter, hread⟩ := outcome_eq_ok (outcome_readStringBody value.toList rest)
  simp only [readString, hread]
  exact congrArg (fun text => Except.ok (text, rest)) String.ofList_toList

end ResumableSession.Json
