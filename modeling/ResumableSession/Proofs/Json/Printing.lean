import ResumableSession.Json.Printer
import ResumableSession.Json.StringReader

/-!
What the printer writes holds no control character.
-/

namespace ResumableSession

def Visible (text : List Char) : Prop :=
  ∀ c ∈ text, ' ' ≤ c

namespace Visible

variable {c : Char} {text more : List Char}

@[simp] theorem nil : Visible [] := nofun

@[simp] theorem cons_iff : Visible (c :: text) ↔ ' ' ≤ c ∧ Visible text :=
  List.forall_mem_cons

@[simp] theorem append_iff : Visible (text ++ more) ↔ Visible text ∧ Visible more :=
  List.forall_mem_append

theorem sublist (h : Visible text) (hsub : more.Sublist text) : Visible more :=
  fun c hmem => h c (hsub.mem hmem)

theorem newline_not_mem (h : Visible text) : '\n' ∉ text := by
  intro hmem
  have := h _ hmem
  contradiction

end Visible

theorem visible_of_isDigit {c : Char} (h : c.isDigit) : ' ' ≤ c := by
  have hdigit := Char.isDigit_iff_toNat.mp h
  change ' '.toNat ≤ c.toNat
  exact Nat.le_trans (by decide) hdigit.1

theorem visible_toDigits (n : Nat) : Visible (Nat.toDigits 10 n) := fun _ hmem =>
  visible_of_isDigit (Nat.isDigit_of_mem_toDigits (by decide) (by decide) hmem)

namespace Decimal

theorem visible_significant (digits : Nat) : Visible (significant digits) := by
  have hsub : ((Nat.toDigits 10 digits).reverse.dropWhile (· == '0')).Sublist
      (Nat.toDigits 10 digits).reverse := List.dropWhile_sublist _
  have hsub := hsub.reverse
  rw [List.reverse_reverse] at hsub
  exact (visible_toDigits digits).sublist hsub

theorem visible_zeros (count : Nat) : Visible (List.replicate count '0') := by
  intro c hmem
  rw [(List.mem_replicate.mp hmem).2]
  decide

theorem visible_positional {digits : List Char} (h : Visible digits) (lead : Int) :
    Visible (positional digits lead) := by
  unfold positional
  split
  · simp [visible_zeros, h]
  · have hwhole := h.sublist (List.take_sublist (lead.toNat + 1) digits)
    have hplaces := h.sublist (List.drop_sublist (lead.toNat + 1) digits)
    simp only
    split <;> simp [visible_zeros, hwhole, hplaces]

theorem visible_scientific {digits : List Char} (h : Visible digits) (lead : Int) :
    Visible (scientific digits lead) := by
  have hexponent : Visible ('e' :: (if lead < 0 then '-' else '+') ::
      Nat.toDigits 10 lead.natAbs) := by
    split <;> simp [visible_toDigits]
  unfold scientific
  match digits with
  | [] => exact hexponent
  | [digit] => simp_all
  | digit :: second :: rest => simp_all

theorem visible_write (layout : Layout) (d : Scaled) : Visible (layout.write d) := by
  have hdigits := visible_significant d.digits
  simp only [Layout.write]
  split
  · exact visible_positional hdigits _
  · exact visible_scientific hdigits _

end Decimal

namespace Json

theorem visible_printMagnitude (field fraction : Nat) : Visible (printMagnitude field fraction) := by
  unfold printMagnitude
  split
  · split
    · simp
    · exact Decimal.visible_write _ _
  · exact Decimal.visible_write _ _

theorem Number.visible_print (n : Number) : Visible n.print := by
  cases n with
  | integer value =>
      simp only [Number.print, printInt]
      split <;> simp [visible_toDigits]
  | float value =>
      simp only [Number.print, printFloat]
      split
      · simp
      · split <;> simp [visible_printMagnitude]

/-! ## Strings -/

inductive Escape (c : Char) : List Char → Prop where
  | short (letter : Char) (names : shortEscape? letter = some c) : Escape c ['\\', letter]
  | numbered (control : c < ' ') : Escape c (escapeByNumber c)
  | plain (visible : ' ' ≤ c) (quote : c ≠ '"') (backslash : c ≠ '\\') : Escape c [c]

theorem escape_escapeChar (c : Char) : Escape c (escapeChar c) := by
  unfold escapeChar
  split
  · next h => exact h ▸ .short '"' rfl
  · next hquote =>
      split
      · next h => exact h ▸ .short '\\' rfl
      · next hbackslash =>
          repeat
            split
            · next h => exact h ▸ .short _ rfl
          split
          · next hcontrol => exact .numbered hcontrol
          · next hcontrol => exact .plain (Char.not_lt.mp hcontrol) hquote hbackslash

theorem visible_digitChar : ∀ d < 16, ' ' ≤ Nat.digitChar d := by
  decide

theorem visible_escapeChar (c : Char) : Visible (escapeChar c) := by
  have hescape := escape_escapeChar c
  generalize escapeChar c = text at hescape
  cases hescape with
  | short letter names =>
      have hletter : ' ' ≤ letter := by
        unfold shortEscape? at names
        split at names <;> first | decide | contradiction
      simp [hletter]
  | numbered control =>
      have hsmall : c.toNat < 32 := control
      have hhigh := visible_digitChar (c.toNat / 16) (by omega)
      have hlow := visible_digitChar (c.toNat % 16) (by omega)
      simp [escapeByNumber, hhigh, hlow]
  | plain visible => simp [visible]

theorem visible_printString (text : String) : Visible (printString text) := by
  simp only [printString, List.cons_append, Visible.cons_iff, Visible.append_iff]
  refine ⟨by decide, ?_, by simp⟩
  intro c hmem
  obtain ⟨d, -, hd⟩ := List.mem_flatMap.mp hmem
  exact visible_escapeChar d c hd

/-! ## Values -/

mutual

theorem visible_print : (v : Json) → Visible v.print
  | .null => by simp [print]
  | .bool true => by simp [print]
  | .bool false => by simp [print]
  | .number value => by
      rw [print]
      exact value.visible_print
  | .string value => by
      rw [print]
      exact visible_printString value
  | .array items => by
      have := visible_printItems items
      simp [print, this]
  | .object members => by
      have := visible_printMembers members
      simp [print, this]

theorem visible_printItems : (items : List Json) → Visible (printItems items)
  | [] => by simp [printItems]
  | [item] => by
      rw [printItems]
      exact visible_print item
  | item :: second :: rest => by
      have hitem := visible_print item
      have hrest := visible_printItems (second :: rest)
      simp [printItems, hitem, hrest]

theorem visible_printMembers : (members : List (String × Json)) → Visible (printMembers members)
  | [] => by simp [printMembers]
  | [(name, value)] => by
      have hname := visible_printString name
      have hvalue := visible_print value
      simp [printMembers, hname, hvalue]
  | (name, value) :: second :: rest => by
      have hname := visible_printString name
      have hvalue := visible_print value
      have hrest := visible_printMembers (second :: rest)
      simp [printMembers, hname, hvalue, hrest]

end

theorem visible_render (v : Json) : Visible v.render.toList := by
  rw [render, String.toList_ofList]
  exact visible_print v

end Json

end ResumableSession
