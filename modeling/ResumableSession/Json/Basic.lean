/-!
JSON values.

A number is either an integer or a double.  The two never meet: `1` and `1.0` are different
values.  An object is a list of members; the reader puts them in the order of their names, and
the printer keeps the order they have.
-/

namespace ResumableSession

inductive Json.Number where
  | integer (value : Int)
  | float (value : Float)
  deriving DecidableEq, Repr, Inhabited

inductive Json where
  | null
  | bool (value : Bool)
  | number (value : Json.Number)
  | string (value : String)
  | array (items : List Json)
  | object (members : List (String × Json))
  deriving Repr, Inhabited

namespace Json

/-! ## Equality -/

mutual

def decEq : (v w : Json) → Decidable (v = w)
  | .null, w => by cases w <;> first | exact isTrue rfl | exact isFalse nofun
  | .bool a, w =>
      match w with
      | .bool b => decidable_of_iff (a = b) ⟨congrArg _, Json.bool.inj⟩
      | .null | .number _ | .string _ | .array _ | .object _ => isFalse nofun
  | .number a, w =>
      match w with
      | .number b => decidable_of_iff (a = b) ⟨congrArg _, Json.number.inj⟩
      | .null | .bool _ | .string _ | .array _ | .object _ => isFalse nofun
  | .string a, w =>
      match w with
      | .string b => decidable_of_iff (a = b) ⟨congrArg _, Json.string.inj⟩
      | .null | .bool _ | .number _ | .array _ | .object _ => isFalse nofun
  | .array a, w =>
      match w with
      | .array b => @decidable_of_iff _ (a = b) ⟨congrArg _, Json.array.inj⟩ (decEqItems a b)
      | .null | .bool _ | .number _ | .string _ | .object _ => isFalse nofun
  | .object a, w =>
      match w with
      | .object b => @decidable_of_iff _ (a = b) ⟨congrArg _, Json.object.inj⟩ (decEqMembers a b)
      | .null | .bool _ | .number _ | .string _ | .array _ => isFalse nofun

def decEqItems : (vs ws : List Json) → Decidable (vs = ws)
  | [], [] => isTrue rfl
  | [], _ :: _ | _ :: _, [] => isFalse nofun
  | v :: vs, w :: ws =>
      match decEq v w, decEqItems vs ws with
      | isTrue h, isTrue hs => isTrue (h ▸ hs ▸ rfl)
      | isFalse h, _ => isFalse fun e => h (List.cons.inj e).1
      | _, isFalse hs => isFalse fun e => hs (List.cons.inj e).2

def decEqMembers : (vs ws : List (String × Json)) → Decidable (vs = ws)
  | [], [] => isTrue rfl
  | [], _ :: _ | _ :: _, [] => isFalse nofun
  | (k, v) :: vs, (l, w) :: ws =>
      match decEq v w, decEqMembers vs ws with
      | isTrue h, isTrue hs =>
          if hk : k = l then isTrue (hk ▸ h ▸ hs ▸ rfl)
          else isFalse fun e => hk (Prod.mk.inj (List.cons.inj e).1).1
      | isFalse h, _ => isFalse fun e => h (Prod.mk.inj (List.cons.inj e).1).2
      | _, isFalse hs => isFalse fun e => hs (List.cons.inj e).2

end

instance : DecidableEq Json := decEq

/-! ## Views -/

def ofNat (n : Nat) : Json :=
  .number (.integer n)

def asString? : Json → Option String
  | .string value => some value
  | _ => none

/-- A value that is an integer, not negative, and fits a word of 64 bits. -/
def asNat? : Json → Option Nat
  | .number (.integer (.ofNat n)) => if n < UInt64.size then some n else none
  | _ => none

@[simp] theorem asNat?_ofNat {n : Nat} (h : n < UInt64.size) : (ofNat n).asNat? = some n :=
  if_pos h

end Json

end ResumableSession
