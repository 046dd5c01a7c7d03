import ResumableSession.Json.NumberReader
import ResumableSession.Json.StringReader
import ResumableSession.Table

/-!
Reading JSON.

`parse` accepts one value with blanks around it.  Lists and objects may stand inside each other
up to `depthLimit` deep.  Of two members with one name an object keeps the later.
-/

namespace ResumableSession.Json

/-- How many lists and objects may be open at once. -/
def depthLimit : Nat := 127

def readLetters (value : Json) : (letters text : List Char) → Except Fault (Json × List Char)
  | [], text => .ok (value, text)
  | _ :: _, [] => .error (.at .unfinishedValue [])
  | letter :: letters, c :: rest =>
      if c = letter then readLetters value letters rest
      else .error (.front .expectedIdent (c :: rest))

theorem length_readLetters_le {value v : Json} {letters text rest : List Char}
    (h : readLetters value letters text = .ok (v, rest)) : rest.length ≤ text.length := by
  fun_induction readLetters value letters text with
  | case1 => exact Nat.le_of_eq (congrArg List.length (Prod.mk.inj (Except.ok.inj h)).2.symm)
  | case2 => contradiction
  | case3 _ _ _ ih => exact Nat.le_succ_of_le (ih h)
  | case4 => contradiction

def readWord (value : Json) (letters : List Char) (first : Char) (text : List Char) :
    Reading Json (first :: text) :=
  match h : readLetters value letters text with
  | .ok (v, rest) => .ok ⟨v, rest, Nat.lt_succ_of_le (length_readLetters_le h)⟩
  | .error fault => .error fault

def readScalar (first : Char) (text : List Char) : Reading Json (first :: text) :=
  if first = 'n' then readWord .null ['u', 'l', 'l'] first text
  else if first = 't' then readWord (.bool true) ['r', 'u', 'e'] first text
  else if first = 'f' then readWord (.bool false) ['a', 'l', 's', 'e'] first text
  else if first = '"' then do
    let s ← readString text
    .ok ((s.map .string).behind first)
  else if first = '-' ∨ first.isDigit then do
    let n ← readNumber (first :: text)
    .ok (n.map .number)
  else .error (.front .expectedValue (first :: text))

/-! ## Lists -/

section Lists

variable (readItem : (text : List Char) → Reading Json text)

def readMoreItems (text : List Char) : Reading (List Json) text :=
  match h : skipBlanks text with
  | [] => .error (.at .unfinishedList [])
  | ']' :: rest => .ok ⟨[], rest, length_lt_of_skipBlanks h⟩
  | ',' :: rest =>
      match skipBlanks rest with
      | [] => .error (.at .unfinishedValue [])
      | ']' :: after => .error (.front .trailingComma (']' :: after))
      | _ => do
          have := length_lt_of_skipBlanks h
          let item ← readItem rest
          have := item.shorter
          let items ← readMoreItems item.rest
          .ok ((items.map (item.value :: ·)).within (by omega))
  | _ => .error (.front .expectedListCommaOrEnd (skipBlanks text))
  termination_by text.length

def readItems (text : List Char) : Reading (List Json) text :=
  match h : skipBlanks text with
  | [] => .error (.at .unfinishedList [])
  | ']' :: rest => .ok ⟨[], rest, length_lt_of_skipBlanks h⟩
  | _ => do
      let item ← readItem text
      let items ← readMoreItems readItem item.rest
      .ok ((items.map (item.value :: ·)).within (Nat.le_of_lt item.shorter))

end Lists

/-! ## Objects -/

section Objects

variable (readItem : (text : List Char) → Reading Json text)

def readMemberValue (text : List Char) : Reading Json text :=
  match h : skipBlanks text with
  | [] => .error (.at .unfinishedObject [])
  | ':' :: rest => do
      let item ← readItem rest
      .ok (item.within (Nat.le_of_lt (length_lt_of_skipBlanks h)))
  | _ => .error (.front .expectedColon (skipBlanks text))

def readMember (text : List Char) : Reading (String × Json) text := do
  let name ← readString text
  let value ← readMemberValue readItem name.rest
  .ok ((value.map (name.value, ·)).within (Nat.le_of_lt name.shorter))

def readMoreMembers (text : List Char) : Reading (List (String × Json)) text :=
  match h : skipBlanks text with
  | [] => .error (.at .unfinishedObject [])
  | '}' :: rest => .ok ⟨[], rest, length_lt_of_skipBlanks h⟩
  | ',' :: rest =>
      match hrest : skipBlanks rest with
      | [] => .error (.at .unfinishedValue [])
      | '}' :: after => .error (.front .trailingComma ('}' :: after))
      | '"' :: name => do
          have := length_lt_of_skipBlanks h
          have := length_lt_of_skipBlanks hrest
          let member ← readMember readItem name
          have := member.shorter
          let members ← readMoreMembers member.rest
          .ok ((members.map (member.value :: ·)).within (by omega))
      | _ => .error (.front .keyNotString (skipBlanks rest))
  | _ => .error (.front .expectedObjectCommaOrEnd (skipBlanks text))
  termination_by text.length

def readMembers (text : List Char) : Reading (List (String × Json)) text :=
  match h : skipBlanks text with
  | [] => .error (.at .unfinishedObject [])
  | '}' :: rest => .ok ⟨[], rest, length_lt_of_skipBlanks h⟩
  | '"' :: name => do
      have := length_lt_of_skipBlanks h
      let member ← readMember readItem name
      have := member.shorter
      let members ← readMoreMembers readItem member.rest
      .ok ((members.map (member.value :: ·)).within (by omega))
  | _ => .error (.front .keyNotString (skipBlanks text))

end Objects

/-! ## Values -/

/-- A value in which lists and objects are nested at most `depth` deep. -/
def readValue (depth : Nat) (text : List Char) : Reading Json text :=
  match h : skipBlanks text with
  | [] => .error (.at .unfinishedValue [])
  | '[' :: rest =>
      match depth with
      | 0 => .error (.front .nestedTooDeep ('[' :: rest))
      | depth + 1 => do
          let items ← readItems (readValue depth) rest
          .ok ((items.map .array).within (Nat.le_of_lt (length_lt_of_skipBlanks h)))
  | '{' :: rest =>
      match depth with
      | 0 => .error (.front .nestedTooDeep ('{' :: rest))
      | depth + 1 => do
          let members ← readMembers (readValue depth) rest
          .ok ((members.map (.object ∘ Table.ofPairs)).within
            (Nat.le_of_lt (length_lt_of_skipBlanks h)))
  | first :: rest => do
      let value ← readScalar first rest
      .ok (value.within (h ▸ length_skipBlanks_le text))

def parseChars (text : List Char) : Except Fault Json := do
  let value ← readValue depthLimit text
  match skipBlanks value.rest with
  | [] => .ok value.value
  | rest => .error (.front .trailingCharacters rest)

def parse (text : String) : Except SyntaxError Json :=
  (parseChars text.toList).mapError (SyntaxError.locate text.toList)

end ResumableSession.Json
