import ResumableSession.Json.Parsed

/-!
Reading strings, from the character after the opening quote to the closing one.
-/

namespace ResumableSession.Json

def byteLength : List Char → Nat
  | [] => 0
  | c :: rest => c.utf8Size + byteLength rest

def hexValue? (c : Char) : Option Nat :=
  if '0' ≤ c ∧ c ≤ '9' then some (c.toNat - '0'.toNat)
  else if 'a' ≤ c ∧ c ≤ 'f' then some (c.toNat - 'a'.toNat + 10)
  else if 'A' ≤ c ∧ c ≤ 'F' then some (c.toNat - 'A'.toNat + 10)
  else none

/-- Four hexadecimal digits.  Four bytes are taken before they are looked at. -/
def readHex (text : List Char) : Reading Nat text :=
  if byteLength (text.take 4) < 4 then .error (.at .unfinishedString [])
  else
    match text with
    | a :: b :: c :: d :: rest =>
        match hexValue? a, hexValue? b, hexValue? c, hexValue? d with
        | some a, some b, some c, some d =>
            .ok ⟨((a * 16 + b) * 16 + c) * 16 + d, rest, by simp only [List.length_cons]; omega⟩
        | _, _, _, _ => .error ⟨.invalidEscape, text, 4⟩
    | _ => .error ⟨.invalidEscape, text, 4⟩

def isHighSurrogate (unit : Nat) : Bool :=
  0xD800 ≤ unit && unit < 0xDC00

def isLowSurrogate (unit : Nat) : Bool :=
  0xDC00 ≤ unit && unit < 0xE000

def ofSurrogates (high low : Nat) : Char :=
  Char.ofNat (0x10000 + (high - 0xD800) * 0x400 + (low - 0xDC00))

def readLowSurrogate (high : Nat) (text : List Char) : Reading Char text :=
  match text with
  | [] => .error (.at .unfinishedString [])
  | '\\' :: [] => .error (.at .unfinishedString [])
  | '\\' :: 'u' :: digits => do
      let low ← readHex digits
      if isLowSurrogate low.value then
        .ok ((low.map (ofSurrogates high)).within (by simp only [List.length_cons]; omega))
      else .error (.at .loneSurrogate low.rest)
  | '\\' :: rest => .error (.front .unexpectedEndOfHexEscape rest)
  | _ => .error (.front .unexpectedEndOfHexEscape text)

def readNumberedEscape (text : List Char) : Reading Char text := do
  let unit ← readHex text
  if isLowSurrogate unit.value then .error (.at .loneSurrogate unit.rest)
  else if isHighSurrogate unit.value then
    let c ← readLowSurrogate unit.value unit.rest
    .ok (c.within (Nat.le_of_lt unit.shorter))
  else .ok (unit.map Char.ofNat)

def shortEscape? : Char → Option Char
  | '"' => some '"'
  | '\\' => some '\\'
  | '/' => some '/'
  | 'b' => some '\x08'
  | 'f' => some '\x0c'
  | 'n' => some '\n'
  | 'r' => some '\r'
  | 't' => some '\t'
  | _ => none

def readEscape (text : List Char) : Reading Char text :=
  match text with
  | [] => .error (.at .unfinishedString [])
  | 'u' :: digits => do
      let c ← readNumberedEscape digits
      .ok (c.behind _)
  | letter :: rest =>
      match shortEscape? letter with
      | some c => .ok ⟨c, rest, Nat.lt_succ_self _⟩
      | none => .error (.front .invalidEscape text)

def readStringBody (text : List Char) : Reading (List Char) text :=
  match text with
  | [] => .error (.at .unfinishedString [])
  | '"' :: rest => .ok ⟨[], rest, Nat.lt_succ_self _⟩
  | '\\' :: rest => do
      let c ← readEscape rest
      have := c.shorter
      let body ← readStringBody c.rest
      .ok ((body.map (c.value :: ·)).within (by simp only [List.length_cons]; omega))
  | c :: rest =>
      if c < ' ' then .error (.front .controlCharacter text)
      else do
        let body ← readStringBody rest
        .ok ((body.map (c :: ·)).behind c)
  termination_by text.length

def readString (text : List Char) : Reading String text := do
  let body ← readStringBody text
  .ok (body.map String.ofList)

end ResumableSession.Json
