/-!
UTF-8 as a reading of byte lists.

`splitValid` separates the longest readable part of a byte list from what follows it.  `decode`
accepts a list that is readable to its end and otherwise says how many bytes are.
-/

namespace ResumableSession.Text.Utf8

def encode (text : String) : List UInt8 :=
  text.toList.flatMap String.utf8EncodeChar

/-- The character at the front of a byte list.  No character takes more than four bytes. -/
def front? (bytes : List UInt8) : Option Char :=
  (bytes.take 4).toByteArray.utf8DecodeChar? 0

def splitValid : List UInt8 → List Char × List UInt8
  | [] => ([], [])
  | byte :: rest =>
      match front? (byte :: rest) with
      | none => ([], byte :: rest)
      | some c =>
          let (chars, beyond) := splitValid (rest.drop (c.utf8Size - 1))
          (c :: chars, beyond)
  termination_by bytes => bytes.length
  decreasing_by simp only [List.length_cons, List.length_drop]; omega

def decode (bytes : List UInt8) : Except Nat String :=
  match splitValid bytes with
  | (chars, []) => .ok (String.ofList chars)
  | (_, beyond) => .error (bytes.length - beyond.length)

end ResumableSession.Text.Utf8
