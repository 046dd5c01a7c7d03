import ResumableSession.Text.Printable

/-!
A text in quotes, as it stands in messages to a reader.

The quote and the backslash are escaped.  So is every character that would not show by itself: a
few of these have a letter, and the others are written by their number.
-/

namespace ResumableSession.Text.Quoted

def escapeByNumber (c : Char) : List Char :=
  '\\' :: 'u' :: '{' :: Nat.toDigits 16 c.toNat ++ ['}']

def escape (c : Char) : List Char :=
  if c = '"' then ['\\', '"']
  else if c = '\\' then ['\\', '\\']
  else if c = '\x00' then ['\\', '0']
  else if c = '\t' then ['\\', 't']
  else if c = '\n' then ['\\', 'n']
  else if c = '\r' then ['\\', 'r']
  else if showsItself c then [c]
  else escapeByNumber c

def quote (text : String) : String :=
  String.ofList ('"' :: text.toList.flatMap escape ++ ['"'])

end ResumableSession.Text.Quoted
