import CtorLeak.Text.Visible

/-!
# Values in messages

How a message writes a text between quotes, and a cause with its particulars: `Name(a)` or
`Name { field: a }`.
-/

namespace CtorLeak.Text

/-- The digits of a code point between braces, as in `\u` escapes. -/
def codePointEscape (c : Char) : List Char :=
  '\\' :: 'u' :: '\x7b' :: Nat.toDigits 16 c.toNat ++ ['\x7d']

/-- How one character stands in a quoted text. -/
def escapeChar (c : Char) : List Char :=
  if c = '\x00' then ['\\', '0']
  else if c = '\t' then ['\\', 't']
  else if c = '\n' then ['\\', 'n']
  else if c = '\r' then ['\\', 'r']
  else if c = '\\' then ['\\', '\\']
  else if c = '"' then ['\\', '"']
  else if isVisible c then [c]
  else codePointEscape c

/-- A text between double quotes. -/
def quote (text : String) : String :=
  String.ofList ('"' :: text.toList.flatMap escapeChar ++ ['"'])

/-- A cause with one unnamed particular. -/
def tagged (name value : String) : String :=
  name ++ "(" ++ value ++ ")"

/-- A cause with named particulars. -/
def record (name : String) (fields : List (String × String)) : String :=
  let particulars := fields.map fun (field, value) => field ++ ": " ++ value
  name ++ " \x7b " ++ ", ".intercalate particulars ++ " \x7d"

end CtorLeak.Text
