import RecordSql.Text.Printable

/-!
# Quoted text

Text and single characters are shown between quotes.  The quote that delimits, the backslash and
the four controls with a short form are escaped by a backslash; any other character that is not
plain is written `\u` with its code point in braces, in lower-case hexadecimal.
-/

namespace RecordSql.Text

/-- `c` as it stands between two `quote`s. -/
def escape (quote c : Char) : List Char :=
  if c = '\x00' then ['\\', '0']
  else if c = '\t' then ['\\', 't']
  else if c = '\r' then ['\\', 'r']
  else if c = '\n' then ['\\', 'n']
  else if c = '\\' || c = quote then ['\\', c]
  else if isPlain c then [c]
  else ['\\', 'u', '\x7b'] ++ Nat.toDigits 16 c.toNat ++ ['\x7d']

/-- `s` in double quotes. -/
def quote (s : String) : String :=
  String.ofList ('"' :: s.toList.flatMap (escape '"') ++ ['"'])

/-- `c` in single quotes. -/
def quoteChar (c : Char) : String :=
  String.ofList ('\'' :: escape '\'' c ++ ['\''])

end RecordSql.Text
