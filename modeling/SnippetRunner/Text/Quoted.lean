import SnippetRunner.Text.Printable

/-!
A text between double quotes, as it stands inside messages: controls and other characters that do not show
are written by name or by number, a single quote stays as it is.
-/

namespace SnippetRunner.Text.Quoted

def byNumber (c : Char) : List Char :=
  ['\\', 'u', '{'] ++ Nat.toDigits 16 c.toNat ++ ['}']

def encodeChar (c : Char) : List Char :=
  if c == '"' || c == '\\' then ['\\', c]
  else if c == '\n' then ['\\', 'n']
  else if c == '\r' then ['\\', 'r']
  else if c == '\t' then ['\\', 't']
  else if c.toNat == 0 then ['\\', '0']
  else if Printable.isShown c then [c]
  else byNumber c

def encode (text : List Char) : List Char :=
  '"' :: text.flatMap encodeChar ++ ['"']

end Quoted

/-- A string between double quotes. -/
def quoted (text : String) : String :=
  String.ofList (Quoted.encode text.toList)

end SnippetRunner.Text
