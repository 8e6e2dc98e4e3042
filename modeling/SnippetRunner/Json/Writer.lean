/-!
Writing JSON without white space. Quotes, backslashes and controls are escaped, everything else stands as it
is.
-/

namespace SnippetRunner.Json

def hexDigit (n : Nat) : Char :=
  Nat.digitChar n

def writeChar (c : Char) : List Char :=
  if c == '"' || c == '\\' then ['\\', c]
  else if c == '\n' then ['\\', 'n']
  else if c == '\r' then ['\\', 'r']
  else if c == '\t' then ['\\', 't']
  else if c.toNat == 8 then ['\\', 'b']
  else if c.toNat == 12 then ['\\', 'f']
  else if c.toNat < 0x20 then ['\\', 'u', '0', '0', hexDigit (c.toNat / 16), hexDigit (c.toNat % 16)]
  else [c]

def writeText (text : List Char) : List Char :=
  '"' :: text.flatMap writeChar ++ ['"']

def writeString (text : String) : String :=
  String.ofList (writeText text.toList)

def writeBool (value : Bool) : String :=
  if value then "true" else "false"

-- Fields and items that are written already.
def writeObject (fields : List (String × String)) : String :=
  "\x7b" ++ ",".intercalate (fields.map fun field => writeString field.1 ++ ":" ++ field.2) ++ "\x7d"

def writeArray (items : List String) : String :=
  "[" ++ ",".intercalate items ++ "]"

end SnippetRunner.Json
