/-!
Blanks, comments, line ends and quoted texts of TOML. Scanners look at the characters from one place on and
count those they take; a fault is nothing.
-/

namespace SnippetRunner.Settings.Toml

section Gaps

def isBlank (c : Char) : Bool :=
  c == ' ' || c == '\t'

def blanks (text : List Char) : Nat :=
  (text.takeWhile isBlank).length

-- Controls other than the tab stand nowhere but in line ends.
def isPlain (c : Char) : Bool :=
  c == '\t' || (0x20 ≤ c.toNat && c.toNat != 0x7f)

def newline? : List Char → Option Nat
  | '\n' :: _ => some 1
  | '\r' :: '\n' :: _ => some 2
  | _ => none

/-- Up to the end of the line, for a text that starts with a comment or not. -/
def comment (text : List Char) : Nat :=
  match text with
  | '#' :: rest => 1 + (rest.takeWhile isPlain).length
  | _ => 0

-- Blanks and a comment, and how many characters they and the line end take.
def lineEnd? (text : List Char) : Option Nat :=
  let gap := blanks text
  let all := gap + comment (text.drop gap)
  match text.drop all with
  | [] => some all
  | rest => (newline? rest).map (all + ·)

-- Blanks, comments and line ends, as many as there are.
def spacedFrom (count : Nat) : List Char → Nat
  | [] => count
  | c :: rest =>
      if isBlank c || c == '\n' then spacedFrom (count + 1) rest
      else if c == '\r' && rest.head? == some '\n' then spacedFrom (count + 1) rest
      else if c == '#' then
        let body := (rest.takeWhile isPlain).length
        spacedFrom (count + 1 + body) (rest.drop body)
      else count
termination_by text => text.length
decreasing_by all_goals simp; try omega

def spaced (text : List Char) : Nat :=
  spacedFrom 0 text

end Gaps

section Quoted

def hexValue? (c : Char) : Option Nat :=
  if '0' ≤ c && c ≤ '9' then some (c.toNat - '0'.toNat)
  else if 'a' ≤ c && c ≤ 'f' then some (c.toNat - 'a'.toNat + 10)
  else if 'A' ≤ c && c ≤ 'F' then some (c.toNat - 'A'.toNat + 10)
  else none

-- The character that a fixed number of hexadecimal digits names.
def numbered? (digits : Nat) (text : List Char) : Option (Char × Nat) :=
  let taken := text.take digits
  if taken.length < digits then none
  else
    match taken.mapM hexValue? with
    | none => none
    | some values =>
        let n := values.foldl (fun n value => n * 16 + value) 0
        if n < 0xd800 || (0xe000 ≤ n && n < 0x110000) then some (Char.ofNat n, digits + 1) else none

/-- The character an escape names after its backslash, and how long the escape is. -/
def escape? : List Char → Option (Char × Nat)
  | [] => none
  | c :: rest =>
      if c == '"' || c == '\\' then some (c, 1)
      else if c == 'b' then some (Char.ofNat 8, 1)
      else if c == 't' then some ('\t', 1)
      else if c == 'n' then some ('\n', 1)
      else if c == 'f' then some (Char.ofNat 12, 1)
      else if c == 'r' then some ('\r', 1)
      else if c == 'e' then some (Char.ofNat 27, 1)
      else if c == 'x' then numbered? 2 rest
      else if c == 'u' then numbered? 4 rest
      else if c == 'U' then numbered? 8 rest
      else none

def basicFrom (done : List Char) (count : Nat) : List Char → Option (String × Nat)
  | [] => none
  | c :: rest =>
      if c == '"' then some (String.ofList done.reverse, count + 1)
      else if c == '\\' then
        match escape? rest with
        | none => none
        | some (named, more) => basicFrom (named :: done) (count + 1 + more) (rest.drop more)
      else if isPlain c then basicFrom (c :: done) (count + 1) rest
      else none
termination_by text => text.length
decreasing_by all_goals simp; try omega

def literalFrom (done : List Char) (count : Nat) : List Char → Option (String × Nat)
  | [] => none
  | c :: rest =>
      if c == '\'' then some (String.ofList done.reverse, count + 1)
      else if isPlain c then literalFrom (c :: done) (count + 1) rest
      else none

/-- A quoted text on one line. -/
def quoted? : List Char → Option (String × Nat)
  | '"' :: rest => basicFrom [] 1 rest
  | '\'' :: rest => literalFrom [] 1 rest
  | _ => none

-- A backslash at the end of a line skips white space and line ends up to the next other character.
def skippedFrom (count : Nat) : List Char → Nat
  | [] => count
  | c :: rest =>
      if isBlank c || c == '\n' then skippedFrom (count + 1) rest
      else if c == '\r' && rest.head? == some '\n' then skippedFrom (count + 1) rest
      else count

def endsLine (text : List Char) : Bool :=
  (newline? (text.drop (blanks text))).isSome

/-- The end of a text on several lines: three quotes, before which two more may belong to the text. -/
def closing? (quote : Char) (text : List Char) : Option Nat :=
  let run := (text.takeWhile (· == quote)).length
  if 3 ≤ run && run ≤ 5 then some run else none

def manyFrom (quote : Char) (done : List Char) (count : Nat) : List Char → Option (String × Nat)
  | [] => none
  | c :: rest =>
      if c == quote then
        match closing? quote (c :: rest) with
        | some run =>
            some (String.ofList (List.replicate (run - 3) quote ++ done).reverse, count + run)
        | none =>
            if (rest.takeWhile (· == quote)).length < 3 then manyFrom quote (c :: done) (count + 1) rest
            else none
      else if c == '\\' && quote == '"' then
        if endsLine rest then
          let more := skippedFrom 0 rest
          manyFrom quote done (count + 1 + more) (rest.drop more)
        else
          match escape? rest with
          | none => none
          | some (named, more) => manyFrom quote (named :: done) (count + 1 + more) (rest.drop more)
      else if c == '\r' then
        if rest.head? == some '\n' then manyFrom quote done (count + 1) rest else none
      else if c == '\n' || isPlain c then manyFrom quote (c :: done) (count + 1) rest
      else none
termination_by text => text.length
decreasing_by all_goals simp; try omega

/-- A quoted text on several lines, without a line end right after its opening. -/
def many? (quote : Char) (text : List Char) : Option (String × Nat) :=
  if [quote, quote, quote].isPrefixOf text then
    let first := (newline? (text.drop 3)).getD 0
    manyFrom quote [] (3 + first) (text.drop (3 + first))
  else none

end Quoted
end SnippetRunner.Settings.Toml
