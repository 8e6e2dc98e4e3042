/-!
Paths as they are written. A path is put together and taken apart as text; nothing in it is looked up, and
no step to the parent is cancelled.
-/

namespace SnippetRunner.Files.Path

def separator : Char := '/'

def isAbsolute (path : String) : Bool :=
  path.toList.head? == some separator

def endsInSeparator (path : String) : Bool :=
  path.toList.getLast? == some separator

/-- Puts a name below a base; an absolute name stands alone, an empty one leaves a separator at the end. -/
def join (base name : String) : String :=
  if isAbsolute name then name
  else if base.isEmpty || endsInSeparator base then base ++ name
  else base ++ "/" ++ name

/-- What stands between the separators, empty pieces included. -/
def pieces (path : String) : List String :=
  (path.toList.splitOn separator).map String.ofList

-- The separators at the end say only that the last name is a directory.
def withoutEnd (pieces : List String) : List String :=
  (pieces.reverse.dropWhile String.isEmpty).reverse

/-- The names in a path; empty ones and steps that stay do not count, except a first step that stays. -/
def names (path : String) : List String :=
  match pieces path with
  | [] => []
  | first :: rest =>
      let counts (name : String) : Bool := !name.isEmpty && name != "."
      (if first.isEmpty then [] else [first]) ++ rest.filter counts

/-- The path of a list of names. -/
def ofNames (absolute : Bool) (names : List String) : String :=
  (if absolute then "/" else "") ++ String.intercalate "/" names

/-- The last name, if it is one and no step. -/
def fileName? (path : String) : Option String :=
  match (names path).getLast? with
  | some name => if name == "." || name == ".." then none else some name
  | none => none

/-- What follows the last point of the last name; a name has none if its only point comes first. -/
def extension? (path : String) : Option String :=
  match fileName? path with
  | none => none
  | some name =>
      let letters := name.toList.reverse
      match letters.dropWhile (· != '.') with
      | [] => none
      | _ :: front =>
          if front.isEmpty then none else some (String.ofList (letters.takeWhile (· != '.')).reverse)

end SnippetRunner.Files.Path
