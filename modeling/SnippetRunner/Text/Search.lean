/-!
Looking for one text in another: at the front, at the end, anywhere; replacing it; and cutting a text at
every place where it stands. Places are found from the left and do not overlap.
-/

namespace SnippetRunner.Text

def dropFront? (front text : List Char) : Option (List Char) :=
  if front.isPrefixOf text then some (text.drop front.length) else none

def dropBack? (back text : List Char) : Option (List Char) :=
  if back.isSuffixOf text then some (text.take (text.length - back.length)) else none

def occursIn (part : List Char) : List Char → Bool
  | [] => part.isEmpty
  | c :: rest => part.isPrefixOf (c :: rest) || occursIn part rest

def replaceFrom (part new done : List Char) : List Char → List Char
  | [] => done.reverse
  | c :: rest =>
      if part.isPrefixOf (c :: rest) then
        replaceFrom part new (new.reverse ++ done) (rest.drop (part.length - 1))
      else replaceFrom part new (c :: done) rest
termination_by text => text.length
decreasing_by all_goals simp; try omega

/-- Puts `new` in the place of every `part`, which is not empty. -/
def replace (part new text : List Char) : List Char :=
  replaceFrom part new [] text

def cutFrom (part word : List Char) (done : List (List Char)) : List Char → List (List Char)
  | [] => (word.reverse :: done).reverse
  | c :: rest =>
      if part.isPrefixOf (c :: rest) then
        cutFrom part [] (word.reverse :: done) (rest.drop (part.length - 1))
      else cutFrom part (c :: word) done rest
termination_by text => text.length
decreasing_by all_goals simp; try omega

/-- The pieces between the places where `part`, which is not empty, stands. -/
def cut (part text : List Char) : List (List Char) :=
  cutFrom part [] [] text

/-- What stands before and after the first `mark`. -/
def cutOnce? (mark : Char) (text : List Char) : Option (List Char × List Char) :=
  match text.dropWhile (· != mark) with
  | [] => none
  | _ :: after => some (text.takeWhile (· != mark), after)

def joinWith (between : List Char) : List (List Char) → List Char
  | [] => []
  | [piece] => piece
  | piece :: rest => piece ++ between ++ joinWith between rest

end SnippetRunner.Text
