import SnippetRunner.Token.Tree

/-!
Flat tokens: the trees of a text in reading order, without literals and lifetimes, with the delimiters of
groups as marks and a pair of joint colons as one separator of path segments.
-/

namespace SnippetRunner.Token

inductive Flat where
  | word (name : List Char) (raw : Bool)
  | separator
  | mark (c : Char)
  deriving DecidableEq

-- The tokens found before are given newest first, and so is the answer.
def flattenOnto (done : List Flat) : List Tree → List Flat
  | [] => done
  | .group delimiter inner :: rest =>
      flattenOnto (.mark delimiter.closes :: flattenOnto (.mark delimiter.opens :: done) inner) rest
  | .word name raw :: rest => flattenOnto (.word name raw :: done) rest
  | .literal _ :: rest => flattenOnto done rest
  | .mark ':' true :: .mark ':' _ :: rest => flattenOnto (.separator :: done) rest
  | .mark '\'' true :: .word _ _ :: rest => flattenOnto done rest
  | .mark c joint :: rest =>
      flattenOnto (if c == '\'' && joint then done else .mark c :: done) rest

def flatten (trees : List Tree) : List Flat :=
  (flattenOnto [] trees).reverse

end SnippetRunner.Token
