/-!
Octets and characters. Reading octets as UTF-8 splits them at every character and at every longest
beginning of a character that breaks off; the lossy reading writes U+FFFD for each of the latter, the
strict reading stops at the first of them and says where it is.
-/

namespace SnippetRunner

abbrev Bytes := List UInt8

namespace Utf8

def isTail (b : UInt8) : Bool := 0x80 ≤ b && b ≤ 0xbf

/-- The least and the greatest second octet a lead octet allows, and how many octets follow the lead. -/
def shape (lead : UInt8) : Option (UInt8 × UInt8 × Nat) :=
  if 0xc2 ≤ lead && lead ≤ 0xdf then some (0x80, 0xbf, 1)
  else if lead == 0xe0 then some (0xa0, 0xbf, 2)
  else if lead == 0xed then some (0x80, 0x9f, 2)
  else if 0xe1 ≤ lead && lead ≤ 0xef then some (0x80, 0xbf, 2)
  else if lead == 0xf0 then some (0x90, 0xbf, 3)
  else if 0xf1 ≤ lead && lead ≤ 0xf3 then some (0x80, 0xbf, 3)
  else if lead == 0xf4 then some (0x80, 0x8f, 3)
  else none

inductive Piece where
  -- a character that took this many octets after its lead
  | char (c : Char) (more : Nat)
  -- octets that start a character and break off against another octet
  | broken (more : Nat)
  -- octets that start a character and break off at the end
  | unfinished (more : Nat)
  deriving DecidableEq

def payload (b : UInt8) : Nat := b.toNat % 64

def tails (value seen : Nat) : Nat → Bytes → Piece
  | 0, _ => .char (Char.ofNat value) seen
  | _ + 1, [] => .unfinished seen
  | more + 1, b :: rest =>
      if isTail b then tails (value * 64 + payload b) (seen + 1) more rest else .broken seen

/-- The piece that starts with the octet `lead`. -/
def piece (lead : UInt8) (rest : Bytes) : Piece :=
  if lead < 0x80 then .char (Char.ofNat lead.toNat) 0
  else
    match shape lead, rest with
    | none, _ => .broken 0
    | some _, [] => .unfinished 0
    | some (low, high, more), second :: after =>
        if low ≤ second && second ≤ high then
          tails ((lead.toNat % Nat.pow 2 (6 - more)) * 64 + payload second) 1 (more - 1) after
        else .broken 0

def replacement : Char := Char.ofNat 0xfffd

def readFrom (done : List Char) : Bytes → List Char
  | [] => done.reverse
  | lead :: rest =>
      match piece lead rest with
      | .char c more => readFrom (c :: done) (rest.drop more)
      | .broken more => readFrom (replacement :: done) (rest.drop more)
      | .unfinished more => readFrom (replacement :: done) (rest.drop more)
termination_by bytes => bytes.length
decreasing_by all_goals simp only [List.length_drop, List.length_cons]; omega

/-- Reads octets as text, with U+FFFD for what is no character. -/
def readLossy (bytes : Bytes) : List Char :=
  readFrom [] bytes

inductive Fault where
  | broken (index count : Nat)
  | unfinished (index : Nat)
  deriving DecidableEq

def Fault.message : Fault → String
  | .broken index count => s!"invalid utf-8 sequence of {count} bytes from index {index}"
  | .unfinished index => s!"incomplete utf-8 byte sequence from index {index}"

def readStrictFrom (done : List Char) (index : Nat) : Bytes → Except Fault (List Char)
  | [] => .ok done.reverse
  | lead :: rest =>
      match piece lead rest with
      | .char c more => readStrictFrom (c :: done) (index + more + 1) (rest.drop more)
      | .broken more => .error (.broken index (more + 1))
      | .unfinished _ => .error (.unfinished index)
termination_by bytes => bytes.length
decreasing_by all_goals simp only [List.length_drop, List.length_cons]; omega

/-- Reads octets as text if all of them are characters. -/
def readStrict (bytes : Bytes) : Except Fault (List Char) :=
  readStrictFrom [] 0 bytes

def write (text : List Char) : Bytes :=
  text.flatMap String.utf8EncodeChar

def ofString (text : String) : Bytes :=
  text.toUTF8.toList

/-- Reads octets as a string, with U+FFFD for what is no character. -/
def lossy (bytes : Bytes) : String :=
  String.ofList (readLossy bytes)

end Utf8
end SnippetRunner
