import Mathlib.Data.List.Basic
import Wanderust.Common.Integers

/-!
# Lines

What the programs that read lines use of the string functions of the standard
library: trimming, splitting, and reading a number.
-/

namespace Wanderust

/-! # Blanks -/

/-- The characters with the property `White_Space`, as `char::is_whitespace` has them. -/
def isWhitespace (c : Char) : Bool :=
  (0x9 ≤ c.toNat && c.toNat ≤ 0xd) || c.toNat == 0x20 || c.toNat == 0x85 || c.toNat == 0xa0 ||
    c.toNat == 0x1680 || (0x2000 ≤ c.toNat && c.toNat ≤ 0x200a) || c.toNat == 0x2028 ||
    c.toNat == 0x2029 || c.toNat == 0x202f || c.toNat == 0x205f || c.toNat == 0x3000

def trimChars (cs : List Char) : List Char :=
  ((cs.dropWhile isWhitespace).reverse.dropWhile isWhitespace).reverse

def trim (s : String) : String :=
  String.ofList (trimChars s.toList)

/-- `split_once(char::is_whitespace)`: what stands before and after the first blank. -/
def splitOnceWhitespace (cs : List Char) : Option (List Char × List Char) :=
  match cs.dropWhile fun c => !isWhitespace c with
  | [] => none
  | _ :: after => some (cs.takeWhile fun c => !isWhitespace c, after)

/-! # Words -/

/-- `split_once` with a character: what stands before and after its first occurrence. -/
def splitOnce (sep : Char) (cs : List Char) : Option (List Char × List Char) :=
  match cs.dropWhile fun c => c != sep with
  | [] => none
  | _ :: after => some (cs.takeWhile fun c => c != sep, after)

/-- `split_whitespace`: the words between the blanks. -/
def splitWhitespace (cs : List Char) : List (List Char) :=
  (cs.splitOnP isWhitespace).filter fun word => !word.isEmpty

/-! # Numbers -/

def readDigits (cs : List Char) : Option Nat :=
  if !cs.isEmpty && cs.all Char.isDigit then some (Nat.ofDigitChars 10 cs 0) else none

/-- `parse::<i64>`: digits, with a sign before them or without. -/
def parseI64 : List Char -> Option Int
  | '-' :: digits => (readDigits digits).bind fun n => checkedI64 (-(n : Int))
  | '+' :: digits => (readDigits digits).bind fun n => checkedI64 n
  | digits => (readDigits digits).bind fun n => checkedI64 n

end Wanderust
