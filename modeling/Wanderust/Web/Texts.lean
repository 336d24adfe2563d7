import Wanderust.Common.Bytes
import Wanderust.Common.Integers
import Wanderust.Common.Message

/-!
# Texts of the page

What the page makes of strings: trimming, their length, the check of the
credentials, and the escaping of what goes into its HTML.
-/

namespace Wanderust.Page

/-! # Strings -/

/-- The characters that `trim` takes away: white space and the ends of lines. -/
def isBlank (c : Char) : Bool :=
  (0x9 ≤ c.toNat && c.toNat ≤ 0xd) || c.toNat == 0x20 || c.toNat == 0xa0 ||
    c.toNat == 0x1680 || (0x2000 ≤ c.toNat && c.toNat ≤ 0x200a) || c.toNat == 0x2028 ||
    c.toNat == 0x2029 || c.toNat == 0x202f || c.toNat == 0x205f || c.toNat == 0x3000 ||
    c.toNat == 0xfeff

def trim (s : String) : String :=
  String.ofList ((s.toList.dropWhile isBlank).reverse.dropWhile isBlank).reverse

def utf16Size (c : Char) : Nat := if c.toNat < 0x10000 then 1 else 2

/-- `length`: the number of code units of the UTF-16 form. -/
def utf16Length (s : String) : Nat := (s.toList.map utf16Size).sum

theorem utf8ByteSize_eq (s : String) : s.utf8ByteSize = (s.toList.map Char.utf8Size).sum := by
  rw [← length_utf8Bytes, utf8Bytes_eq_flatMap, List.length_flatMap]
  simp only [String.length_utf8EncodeChar]

theorem utf8Size_eq (c : Char) : c.utf8Size =
    if c.toNat ≤ 0x7f then 1 else if c.toNat ≤ 0x7ff then 2 else if c.toNat ≤ 0xffff then 3
    else 4 := by
  unfold Char.utf8Size
  simp only [UInt32.le_iff_toNat_le]
  rfl

theorem utf16Size_ascii {c : Char} (h : c.toNat < 128) : utf16Size c = c.utf8Size := by
  rw [utf8Size_eq, utf16Size, if_pos (by omega), if_pos (by omega)]

theorem utf16Length_ascii {s : String} (h : forall c, c ∈ s.toList -> c.toNat < 128) :
    utf16Length s = s.utf8ByteSize := by
  rw [utf16Length, utf8ByteSize_eq]
  exact congrArg List.sum (List.map_congr_left fun c hc => utf16Size_ascii (h c hc))

/-- A string that counts as true: it is there, and it is not empty. -/
def truthy (s : Option String) : Option String := s.filter fun t => t != ""

/-! # Credentials -/

def validateCreds (user pass : String) : Except String (String × String) :=
  let u := trim user
  if u.isEmpty then
    .error "Enter a username."
  else if !(u.toList.all fun c => c.isAlphanum || c == '_' || c == '-') then
    .error "Username: only letters, digits, '_' or '-'."
  else if 32 < utf16Length u then
    .error "Username too long (max 32)."
  else if pass.isEmpty then
    .error "Enter a password."
  else if 128 < utf16Length pass then
    .error "Password too long (max 128)."
  else
    .ok (u, pass)

/-! # HTML -/

def escapeChar (c : Char) : List Char :=
  match c with
  | '&' => "&amp;".toList
  | '<' => "&lt;".toList
  | '>' => "&gt;".toList
  | '"' => "&quot;".toList
  | '\'' => "&#39;".toList
  | c => [c]

def escapeHtml (s : String) : String := String.ofList (s.toList.flatMap escapeChar)

end Wanderust.Page
