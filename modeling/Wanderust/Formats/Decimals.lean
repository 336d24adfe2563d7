import Mathlib.Algebra.Order.Field.Basic
import Mathlib.Algebra.Order.Floor.Semiring
import Mathlib.Data.List.TakeWhile
import Mathlib.Tactic.Linarith

/-!
# Decimal numbers

Numbers printed with a fixed number of places, and numbers read from digits and
points.  What is read is what was printed: the number, rounded to its places.
-/

namespace Formats

local instance atLeastTwo_two : Nat.AtLeastTwo 2 := ⟨Nat.le_refl 2⟩
local instance atLeastTwo_ten : Nat.AtLeastTwo 10 := ⟨by decide⟩

/-! # Natural numbers -/

def padded (width n : Nat) : List Char := (Nat.toDigits 10 n).leftpad width '0'

def isDigits (cs : List Char) : Bool := !cs.isEmpty && cs.all Char.isDigit

def digitsValue (cs : List Char) : Nat := Nat.ofDigitChars 10 cs 0

theorem isDigit_of_mem_toDigits {n : Nat} {c : Char} (h : c ∈ Nat.toDigits 10 n) :
    c.isDigit = true :=
  Nat.isDigit_of_mem_toDigits (by decide) (by decide) h

theorem isDigit_of_mem_padded {width n : Nat} {c : Char} (h : c ∈ padded width n) :
    c.isDigit = true := by
  rw [padded, List.leftpad, List.mem_append] at h
  rcases h with h | h
  · rw [List.eq_of_mem_replicate h]
    rfl
  · exact isDigit_of_mem_toDigits h

theorem digitsValue_padded (width n : Nat) : digitsValue (padded width n) = n := by
  rw [digitsValue, padded, List.leftpad, Nat.ofDigitChars_append, Nat.ofDigitChars_replicate_zero,
    Nat.mul_zero, Nat.ofDigitChars_ten_toDigits]

theorem padded_ne_nil (width n : Nat) : padded width n ≠ [] :=
  List.append_ne_nil_of_right_ne_nil _ Nat.toDigits_ne_nil

theorem length_padded {width n : Nat} (hwidth : 0 < width) (h : n < 10 ^ width) :
    (padded width n).length = width := by
  have hdigits : (Nat.toDigits 10 n).length ≤ width :=
    (Nat.length_toDigits_le_iff (by decide) hwidth).mpr h
  rw [padded, List.length_leftpad]
  exact max_eq_left hdigits

/-! # Numbers with places -/

/-- Everything before the first point, and everything behind it. -/
def cutPoint (cs : List Char) : List Char × Option (List Char) :=
  match cs.dropWhile (· != '.') with
  | [] => (cs, none)
  | _ :: places => (cs.takeWhile (· != '.'), some places)

section

variable {F : Type} [Field F]

/-- A number of digits, with a point before, behind or among them, or nothing for other texts. -/
def readDecimal (cs : List Char) : Option F :=
  match cutPoint cs with
  | (whole, none) => if isDigits whole then some (digitsValue whole : F) else none
  | (whole, some places) =>
      if isDigits (whole ++ places) then
        some ((digitsValue whole : F) + (digitsValue places : F) / 10 ^ places.length)
      else none

variable [LinearOrder F] [IsStrictOrderedRing F] [FloorSemiring F]

def roundHalfEven (x : F) : Nat :=
  let n := ⌊x⌋₊
  if x - n < 1 / 2 then n
  else if 1 / 2 < x - n then n + 1
  else if n % 2 = 0 then n
  else n + 1

def rounded (places : Nat) (x : F) : F := (roundHalfEven (x * 10 ^ places) : F) / 10 ^ places

/-- A number that is not negative, with a point and so many places behind it. -/
def printFixed (places : Nat) (x : F) : List Char :=
  let n := roundHalfEven (x * 10 ^ places)
  Nat.toDigits 10 (n / 10 ^ places) ++ '.' :: padded places (n % 10 ^ places)

theorem roundHalfEven_near {x : F} (h : 0 ≤ x) : |(roundHalfEven x : F) - x| ≤ 1 / 2 := by
  have hfloor := Nat.floor_le h
  have hnext := Nat.lt_floor_add_one x
  unfold roundHalfEven
  dsimp only
  rw [abs_le]
  split
  · constructor
    · linarith
    · linarith
  · split
    · push_cast
      constructor
      · linarith
      · linarith
    · split
      · constructor
        · linarith
        · linarith
      · push_cast
        constructor
        · linarith
        · linarith

theorem rounded_near (places : Nat) {x : F} (h : 0 ≤ x) :
    |rounded places x - x| ≤ 1 / 2 / 10 ^ places := by
  have hpos : (0 : F) < 10 ^ places := by positivity
  have hdiff : rounded places x - x =
      ((roundHalfEven (x * 10 ^ places) : F) - x * 10 ^ places) / 10 ^ places := by
    rw [rounded, sub_div, mul_div_cancel_right₀ x (ne_of_gt hpos)]
  rw [hdiff, abs_div, abs_of_pos hpos]
  exact div_le_div_of_nonneg_right (roundHalfEven_near (mul_nonneg h (le_of_lt hpos)))
    (le_of_lt hpos)

end

theorem ne_point {c : Char} (h : c.isDigit = true) : (c != '.') = true := by
  rw [bne_iff_ne]
  intro heq
  rw [heq] at h
  cases h

theorem cutPoint_append {whole : List Char} (h : forall c, c ∈ whole -> c.isDigit = true)
    (places : List Char) : cutPoint (whole ++ '.' :: places) = (whole, some places) := by
  have hwhole (c : Char) (hc : c ∈ whole) : (c != '.') = true := ne_point (h c hc)
  have hdrop : (whole ++ '.' :: places).dropWhile (· != '.') = '.' :: places := by
    rw [List.dropWhile_append_of_pos hwhole]
    rfl
  have htake : (whole ++ '.' :: places).takeWhile (· != '.') = whole := by
    rw [List.takeWhile_append_of_pos hwhole]
    exact List.append_nil whole
  rw [cutPoint, hdrop, htake]

variable {F : Type} [Field F]

theorem isDigits_toDigits (n : Nat) : isDigits (Nat.toDigits 10 n) = true := by
  have hall : (Nat.toDigits 10 n).all Char.isDigit = true := by
    rw [List.all_eq_true]
    intro c hc
    exact isDigit_of_mem_toDigits hc
  rw [isDigits, hall, Bool.and_true, Bool.not_eq_true', List.isEmpty_eq_false_iff]
  exact Nat.toDigits_ne_nil

theorem readDecimal_digits (n : Nat) : readDecimal (Nat.toDigits 10 n) = some (n : F) := by
  have hdrop : (Nat.toDigits 10 n).dropWhile (· != '.') = [] := by
    rw [List.dropWhile_eq_nil_iff]
    intro c hc
    exact ne_point (isDigit_of_mem_toDigits hc)
  unfold readDecimal cutPoint
  rw [hdrop]
  dsimp only
  rw [if_pos (isDigits_toDigits n), digitsValue, Nat.ofDigitChars_ten_toDigits]

variable [LinearOrder F] [IsStrictOrderedRing F] [FloorSemiring F]

theorem readDecimal_printFixed {places : Nat} (hplaces : 0 < places) (x : F) :
    readDecimal (printFixed places x) = some (rounded places x) := by
  have hpow : (0 : F) < 10 ^ places := by positivity
  have hlast := Nat.mod_lt (roundHalfEven (x * 10 ^ places)) (Nat.pow_pos (n := places) (by decide :
    0 < 10))
  unfold readDecimal printFixed
  dsimp only
  rw [cutPoint_append fun c hc => isDigit_of_mem_toDigits hc]
  dsimp only
  have hdigits : isDigits (Nat.toDigits 10 (roundHalfEven (x * 10 ^ places) / 10 ^ places) ++
      padded places (roundHalfEven (x * 10 ^ places) % 10 ^ places)) = true := by
    rw [isDigits, List.all_append, List.all_eq_true.mpr fun c hc => isDigit_of_mem_toDigits hc,
      List.all_eq_true.mpr fun c hc => isDigit_of_mem_padded hc, Bool.and_true, Bool.and_true,
      Bool.not_eq_true', List.isEmpty_eq_false_iff]
    exact List.append_ne_nil_of_right_ne_nil _ (padded_ne_nil _ _)
  have hsplit : (((roundHalfEven (x * 10 ^ places) / 10 ^ places : Nat) : F) * 10 ^ places +
      ((roundHalfEven (x * 10 ^ places) % 10 ^ places : Nat) : F)) =
      (roundHalfEven (x * 10 ^ places) : F) := by
    exact_mod_cast Nat.div_add_mod' (roundHalfEven (x * 10 ^ places)) (10 ^ places)
  rw [if_pos hdigits, length_padded hplaces hlast, digitsValue_padded, digitsValue,
    Nat.ofDigitChars_ten_toDigits, rounded, ← hsplit, add_div,
    mul_div_cancel_right₀ _ (ne_of_gt hpow)]

end Formats
