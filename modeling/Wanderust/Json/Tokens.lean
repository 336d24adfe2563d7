import Mathlib.Data.List.Basic
import Mathlib.Tactic.IntervalCases
import Wanderust.Json.Value

/-!
# Strings and numbers in JSON texts

How strings are escaped and read back, and how the number at the front of a
text is told from what follows it.
-/

namespace Json

/-! # Strings -/

def hexDigit (n : Nat) : Char := (Nat.toDigits 16 n).headD '0'

def printChar (c : Char) : List Char :=
  if c = '"' then ['\\', '"']
  else if c = '\\' then ['\\', '\\']
  else if c.toNat < 32 then ['\\', 'u', '0', '0', hexDigit (c.toNat / 16), hexDigit (c.toNat % 16)]
  else [c]

def printChars (cs : List Char) : List Char := cs.flatMap printChar ++ ['"']

def printString (s : String) : List Char := '"' :: printChars s.toList

def hexValue (c : Char) : Option Nat :=
  if c.isDigit then some (c.toNat - 48)
  else if 'a' ≤ c ∧ c ≤ 'f' then some (c.toNat - 87)
  else none

def unescape (a b c d : Char) : Option Char := do
  let a ← hexValue a
  let b ← hexValue b
  let c ← hexValue c
  let d ← hexValue d
  return Char.ofNat (16 * (16 * (16 * a + b) + c) + d)

/-- The characters up to the closing quote, and the text behind it. -/
def readChars : List Char -> Option (List Char × List Char)
  | [] => none
  | '"' :: rest => some ([], rest)
  | '\\' :: 'u' :: a :: b :: c :: d :: rest => do
      let ch ← unescape a b c d
      let (cs, rest) ← readChars rest
      return (ch :: cs, rest)
  | '\\' :: c :: rest => do
      let (cs, rest) ← readChars rest
      return (c :: cs, rest)
  | c :: rest => do
      let (cs, rest) ← readChars rest
      return (c :: cs, rest)

theorem readChars_plain {c : Char} (hquote : c ≠ '"') (hslash : c ≠ '\\') (rest : List Char) :
    readChars (c :: rest) = (readChars rest).map fun p => (c :: p.1, p.2) := by
  rw [readChars]
  · cases readChars rest with
    | none => rfl
    | some p => rfl
  · exact hquote
  · intro _ _ _ _ _ h
    exact absurd h hslash
  · intro _ _ h
    exact absurd h hslash

theorem unescape_hexDigits {n : Nat} (h : n < 32) :
    unescape '0' '0' (hexDigit (n / 16)) (hexDigit (n % 16)) = some (Char.ofNat n) := by
  revert n
  decide

theorem readChars_printChar (c : Char) (rest : List Char) :
    readChars (printChar c ++ rest) = (readChars rest).map fun p => (c :: p.1, p.2) := by
  unfold printChar
  split
  case isTrue hquote =>
    rw [hquote]
    cases hrest : readChars rest with
    | none => simp [readChars, hrest]
    | some p => simp [readChars, hrest]
  case isFalse hquote =>
    split
    case isTrue hslash =>
      rw [hslash]
      cases hrest : readChars rest with
      | none => simp [readChars, hrest]
      | some p => simp [readChars, hrest]
    case isFalse hslash =>
      split
      case isTrue hcontrol =>
        have hc := unescape_hexDigits hcontrol
        rw [Char.ofNat_toNat] at hc
        cases hrest : readChars rest with
        | none => simp [readChars, hrest, hc]
        | some p => simp [readChars, hrest, hc]
      case isFalse => exact readChars_plain hquote hslash rest

theorem readChars_printChars (cs rest : List Char) :
    readChars (printChars cs ++ rest) = some (cs, rest) := by
  induction cs with
  | nil => rfl
  | cons c cs ih =>
      unfold printChars at ih ⊢
      rw [List.flatMap_cons, List.append_assoc, List.append_assoc, readChars_printChar,
        ← List.append_assoc, ih]
      rfl

/-! # Numbers -/

def isFloatMark (c : Char) : Bool := c == '.' || c == 'e' || c == 'E'

def isNumeral (c : Char) : Bool := c.isDigit || c == '-' || c == '+' || isFloatMark c

/-- The texts of the finite floating-point numbers: told from those of integers by a mark. -/
class FloatText (F : Type) [JsonFloat F] where
  print : Finite F -> List Char
  read : List Char -> Option (Finite F)
  numeral : forall x c, c ∈ print x -> isNumeral c = true
  mark : forall x, exists c, c ∈ print x ∧ isFloatMark c = true
  read_print : forall x, read (print x) = some x

def printInt : Int -> List Char
  | .ofNat n => Nat.toDigits 10 n
  | .negSucc n => '-' :: Nat.toDigits 10 (n + 1)

def readNat (ds : List Char) : Option Nat :=
  if ds ≠ [] ∧ ds.all Char.isDigit then some (Nat.ofDigitChars 10 ds 0) else none

def readInt : List Char -> Option Int
  | '-' :: ds => (readNat ds).map fun n => -(n : Int)
  | ds => (readNat ds).map fun n => (n : Int)

theorem ne_of_isDigit {c d : Char} (h : c.isDigit = true) (hd : d.isDigit = false) : c ≠ d := by
  intro heq
  rw [heq, hd] at h
  exact Bool.false_ne_true h

theorem isDigit_toDigits {n : Nat} {c : Char} (h : c ∈ Nat.toDigits 10 n) : c.isDigit = true :=
  Nat.isDigit_of_mem_toDigits (by decide) (by decide) h

theorem readNat_toDigits (n : Nat) : readNat (Nat.toDigits 10 n) = some n := by
  have hdigits : (Nat.toDigits 10 n).all Char.isDigit = true := by
    rw [List.all_eq_true]
    intro c hc
    exact isDigit_toDigits hc
  unfold readNat
  rw [if_pos ⟨Nat.toDigits_ne_nil, hdigits⟩, Nat.ofDigitChars_ten_toDigits]

theorem readInt_printInt (i : Int) : readInt (printInt i) = some i := by
  cases i with
  | ofNat n =>
      have hsign : forall ds, Nat.toDigits 10 n = '-' :: ds -> False := by
        intro ds h
        have hminus : '-' ∈ Nat.toDigits 10 n := by
          rw [h]
          exact List.mem_cons_self
        exact ne_of_isDigit (isDigit_toDigits hminus) rfl rfl
      unfold printInt
      rw [readInt, readNat_toDigits]
      · rfl
      · exact hsign
  | negSucc n =>
      unfold printInt
      rw [readInt, readNat_toDigits]
      rfl

theorem printInt_digits {i : Int} {c : Char} (h : c ∈ printInt i) :
    c.isDigit = true ∨ c = '-' := by
  cases i with
  | ofNat n => exact Or.inl (isDigit_toDigits h)
  | negSucc n =>
      unfold printInt at h
      rcases List.mem_cons.mp h with hminus | hdigit
      · exact Or.inr hminus
      · exact Or.inl (isDigit_toDigits hdigit)

theorem isNumeral_of_isDigit {c : Char} (h : c.isDigit = true) : isNumeral c = true := by
  unfold isNumeral
  rw [h]
  rfl

theorem printInt_numeral (i : Int) (c : Char) (h : c ∈ printInt i) : isNumeral c = true := by
  rcases printInt_digits h with hdigit | hminus
  · exact isNumeral_of_isDigit hdigit
  · rw [hminus]
    rfl

theorem isFloatMark_of_isDigit {c : Char} (h : c.isDigit = true) : isFloatMark c = false := by
  unfold isFloatMark
  simp only [Bool.or_eq_false_iff, beq_eq_false_iff_ne]
  exact ⟨⟨ne_of_isDigit h rfl, ne_of_isDigit h rfl⟩, ne_of_isDigit h rfl⟩

/-- The number ends where the text ends or another character follows. -/
def Ends (rest : List Char) : Prop := forall c, rest.head? = some c -> isNumeral c = false

theorem takeWhile_ends {ds rest : List Char} (hds : forall c, c ∈ ds -> isNumeral c = true)
    (hrest : Ends rest) : (ds ++ rest).takeWhile isNumeral = ds ∧
      (ds ++ rest).dropWhile isNumeral = rest := by
  rw [List.takeWhile_append_of_pos hds, List.dropWhile_append_of_pos hds]
  cases rest with
  | nil => exact ⟨List.append_nil ds, rfl⟩
  | cons c rest =>
      have hc := hrest c rfl
      rw [List.takeWhile_cons, List.dropWhile_cons, hc]
      exact ⟨List.append_nil ds, rfl⟩

section

variable {F : Type} [JsonFloat F] [FloatText F]

def readNumber (cs : List Char) : Option (Value F × List Char) :=
  let ds := cs.takeWhile isNumeral
  let rest := cs.dropWhile isNumeral
  if ds.any isFloatMark then (FloatText.read ds).map fun x => (.float x, rest)
  else (readInt ds).map fun i => (.integer i, rest)

theorem readNumber_printInt (i : Int) {rest : List Char} (hrest : Ends rest) :
    readNumber (printInt i ++ rest) = some ((.integer i : Value F), rest) := by
  have hmarks : (printInt i).any isFloatMark = false := by
    rw [List.any_eq_false]
    intro c hc
    rcases printInt_digits hc with hdigit | hminus
    · rw [isFloatMark_of_isDigit hdigit]
      exact Bool.false_ne_true
    · rw [hminus]
      decide
  rcases takeWhile_ends (printInt_numeral i) hrest with ⟨htake, hdrop⟩
  unfold readNumber
  simp only [htake, hdrop, hmarks, readInt_printInt]
  rfl

theorem readNumber_printFloat (x : Finite F) {rest : List Char} (hrest : Ends rest) :
    readNumber (FloatText.print x ++ rest) = some (.float x, rest) := by
  have hmarks : (FloatText.print x).any isFloatMark = true := by
    rw [List.any_eq_true]
    exact FloatText.mark x
  rcases takeWhile_ends (FloatText.numeral x) hrest with ⟨htake, hdrop⟩
  unfold readNumber
  simp only [htake, hdrop, hmarks, FloatText.read_print]
  rfl

end

end Json
