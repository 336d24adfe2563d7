import Wanderust.Common.Wire
import Wanderust.Json.Text

/-!
# The wire format round trip

A message is read back from its text exactly where its numbers are finite.
-/

namespace Wanderust

open Json

theorem decode_encode {F : Type} [JsonFloat F] {text : TextFormat F} (htext : text.Inverse)
    {m : Message F} (hm : m.InRange) :
    decode text (encode text m) =
      if forall x, x ∈ m.floats -> JsonFloat.isFinite x = true then some m else none := by
  have hparse := htext m.toValue (inRange_toValue hm)
  unfold decode encode
  rw [hparse, Option.bind_eq_bind, Option.bind_some, ofValue_toValue, ofFields_fields m hm]

theorem wire_round_trip {F : Type} [JsonFloat F] (text : TextFormat F) (htext : text.Inverse)
    (m : Message F) (hm : m.InRange) :
    ((forall x, x ∈ m.floats -> JsonFloat.isFinite x = true) ->
      decode text (encode text m) = some m) ∧
    ((exists x, x ∈ m.floats ∧ JsonFloat.isFinite x = false) ->
      decode text (encode text m) = none) ∧
    forall m' : Message F, m'.InRange ->
      (forall x, x ∈ m.floats -> JsonFloat.isFinite x = true) ->
      (forall x, x ∈ m'.floats -> JsonFloat.isFinite x = true) ->
      m ≠ m' -> encode text m ≠ encode text m' := by
  refine ⟨?_, ?_, ?_⟩
  · intro hfinite
    rw [decode_encode htext hm, if_pos hfinite]
  · intro hinfinite
    rcases hinfinite with ⟨x, hx, hnot⟩
    rw [decode_encode htext hm, if_neg]
    intro hfinite
    rw [hfinite x hx] at hnot
    exact Bool.true_eq_false_eq_False hnot
  · intro m' hm' hfinite hfinite' hne heq
    have hdecode : decode text (encode text m) = decode text (encode text m') := by
      rw [heq]
    rw [decode_encode htext hm, decode_encode htext hm', if_pos hfinite, if_pos hfinite'] at hdecode
    exact hne (Option.some.inj hdecode)

/-! # Numbers with one decimal place -/

/-- A number with one decimal place, or none at all. -/
inductive Tenths where
  | tenths (n : Int)
  | nan

instance : JsonFloat Tenths where
  isFinite x :=
    match x with
    | .tenths _ => true
    | .nan => false
  ofInt i := .tenths (10 * i)

namespace Tenths

def printNat (n : Nat) : List Char := Nat.toDigits 10 (n / 10) ++ ['.', Nat.digitChar (n % 10)]

def readNat (cs : List Char) : Option Nat :=
  match cs.reverse with
  | d :: '.' :: ds =>
      if d.isDigit ∧ ds.all Char.isDigit then
        some (Nat.ofDigitChars 10 (ds.reverse ++ [d]) 0)
      else none
  | _ => none

def print : Tenths -> List Char
  | .tenths (.ofNat n) => printNat n
  | .tenths (.negSucc n) => '-' :: printNat (n + 1)
  | .nan => []

def read : List Char -> Option (Json.Finite Tenths)
  | '-' :: cs => (readNat cs).map fun n => ⟨.tenths (-(n : Int)), rfl⟩
  | cs => (readNat cs).map fun n => ⟨.tenths n, rfl⟩

theorem isDigit_lastDigit (n : Nat) : (Nat.digitChar (n % 10)).isDigit = true := by
  apply isDigit_toDigits
  rw [Nat.toDigits_of_lt_base (Nat.mod_lt n (Nat.succ_pos 9))]
  exact List.mem_singleton_self _

theorem mem_printNat {n : Nat} {c : Char} (h : c ∈ printNat n) : c.isDigit = true ∨ c = '.' := by
  rcases List.mem_append.mp h with hint | hfrac
  · exact Or.inl (isDigit_toDigits hint)
  · rcases List.mem_cons.mp hfrac with hpoint | hdigit
    · exact Or.inr hpoint
    · rw [List.mem_singleton.mp hdigit]
      exact Or.inl (isDigit_lastDigit n)

theorem readNat_printNat (n : Nat) : readNat (printNat n) = some n := by
  have hreverse : (printNat n).reverse =
      Nat.digitChar (n % 10) :: '.' :: (Nat.toDigits 10 (n / 10)).reverse := by
    unfold printNat
    rw [List.reverse_append]
    rfl
  have hdigits : (Nat.toDigits 10 (n / 10)).reverse.all Char.isDigit = true := by
    rw [List.all_eq_true]
    intro c hc
    exact isDigit_toDigits (List.mem_reverse.mp hc)
  have hlast : n % 10 < 10 := Nat.mod_lt n (Nat.succ_pos 9)
  unfold readNat
  rw [hreverse]
  simp only
  rw [if_pos ⟨isDigit_lastDigit n, hdigits⟩, List.reverse_reverse, Nat.ofDigitChars_append,
    Nat.ofDigitChars_ten_toDigits, Nat.ofDigitChars_cons_digitChar_of_lt_ten hlast,
    Nat.ofDigitChars_nil, Nat.div_add_mod]

theorem mem_print {x : Tenths} {c : Char} (h : c ∈ print x) :
    c.isDigit = true ∨ c = '.' ∨ c = '-' := by
  cases x with
  | tenths i =>
      cases i with
      | ofNat n =>
          rcases mem_printNat h with hdigit | hpoint
          · exact Or.inl hdigit
          · exact Or.inr (Or.inl hpoint)
      | negSucc n =>
          rcases List.mem_cons.mp h with hminus | hnat
          · exact Or.inr (Or.inr hminus)
          · rcases mem_printNat hnat with hdigit | hpoint
            · exact Or.inl hdigit
            · exact Or.inr (Or.inl hpoint)
  | nan => cases h

theorem point_mem_print {x : Tenths} (h : JsonFloat.isFinite x = true) : '.' ∈ print x := by
  have hnat : forall n, '.' ∈ printNat n := by
    intro n
    exact List.mem_append_right _ List.mem_cons_self
  cases x with
  | tenths i =>
      cases i with
      | ofNat n => exact hnat n
      | negSucc n => exact List.mem_cons_of_mem _ (hnat (n + 1))
  | nan => cases h

theorem read_print (x : Json.Finite Tenths) : read (print x.1) = some x := by
  rcases x with ⟨x, hx⟩
  cases x with
  | tenths i =>
      cases i with
      | ofNat n =>
          have hsign : forall cs, printNat n = '-' :: cs -> False := by
            intro cs hcs
            have hminus : '-' ∈ printNat n := by
              rw [hcs]
              exact List.mem_cons_self
            rcases mem_printNat hminus with hdigit | hpoint
            · exact ne_of_isDigit hdigit rfl rfl
            · revert hpoint
              decide
          have hread := readNat_printNat n
          unfold print
          rw [read, hread]
          · rfl
          · exact hsign
      | negSucc n =>
          have hread := readNat_printNat (n + 1)
          unfold print
          rw [read, hread]
          rfl
  | nan => cases hx

end Tenths

instance : FloatText Tenths where
  print x := Tenths.print x.1
  read := Tenths.read
  numeral x c h := by
    rcases Tenths.mem_print h with hdigit | hpoint | hminus
    · exact isNumeral_of_isDigit hdigit
    · rw [hpoint]
      rfl
    · rw [hminus]
      rfl
  mark x := ⟨'.', Tenths.point_mem_print x.2, rfl⟩
  read_print := Tenths.read_print

def positionMessage : Message Tenths := .position "abc123" 42 (.tenths 450) (.tenths 90) 123

def brokenPosition : Message Tenths := .position "abc123" 42 (.tenths 450) .nan 123

theorem wire_round_trip_position :
    decode (@plainText Tenths _ _) (encode plainText positionMessage) = some positionMessage ∧
    decode (@plainText Tenths _ _) (encode plainText brokenPosition) = none := by
  have hrange : forall m : Message Tenths, m.integers = [42, 123] -> m.InRange := by
    intro m hm i hi
    rw [hm] at hi
    simp only [List.mem_cons, List.not_mem_nil, or_false] at hi
    omega
  constructor
  · apply (wire_round_trip plainText plainText_inverse positionMessage (hrange _ rfl)).1
    intro x hx
    rcases List.mem_cons.mp hx with hlat | hlon
    · rw [hlat]
      rfl
    · rw [List.mem_singleton.mp hlon]
      rfl
  · apply (wire_round_trip plainText plainText_inverse brokenPosition (hrange _ rfl)).2.1
    exact ⟨.nan, List.mem_cons_of_mem _ (List.mem_singleton_self _), rfl⟩

example : encode plainText positionMessage =
    "\x7b\"type\":\"POSITION\",\"token\":\"abc123\",\"trip_id\":42," ++
      "\"lat\":45.0,\"lon\":9.0,\"ts\":123\x7d" := by
  rfl

end Wanderust
