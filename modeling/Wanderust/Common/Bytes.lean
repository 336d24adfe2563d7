import Mathlib.Data.List.Basic

/-!
# Bytes of strings

The UTF-8 form of a string, and what is left of it by a function that ends its
input with a terminator and then reads a bounded number of bytes.
-/

namespace Wanderust

/-! # Terminated lists -/

section

variable {alpha : Type} {t : alpha} {n : Nat} {xs ys : List alpha}

/-- What is read of a list by a reader of at most `n` entries that expects the end mark `t`. -/
def terminated (t : alpha) (n : Nat) (xs : List alpha) : List alpha :=
  (xs ++ [t]).take n

theorem terminated_of_length_lt (h : xs.length < n) : terminated t n xs = xs ++ [t] := by
  unfold terminated
  rw [List.take_of_length_le]
  rw [List.length_append, List.length_singleton]
  exact h

theorem terminated_of_le_length (h : n ≤ xs.length) : terminated t n xs = xs.take n := by
  unfold terminated
  rw [List.take_append_of_le_length h]

theorem terminated_ne (ht : t ∉ ys) (hxs : xs.length < n) (hys : n ≤ ys.length) :
    terminated t n xs ≠ terminated t n ys := by
  intro h
  rw [terminated_of_length_lt hxs, terminated_of_le_length hys] at h
  have hmem : t ∈ ys.take n := by
    rw [← h]
    simp
  exact ht (List.mem_of_mem_take hmem)

/-- Only lists that both reach the bound can be read alike without being equal. -/
theorem terminated_eq_iff (hxs : t ∉ xs) (hys : t ∉ ys) :
    terminated t n xs = terminated t n ys <->
      xs = ys ∨ (n ≤ xs.length ∧ n ≤ ys.length ∧ xs.take n = ys.take n) := by
  constructor
  · intro h
    rcases Nat.lt_or_ge xs.length n with hx | hx
    · rcases Nat.lt_or_ge ys.length n with hy | hy
      · rw [terminated_of_length_lt hx, terminated_of_length_lt hy] at h
        exact Or.inl (List.append_cancel_right h)
      · exact absurd h (terminated_ne hys hx hy)
    · rcases Nat.lt_or_ge ys.length n with hy | hy
      · exact absurd h.symm (terminated_ne hxs hy hx)
      · rw [terminated_of_le_length hx, terminated_of_le_length hy] at h
        exact Or.inr ⟨hx, hy, h⟩
  · intro h
    rcases h with rfl | ⟨hx, hy, h⟩
    · rfl
    · rw [terminated_of_le_length hx, terminated_of_le_length hy, h]

end

/-! # UTF-8 -/

def utf8Bytes (s : String) : List UInt8 :=
  s.toByteArray.data.toList

theorem length_utf8Bytes (s : String) : (utf8Bytes s).length = s.utf8ByteSize := rfl

theorem utf8Bytes_eq_flatMap (s : String) :
    utf8Bytes s = s.toList.flatMap String.utf8EncodeChar := by
  rw [utf8Bytes, ← String.utf8Encode_toList, List.utf8Encode, List.toList_data_toByteArray]

theorem utf8Bytes_inj {s t : String} : utf8Bytes s = utf8Bytes t <-> s = t := by
  rw [utf8Bytes_eq_flatMap, utf8Bytes_eq_flatMap, ← List.toByteArray_inj,
    ← String.toByteArray_inj, ← String.utf8Encode_toList, ← String.utf8Encode_toList]
  rfl

/-- The character that C strings end with. -/
def nul : Char := Char.ofNat 0

/-- Every byte of a longer form has its top bit set, so none of them is zero. -/
theorem utf8EncodeChar_zero {c : Char} (h : 0 ∈ String.utf8EncodeChar c) : c = nul := by
  have hbyte : forall v : Nat, 0 < v % 256 -> 0 ≠ UInt8.ofNat v := by
    intro v hv heq
    have hnat := congrArg UInt8.toNat heq
    rw [UInt8.toNat_ofNat'] at hnat
    exact absurd hnat (Nat.ne_of_lt hv)
  have hzero : c.val.toNat = 0 := by
    by_contra hne
    unfold String.utf8EncodeChar at h
    by_cases h7 : c.val.toNat ≤ 0x7f
    · rw [if_pos h7, List.mem_singleton] at h
      exact hbyte _ (by omega) h
    · simp only [if_neg h7] at h
      split at h
      · rcases List.mem_cons.mp h with h | h
        · exact hbyte _ (by omega) h
        · exact hbyte _ (by omega) (List.mem_singleton.mp h)
      · split at h
        all_goals
          simp only [List.mem_cons, List.not_mem_nil, or_false] at h
        · rcases h with h | h | h
          all_goals exact hbyte _ (by omega) h
        · rcases h with h | h | h | h
          all_goals exact hbyte _ (by omega) h
  apply Char.ext
  apply UInt32.toNat_inj.mp
  rw [hzero]
  rfl

theorem utf8Bytes_nonzero {s : String} (h : nul ∉ s.toList) : 0 ∉ utf8Bytes s := by
  intro hmem
  rw [utf8Bytes_eq_flatMap, List.mem_flatMap] at hmem
  rcases hmem with ⟨c, hc, hzero⟩
  rw [utf8EncodeChar_zero hzero] at hc
  exact h hc

end Wanderust
