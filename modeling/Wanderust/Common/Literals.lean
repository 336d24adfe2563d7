import Mathlib.Data.Nat.Cast.Defs

/-!
# Numeric literals

The literals of the source that several modules use as numbers of an ordered
field.  Each has one proof that it is a numeral, so that it is the same term in
all of them.
-/

namespace Wanderust

instance atLeastTwo_two : Nat.AtLeastTwo 2 := ⟨Nat.le_refl 2⟩
instance atLeastTwo_nine : Nat.AtLeastTwo 9 := ⟨by decide⟩
instance atLeastTwo_ten : Nat.AtLeastTwo 10 := ⟨by decide⟩
instance atLeastTwo_thirtySix : Nat.AtLeastTwo 36 := ⟨by decide⟩
instance atLeastTwo_fortyFive : Nat.AtLeastTwo 45 := ⟨by decide⟩
instance atLeastTwo_ninety : Nat.AtLeastTwo 90 := ⟨by decide⟩
instance atLeastTwo_hundred : Nat.AtLeastTwo 100 := ⟨by decide⟩
instance atLeastTwo_halfTurn : Nat.AtLeastTwo 180 := ⟨by decide⟩
instance atLeastTwo_hundredThousand : Nat.AtLeastTwo 100000 := ⟨by decide⟩
instance atLeastTwo_earthRadius : Nat.AtLeastTwo 6371000 := ⟨by decide⟩

end Wanderust
