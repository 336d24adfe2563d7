import Mathlib.Data.List.DropRight
import Wanderust.Common.Strings

/-!
# Trimmed lines

What trimming and splitting a line tell of the parts, and which lines are left
alone by them.
-/

namespace Wanderust

variable {cs : List Char}

end Wanderust
