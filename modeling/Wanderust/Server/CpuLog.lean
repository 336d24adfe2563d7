import Wanderust.Common.Literals
import Wanderust.Formats.Decimals

/-!
# The log of the processor time

Every two minutes the server appends a line to `server_cpu.log`.
-/

namespace Wanderust

open Formats

/-- What is measured when a line is written; a duration is not negative. -/
structure CpuTimes (F : Type) [Zero F] [LE F] where
  wall : Nat
  total : F
  interval : F
  cores : Nat
  total_nonneg : 0 ≤ total
  interval_nonneg : 0 ≤ interval

section

variable {F : Type} [Field F] [LinearOrder F] [IsStrictOrderedRing F] [FloorSemiring F]

def logIntervalSecs : F := 120

namespace CpuTimes

def pct (e : CpuTimes F) : F := e.interval / (logIntervalSecs * e.cores) * 100

def clock (e : CpuTimes F) : List Char :=
  padded 2 (e.wall / 3600 % 24) ++ ':' :: padded 2 (e.wall / 60 % 60) ++
    ':' :: padded 2 (e.wall % 60)

def line (e : CpuTimes F) : List Char :=
  "[".toList ++ Nat.toDigits 10 e.wall ++ "] [".toList ++ e.clock ++
    " UTC]  cpu_total=".toList ++ printFixed 3 e.total ++
    "s  cpu_interval_2min=".toList ++ printFixed 3 e.interval ++
    "s  cpu_pct=".toList ++ printFixed 2 e.pct ++
    "%  cores=".toList ++ Nat.toDigits 10 e.cores ++ ['\n']

end CpuTimes

/-- The file after the lines have been appended to it. -/
def writeEntries (file : List Char) (entries : List (CpuTimes F)) : List Char :=
  entries.foldl (fun file e => file ++ e.line) file

end

end Wanderust
