import Wanderust.Formats.Decimals
import Wanderust.Formats.Patterns
import Wanderust.Web.Texts

/-!
# The processor time on the page

How the page reads the lines of `server_cpu.log`.
-/

namespace Wanderust.Page

open Formats Pattern

/-- The text between the ends of lines, which a carriage return can belong to. -/
def splitLines : List Char -> List (List Char)
  | [] => [[]]
  | '\r' :: '\n' :: cs => [] :: splitLines cs
  | '\n' :: cs => [] :: splitLines cs
  | c :: cs =>
      match splitLines cs with
      | line :: lines => (c :: line) :: lines
      | [] => [[c]]

/-! # The pattern of a line -/

def digits : Pattern := plus Char.isDigit

def number : Pattern := plus fun c => c.isDigit || c == '.'

def blanks : Pattern := plus isBlank

def twoDigits : Pattern := seq (one Char.isDigit) (one Char.isDigit)

def clockPattern : Pattern := seqs [twoDigits, lit [':'], twoDigits, lit [':'], twoDigits]

/-- The number of cores is not in older logs. -/
def coresPattern : Pattern := opt (seqs [blanks, lit "cores=".toList, group digits])

/-- The keys of older logs, in Italian, are known too. -/
def cpuPattern : Pattern :=
  seqs [lit "[".toList, group digits, lit "]".toList, blanks, lit "[".toList, group clockPattern,
    blanks, lit "UTC]".toList, blanks,
    lit "cpu_tot".toList, opt (lit ['a']), lit ['l'], opt (lit ['e']), lit "=".toList,
    group number, lit "s".toList, blanks,
    lit "cpu_interval".toList, opt (lit "lo".toList), lit "_2min=".toList,
    group number, lit "s".toList, blanks,
    lit "cpu_pct=".toList, group number, lit "%".toList, coresPattern]

/-- A text that is no number makes a number that is none. -/
structure CpuSample (F : Type) where
  wall : Option F
  time : List Char
  total : Option F
  interval : Option F
  pct : Option F
  cores : Option F

section

variable {F : Type} [Field F]

def cpuSample (line : List Char) : Option (CpuSample F) :=
  match (cpuPattern.first line).map Prod.fst with
  | some [some wall, some time, some total, some interval, some pct, cores] =>
      some
        { wall := readDecimal wall
          time
          total := readDecimal total
          interval := readDecimal interval
          pct := readDecimal pct
          cores :=
            match cores with
            | some cores => readDecimal cores
            | none => some 1 }
  | _ => none

def parseCpuLog (txt : List Char) : List (CpuSample F) := (splitLines txt).filterMap cpuSample

end

end Wanderust.Page
