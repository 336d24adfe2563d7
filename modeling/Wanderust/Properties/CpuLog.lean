import Mathlib.Algebra.Order.Field.Rat
import Mathlib.Data.Rat.Floor
import Wanderust.Server.CpuLog
import Wanderust.Web.CpuLog

/-!
# The log of the processor time

What the page reads of `server_cpu.log` is what the server has written, with the
numbers rounded to the places that are printed.
-/

namespace Wanderust

open Formats Pattern Page

/-! # Lines -/

theorem splitLines_cons {c : Char} {cs line : List Char} {lines : List (List Char)}
    (hreturn : forall rest, c = '\r' -> cs = '\n' :: rest -> False) (hend : c = '\n' -> False)
    (hcs : splitLines cs = line :: lines) : splitLines (c :: cs) = (c :: line) :: lines := by
  rw [splitLines, hcs]
  · exact hreturn
  · exact hend

/-- Behind the end of a line nothing changes what has been read before. -/
theorem splitLines_append {file : List Char} (h : file.getLast? = some '\n') :
    exists lines, lines ≠ [] ∧
      forall rest, splitLines (file ++ rest) = lines ++ splitLines rest := by
  have hchar (c : Char) (cs : List Char) (hlast : (c :: cs).getLast? = some '\n')
      (hreturn : forall rest, c = '\r' -> cs = '\n' :: rest -> False) (hend : c = '\n' -> False)
      (ih : cs.getLast? = some '\n' -> exists lines, lines ≠ [] ∧
        forall rest, splitLines (cs ++ rest) = lines ++ splitLines rest) :
      exists lines, lines ≠ [] ∧
        forall rest, splitLines (c :: cs ++ rest) = lines ++ splitLines rest := by
    cases cs with
    | nil => exact absurd (Option.some.inj hlast) hend
    | cons d cs =>
        rcases ih hlast with ⟨lines, hne, hlines⟩
        cases lines with
        | nil => exact absurd rfl hne
        | cons line lines =>
            refine ⟨(c :: line) :: lines, List.cons_ne_nil _ _, fun rest => ?_⟩
            apply splitLines_cons _ hend (hlines rest)
            intro rest' hc hd
            cases hd
            exact hreturn cs hc rfl
  induction file using splitLines.induct with
  | case1 => cases h
  | case2 cs ih =>
      cases cs with
      | nil => exact ⟨[[]], List.cons_ne_nil _ _, fun rest => rfl⟩
      | cons c cs =>
          rcases ih h with ⟨lines, _, hlines⟩
          exact ⟨[] :: lines, List.cons_ne_nil _ _, fun rest => congrArg _ (hlines rest)⟩
  | case3 cs ih =>
      cases cs with
      | nil => exact ⟨[[]], List.cons_ne_nil _ _, fun rest => rfl⟩
      | cons c cs =>
          rcases ih h with ⟨lines, _, hlines⟩
          exact ⟨[] :: lines, List.cons_ne_nil _ _, fun rest => congrArg _ (hlines rest)⟩
  | case4 c cs hreturn hend line lines _ ih => exact hchar c cs h hreturn hend ih
  | case5 c cs hreturn hend _ ih => exact hchar c cs h hreturn hend ih

theorem splitLines_line {line : List Char} (h : forall c, c ∈ line -> c ≠ '\r' ∧ c ≠ '\n')
    (rest : List Char) : splitLines (line ++ '\n' :: rest) = line :: splitLines rest := by
  induction line with
  | nil => rfl
  | cons c line ih =>
      rcases h c List.mem_cons_self with ⟨hreturn, hend⟩
      exact splitLines_cons (fun _ hc => absurd hc hreturn) hend
        (ih fun d hd => h d (List.mem_cons_of_mem c hd))

/-! # One line -/

section

variable {F : Type} [Field F] [LinearOrder F]

/-- The first character of a text that stands behind another one. -/
def Stops (p : Char -> Bool) (rest : List Char) : Prop :=
  forall c, rest.head? = some c -> p c = false

theorem stops_cons {p : Char -> Bool} {c : Char} (h : p c = false) (cs : List Char) :
    Stops p (c :: cs) := by
  intro d hd
  cases hd
  exact h

theorem stops_nil (p : Char -> Bool) : Stops p [] := by
  intro d hd
  cases hd

variable {rest : List Char}

theorem first_digits (n : Nat) (h : Stops Char.isDigit rest) :
    (group digits).first (Nat.toDigits 10 n ++ rest) = some ([some (Nat.toDigits 10 n)], rest) :=
  first_group (first_plus _ (fun _ hc => isDigit_of_mem_toDigits hc) Nat.toDigits_ne_nil h)

theorem isBlank_of_mem_replicate (n : Nat) (c : Char) (hc : c ∈ List.replicate n ' ') :
    isBlank c = true := by
  rw [List.eq_of_mem_replicate hc]
  rfl

theorem first_blank (h : Stops isBlank rest) : blanks.first (' ' :: rest) = some ([], rest) :=
  first_plus [' '] (isBlank_of_mem_replicate 1) (List.cons_ne_nil _ _) h

theorem first_twoBlanks (h : Stops isBlank rest) :
    blanks.first (' ' :: ' ' :: rest) = some ([], rest) :=
  first_plus [' ', ' '] (isBlank_of_mem_replicate 2) (List.cons_ne_nil _ _) h

theorem first_twoDigits {n : Nat} (h : n < 100) (rest : List Char) :
    twoDigits.first (padded 2 n ++ rest) = some ([], rest) := by
  have hlength : (padded 2 n).length = 2 := length_padded (by decide) h
  match hdigits : padded 2 n, hlength with
  | [a, b], _ =>
      have ha : a.isDigit = true := isDigit_of_mem_padded (by rw [hdigits]; simp)
      have hb : b.isDigit = true := isDigit_of_mem_padded (by rw [hdigits]; simp)
      exact first_seq (first_one ha _) (first_one hb rest)

theorem first_clock (e : CpuTimes F) (rest : List Char) :
    (group clockPattern).first (e.clock ++ rest) = some ([some e.clock], rest) := by
  apply first_group
  unfold CpuTimes.clock clockPattern
  simp only [List.append_assoc, List.cons_append]
  have hhour : e.wall / 3600 % 24 < 100 := lt_trans (Nat.mod_lt _ (by decide)) (by decide)
  have hminute : e.wall / 60 % 60 < 100 := lt_trans (Nat.mod_lt _ (by decide)) (by decide)
  have hsecond : e.wall % 60 < 100 := lt_trans (Nat.mod_lt _ (by decide)) (by decide)
  exact first_seqs (first_twoDigits hhour _) (first_seqs (first_lit [':'] _)
    (first_seqs (first_twoDigits hminute _) (first_seqs (first_lit [':'] _)
    (first_seqs (first_twoDigits hsecond _) (first_empty _)))))

variable [FloorSemiring F]

theorem isNumber_printFixed {places : Nat} {x : F} {c : Char} (h : c ∈ printFixed places x) :
    (c.isDigit || c == '.') = true := by
  unfold printFixed at h
  rcases List.mem_append.mp h with h | h
  · rw [isDigit_of_mem_toDigits h, Bool.true_or]
  · rcases List.mem_cons.mp h with h | h
    · rw [h]
      rfl
    · rw [isDigit_of_mem_padded h, Bool.true_or]

theorem first_number (places : Nat) (x : F) (h : Stops (fun c => c.isDigit || c == '.') rest) :
    (group number).first (printFixed places x ++ rest) =
      some ([some (printFixed places x)], rest) :=
  first_group (first_plus _ (fun _ hc => isNumber_printFixed hc)
    (List.append_ne_nil_of_right_ne_nil _ (List.cons_ne_nil _ _)) h)

def CpuTimes.shares (e : CpuTimes F) : List Char :=
  "cpu_pct=".toList ++ (printFixed 2 e.pct ++ ("%".toList ++
    ("  ".toList ++ ("cores=".toList ++ Nat.toDigits 10 e.cores))))

def CpuTimes.times (e : CpuTimes F) : List Char :=
  "cpu_tot".toList ++ (['a'] ++ (['l'] ++ ("=".toList ++ (printFixed 3 e.total ++ ("s".toList ++
    ("  ".toList ++ ("cpu_interval".toList ++ ("_2min=".toList ++ (printFixed 3 e.interval ++
      ("s".toList ++ ("  ".toList ++ e.shares)))))))))))

def CpuTimes.body (e : CpuTimes F) : List Char :=
  "[".toList ++ (Nat.toDigits 10 e.wall ++ ("]".toList ++ (" ".toList ++ ("[".toList ++ (e.clock ++
    (" ".toList ++ ("UTC]".toList ++ ("  ".toList ++ e.times))))))))

theorem line_eq_body (e : CpuTimes F) (rest : List Char) :
    e.line ++ rest = e.body ++ '\n' :: rest := by
  unfold CpuTimes.line CpuTimes.body CpuTimes.times CpuTimes.shares
  simp only [List.append_assoc]
  rfl

theorem first_cores (n : Nat) :
    coresPattern.first ("  ".toList ++ ("cores=".toList ++ Nat.toDigits 10 n)) =
      some ([some (Nat.toDigits 10 n)], []) := by
  have hdigits := first_digits n (stops_nil Char.isDigit)
  rw [List.append_nil] at hdigits
  have hfirst := first_seqs (first_twoBlanks (stops_cons rfl _)) (first_seqs
    (first_lit "cores=".toList _) (first_seqs hdigits (first_seqs_nil [])))
  exact first_opt hfirst

theorem first_shares (e : CpuTimes F) :
    (seqs [lit "cpu_pct=".toList, group number, lit "%".toList, coresPattern]).first e.shares =
      some ([some (printFixed 2 e.pct), some (Nat.toDigits 10 e.cores)], []) := by
  have hfirst := first_seqs (first_lit "cpu_pct=".toList _)
    (first_seqs (first_number 2 e.pct (stops_cons rfl _))
    (first_seqs (first_lit "%".toList _) (first_seqs (first_cores e.cores) (first_seqs_nil []))))
  exact hfirst

theorem first_times (e : CpuTimes F) :
    (seqs [lit "cpu_tot".toList, opt (lit ['a']), lit ['l'], opt (lit ['e']), lit "=".toList,
      group number, lit "s".toList, blanks, lit "cpu_interval".toList, opt (lit "lo".toList),
      lit "_2min=".toList, group number, lit "s".toList, blanks, lit "cpu_pct=".toList,
      group number, lit "%".toList, coresPattern]).first e.times =
      some ([some (printFixed 3 e.total), some (printFixed 3 e.interval),
        some (printFixed 2 e.pct), some (Nat.toDigits 10 e.cores)], []) := by
  have hinterval := first_seqs (first_lit "_2min=".toList _)
    (first_seqs (first_number 3 e.interval (stops_cons rfl _)) (first_seqs (first_lit "s".toList _)
    (first_seqs (first_twoBlanks (stops_cons rfl _)) (first_shares e))))
  have hskip (cs : List Char) : (opt (lit ['e'])).first ('=' :: cs) = some ([], '=' :: cs) :=
    first_opt_skip rfl
  have hskip' (cs : List Char) : (opt (lit "lo".toList)).first ('_' :: cs) = some ([], '_' :: cs) :=
    first_opt_skip rfl
  have htotal := first_seqs (first_lit "cpu_tot".toList _) (first_seqs
    (first_opt (first_lit ['a'] _)) (first_seqs (first_lit ['l'] _) (first_seqs (hskip _)
    (first_seqs (first_lit "=".toList _) (first_seqs
    (first_number 3 e.total (stops_cons rfl _)) (first_seqs (first_lit "s".toList _)
    (first_seqs (first_twoBlanks (stops_cons rfl _)) (first_seqs (first_lit "cpu_interval".toList _)
    (first_seqs (hskip' _) hinterval)))))))))
  exact htotal

theorem first_body (e : CpuTimes F) :
    cpuPattern.first e.body =
      some ([some (Nat.toDigits 10 e.wall), some e.clock, some (printFixed 3 e.total),
        some (printFixed 3 e.interval), some (printFixed 2 e.pct),
        some (Nat.toDigits 10 e.cores)], []) := by
  have hwall := first_seqs (first_lit "[".toList _) (first_seqs
    (first_digits e.wall (stops_cons rfl _)) (first_seqs (first_lit "]".toList _)
    (first_seqs (first_blank (stops_cons rfl _)) (first_seqs (first_lit "[".toList _)
    (first_seqs (first_clock e _) (first_seqs (first_blank (stops_cons rfl _))
    (first_seqs (first_lit "UTC]".toList _) (first_seqs (first_twoBlanks (stops_cons rfl _))
    (first_times e)))))))))
  exact hwall

/-! # The file -/

def isPlain (c : Char) : Bool := c != '\r' && c != '\n'

omit [Field F] [LinearOrder F] [FloorSemiring F] in
theorem isPlain_of_isDigit {c : Char} (h : c.isDigit = true) : isPlain c = true := by
  rw [isPlain, Bool.and_eq_true, bne_iff_ne, bne_iff_ne]
  constructor
  · intro heq
    rw [heq] at h
    cases h
  · intro heq
    rw [heq] at h
    cases h

theorem body_plain (e : CpuTimes F) : e.body.all isPlain = true := by
  have hdigits (n : Nat) : (Nat.toDigits 10 n).all isPlain = true :=
    List.all_eq_true.mpr fun c hc => isPlain_of_isDigit (isDigit_of_mem_toDigits hc)
  have hpadded (width n : Nat) : (padded width n).all isPlain = true :=
    List.all_eq_true.mpr fun c hc => isPlain_of_isDigit (isDigit_of_mem_padded hc)
  have hfixed (places : Nat) (x : F) : (printFixed places x).all isPlain = true := by
    rw [printFixed, List.all_append, List.all_cons, hdigits, hpadded]
    rfl
  have hclock : e.clock.all isPlain = true := by
    rw [CpuTimes.clock, List.all_append, List.all_append, List.all_cons, List.all_cons, hpadded,
      hpadded, hpadded]
    rfl
  unfold CpuTimes.body CpuTimes.times CpuTimes.shares
  simp only [List.all_append, hdigits, hfixed, hclock, Bool.and_true, Bool.and_eq_true]
  decide

/-- A file to which a line can be appended. -/
def Complete (file : List Char) : Prop := file = [] ∨ file.getLast? = some '\n'

theorem line_eq (e : CpuTimes F) : e.line = e.body ++ ['\n'] := by
  have hrest := line_eq_body e []
  rw [List.append_nil] at hrest
  exact hrest

theorem complete_line (file : List Char) (e : CpuTimes F) : Complete (file ++ e.line) := by
  rw [line_eq, ← List.append_assoc]
  exact Or.inr List.getLast?_concat

variable [IsStrictOrderedRing F]

def CpuTimes.sample (e : CpuTimes F) : CpuSample F :=
  { wall := some e.wall
    time := e.clock
    total := some (rounded 3 e.total)
    interval := some (rounded 3 e.interval)
    pct := some (rounded 2 e.pct)
    cores := some e.cores }

theorem cpuSample_body (e : CpuTimes F) : cpuSample e.body = some e.sample := by
  unfold cpuSample
  rw [first_body]
  dsimp only [Option.map_some]
  rw [readDecimal_digits, readDecimal_digits, readDecimal_printFixed (by decide),
    readDecimal_printFixed (by decide), readDecimal_printFixed (by decide)]
  rfl

theorem parseCpuLog_line {file : List Char} (h : Complete file) (e : CpuTimes F) :
    parseCpuLog (file ++ e.line) = parseCpuLog file ++ [e.sample] := by
  have hlines : exists lines,
      forall rest, splitLines (file ++ rest) = lines ++ splitLines rest := by
    rcases h with rfl | hend
    · exact ⟨[], fun rest => rfl⟩
    · rcases splitLines_append hend with ⟨lines, _, hlines⟩
      exact ⟨lines, hlines⟩
  rcases hlines with ⟨lines, hlines⟩
  have hplain (c : Char) (hc : c ∈ e.body) : c ≠ '\r' ∧ c ≠ '\n' := by
    have hc := List.all_eq_true.mp (body_plain e) c hc
    rw [isPlain, Bool.and_eq_true, bne_iff_ne, bne_iff_ne] at hc
    exact hc
  have hfile := hlines []
  rw [List.append_nil] at hfile
  have hempty : (splitLines []).filterMap (cpuSample (F := F)) = [] := rfl
  unfold parseCpuLog
  rw [hlines, line_eq, splitLines_line hplain, hfile, List.filterMap_append, List.filterMap_append,
    List.filterMap_cons_some (cpuSample_body e), hempty, List.append_nil]

theorem pct_nonneg (e : CpuTimes F) : 0 ≤ e.pct := by
  have hinterval := e.interval_nonneg
  unfold CpuTimes.pct logIntervalSecs
  positivity

/--
Whatever has been in the file, the page reads the lines that the server has added
as they were written: the time and the cores as they are, the seconds to half a
millisecond, and the share to half a hundredth of a percent.
-/
theorem cpu_log_read (file : List Char) (h : Complete file) (entries : List (CpuTimes F)) :
    parseCpuLog (writeEntries file entries) =
        parseCpuLog file ++ entries.map CpuTimes.sample ∧
      forall e, e ∈ entries -> |rounded 3 e.total - e.total| ≤ 1 / 2 / 10 ^ 3 ∧
        |rounded 3 e.interval - e.interval| ≤ 1 / 2 / 10 ^ 3 ∧
        |rounded 2 e.pct - e.pct| ≤ 1 / 2 / 10 ^ 2 := by
  constructor
  · induction entries generalizing file with
    | nil => exact (List.append_nil _).symm
    | cons e entries ih =>
        show parseCpuLog (writeEntries (file ++ e.line) entries) = _
        rw [ih _ (complete_line file e), parseCpuLog_line h, List.append_assoc]
        rfl
  · intro e _
    exact ⟨rounded_near 3 e.total_nonneg, rounded_near 3 e.interval_nonneg,
      rounded_near 2 (pct_nonneg e)⟩

/-- A line of an older server, in Italian and without the cores. -/
def oldLine : List Char :=
  "[12] [00:00:12 UTC]  cpu_totale=1.5s  cpu_intervallo_2min=0.5s  cpu_pct=0.42%\n".toList

def lateTimes : CpuTimes ℚ where
  wall := 83250
  total := 5 / 2
  interval := 1
  cores := 8
  total_nonneg := by norm_num
  interval_nonneg := by norm_num

theorem cpu_log_read_late :
    (parseCpuLog (writeEntries oldLine [lateTimes])).map CpuSample.cores =
      [some (1 : ℚ), some 8] := by
  have hread := (cpu_log_read oldLine (Or.inr (by decide)) [lateTimes]).1
  have hold : (parseCpuLog (F := ℚ) oldLine).map CpuSample.cores = [some 1] := by
    decide +kernel
  rw [hread, List.map_append, hold]
  rfl

end

end Wanderust
