import Wanderust.Common.Trimmed
import Wanderust.Properties.NetworkRequests
import Wanderust.Properties.PageRequests
import Wanderust.Web.Chat

/-!
# What users type

Which credentials can be entered in the two clients, and how the page shows what
other users have typed.
-/

namespace Wanderust

open Interleaving

/-! # The command line -/

section

variable {F : Type}

variable [Geo F] [Cli.ParseF64 F]

inductive Credentials where
  | register
  | login

def Credentials.message : Credentials -> (username password : String) -> Message F
  | .register => .register
  | .login => .login

end

/-! # The page -/

def isNameChar (c : Char) : Bool := c.isAlphanum || c == '_' || c == '-'

theorem validateUsername_ok {u : String} : validateUsername u = .ok () <->
    u ≠ "" ∧ u.utf8ByteSize ≤ maxUsernameLen ∧ u.toList.all isNameChar = true := by
  unfold validateUsername
  split
  case isTrue hempty => simp [String.isEmpty_iff.mp hempty]
  case isFalse hempty =>
    have hne : u ≠ "" := fun heq => hempty (String.isEmpty_iff.mpr heq)
    split
    case isTrue hlong => simp [hne, Nat.not_le.mpr hlong]
    case isFalse hshort =>
      have hle := Nat.le_of_not_lt hshort
      show (if (!u.toList.all isNameChar) = true then _ else _) = _ <-> _
      cases hall : u.toList.all isNameChar with
      | true => simp [hne, hle]
      | false => simp

theorem nameChar_range {c : Char} (h : isNameChar c = true) :
    c.toNat < 128 ∧ Page.isBlank c = false ∧ isWhitespace c = false := by
  have hbounds {x y : Char} (hx : c.val ≥ x.val) (hy : c.val ≤ y.val)
      (hxy : 33 ≤ x.toNat ∧ y.toNat < 128) : 33 ≤ c.toNat ∧ c.toNat < 128 :=
    ⟨le_trans hxy.1 (UInt32.le_iff_toNat_le.mp hx),
      lt_of_le_of_lt (UInt32.le_iff_toNat_le.mp hy) hxy.2⟩
  have hrange : 33 ≤ c.toNat ∧ c.toNat < 128 := by
    have hdef : isNameChar c = (((decide (c.val ≥ 'A'.val ∧ c.val ≤ 'Z'.val) ||
        (decide (c.val ≥ 'a'.val) && decide (c.val ≤ 'z'.val))) ||
        (decide (c.val ≥ '0'.val) && decide (c.val ≤ '9'.val))) || c == '_' || c == '-') := rfl
    simp only [hdef, Bool.or_eq_true, Bool.and_eq_true, decide_eq_true_eq, beq_iff_eq] at h
    rcases h with (((h | h) | h) | rfl) | rfl
    · exact hbounds h.1 h.2 (by decide)
    · exact hbounds h.1 h.2 (by decide)
    · exact hbounds h.1 h.2 (by decide)
    · decide
    · decide
  refine ⟨hrange.2, ?_, ?_⟩
  · unfold Page.isBlank
    simp
    omega
  · unfold isWhitespace
    simp
    omega

theorem validateCreds_ok {user pass u p : String} :
    Page.validateCreds user pass = .ok (u, p) <->
      u = Page.trim user ∧ p = pass ∧ u ≠ "" ∧ u.toList.all isNameChar = true ∧
        Page.utf16Length u ≤ maxUsernameLen ∧ p ≠ "" ∧ Page.utf16Length p ≤ maxPasswordLen := by
  unfold Page.validateCreds
  dsimp only
  constructor
  · intro h
    split at h
    · cases h
    · split at h
      · cases h
      · split at h
        · cases h
        · split at h
          · cases h
          · split at h
            · cases h
            case isFalse hempty hchars hlong hnone hmax =>
              cases h
              refine ⟨rfl, rfl, fun heq => hempty (String.isEmpty_iff.mpr heq), ?_,
                Nat.le_of_not_lt hlong, fun heq => hnone (String.isEmpty_iff.mpr heq),
                Nat.le_of_not_lt hmax⟩
              rw [Bool.not_eq_true, Bool.not_eq_false'] at hchars
              exact hchars
  · intro h
    rcases h with ⟨rfl, rfl, hne, hall, hsize, hpne, hmax⟩
    have hchars : ¬ (!((Page.trim user).toList.all fun c =>
        c.isAlphanum || c == '_' || c == '-')) = true := by
      rw [Bool.not_eq_true, Bool.not_eq_false']
      exact hall
    rw [if_neg (fun hempty => hne (String.isEmpty_iff.mp hempty)), if_neg hchars,
      if_neg (show ¬ 32 < _ from Nat.not_lt.mpr hsize),
      if_neg (fun hempty => hpne (String.isEmpty_iff.mp hempty)),
      if_neg (show ¬ 128 < _ from Nat.not_lt.mpr hmax)]

theorem trim_of_name {u : String} (h : u.toList.all isNameChar = true) : Page.trim u = u := by
  have hstart (cs : List Char) (hcs : forall c, c ∈ cs -> c ∈ u.toList) :
      cs.dropWhile Page.isBlank = cs := by
    cases cs with
    | nil => rfl
    | cons c cs =>
        have hname := List.all_eq_true.mp h c (hcs c List.mem_cons_self)
        rw [List.dropWhile_cons, (nameChar_range hname).2.1, if_neg Bool.false_ne_true]
  rw [Page.trim, hstart _ fun _ hc => hc, hstart _ fun _ hc => List.mem_reverse.mp hc,
    List.reverse_reverse, String.ofList_toList]

theorem utf16Length_name {u : String} (h : u.toList.all isNameChar = true) :
    Page.utf16Length u = u.utf8ByteSize :=
  Page.utf16Length_ascii fun c hc => (nameChar_range (List.all_eq_true.mp h c hc)).1

theorem entered {u pass : String} (hu : validateUsername u = .ok ()) (hne : pass ≠ "")
    (hsize : Page.utf16Length pass ≤ maxPasswordLen) :
    Page.validateCreds u pass = .ok (u, pass) := by
  rcases validateUsername_ok.mp hu with ⟨hune, husize, hall⟩
  rw [validateCreds_ok, trim_of_name hall, utf16Length_name hall]
  exact ⟨rfl, rfl, hune, hall, husize, hne, hsize⟩

theorem passed {user pass u : String}
    (h : (Page.validateCreds user pass).map Prod.fst = .ok u) : validateUsername u = .ok () := by
  cases hcreds : Page.validateCreds user pass with
  | error e =>
      rw [hcreds] at h
      cases h
  | ok creds =>
      rw [hcreds] at h
      cases h
      rcases validateCreds_ok.mp hcreds with ⟨-, -, hne, hall, hsize, -, -⟩
      rw [utf16Length_name hall] at hsize
      exact validateUsername_ok.mpr ⟨hne, hsize, hall⟩

open Page

section

attribute [local instance] Sim.rationalArith

end

end Wanderust
