import Wanderust.Common.Strings
import Wanderust.Server.State

/-!
# Lines of the admin

What `admin_stdin` makes of a line of the server's standard input.  Nothing but
the routing of the line is kept: what the task prints is left out.
-/

namespace Wanderust

/-! # Commands -/

inductive AdminCommand where
  | skip
  | list
  | direct (user text : String)
  | broadcast (text : String)
deriving DecidableEq

/-- A line that starts with `@`, without its first character. -/
def directCommand (rest : List Char) : AdminCommand :=
  match splitOnceWhitespace rest with
  | none => .skip
  | some (user, text) =>
      if (trimChars text).isEmpty then .skip
      else .direct (String.ofList user) (String.ofList (trimChars text))

def adminCommand (line : String) : AdminCommand :=
  let trimmed := trim line
  if trimmed.isEmpty then .skip
  else if trimmed = "/list" then .list
  else
    match trimmed.toList with
    | '@' :: rest => directCommand rest
    | _ => .broadcast trimmed

def IsAnnouncement (line : String) : Prop :=
  trim line ≠ "" ∧ trim line ≠ "/list" ∧ (trim line).toList.head? ≠ some '@'

instance (line : String) : Decidable (IsAnnouncement line) :=
  inferInstanceAs (Decidable (_ ∧ _ ∧ _))

theorem adminCommand_announcement {line : String} (h : IsAnnouncement line) :
    adminCommand line = .broadcast (trim line) := by
  rcases h with ⟨hempty, hlist, hdirect⟩
  unfold adminCommand
  rw [if_neg (by simpa using hempty), if_neg hlist]
  split
  · rename_i rest htrimmed
    rw [htrimmed] at hdirect
    exact absurd rfl hdirect
  · rfl

end Wanderust
