import Wanderust.Json.Tokens

/-!
# JSON texts

A printer of values without white space and a parser of its texts.  The parser
has fuel, and the length of the text is enough of it.
-/

namespace Json

variable {F : Type} [JsonFloat F] [FloatText F]

/-! # Values -/

mutual

def printValue : Value F -> List Char
  | .null => ['n', 'u', 'l', 'l']
  | .bool true => ['t', 'r', 'u', 'e']
  | .bool false => ['f', 'a', 'l', 's', 'e']
  | .integer i => printInt i
  | .float x => FloatText.print x
  | .string s => printString s
  | .array items => '[' :: printItems items
  | .object members => '{' :: printMembers members

def printItems : List (Value F) -> List Char
  | [] => [']']
  | v :: rest => printValue v ++ printMoreItems rest

def printMoreItems : List (Value F) -> List Char
  | [] => [']']
  | v :: rest => ',' :: (printValue v ++ printMoreItems rest)

def printMembers : List (String × Value F) -> List Char
  | [] => ['}']
  | (k, v) :: rest => printString k ++ ':' :: (printValue v ++ printMoreMembers rest)

def printMoreMembers : List (String × Value F) -> List Char
  | [] => ['}']
  | (k, v) :: rest => ',' :: (printString k ++ ':' :: (printValue v ++ printMoreMembers rest))

end

def readKey : List Char -> Option (String × List Char)
  | '"' :: cs => do
      let (k, cs) ← readChars cs
      match cs with
      | ':' :: rest => return (String.ofList k, rest)
      | _ => none
  | _ => none

mutual

def readValue : Nat -> List Char -> Option (Value F × List Char)
  | 0, _ => none
  | fuel + 1, cs =>
      match cs with
      | 'n' :: 'u' :: 'l' :: 'l' :: rest => some (.null, rest)
      | 't' :: 'r' :: 'u' :: 'e' :: rest => some (.bool true, rest)
      | 'f' :: 'a' :: 'l' :: 's' :: 'e' :: rest => some (.bool false, rest)
      | '"' :: rest => (readChars rest).map fun p => (.string (String.ofList p.1), p.2)
      | '[' :: rest => (readItems fuel rest).map fun p => (.array p.1, p.2)
      | '{' :: rest => (readMembers fuel rest).map fun p => (.object p.1, p.2)
      | cs => readNumber cs

def readItems : Nat -> List Char -> Option (List (Value F) × List Char)
  | 0, _ => none
  | fuel + 1, cs =>
      match cs with
      | ']' :: rest => some ([], rest)
      | cs => do
          let (v, cs) ← readValue fuel cs
          let (items, rest) ← readMoreItems fuel cs
          return (v :: items, rest)

def readMoreItems : Nat -> List Char -> Option (List (Value F) × List Char)
  | 0, _ => none
  | fuel + 1, cs =>
      match cs with
      | ']' :: rest => some ([], rest)
      | ',' :: cs => do
          let (v, cs) ← readValue fuel cs
          let (items, rest) ← readMoreItems fuel cs
          return (v :: items, rest)
      | _ => none

def readMembers : Nat -> List Char -> Option (List (String × Value F) × List Char)
  | 0, _ => none
  | fuel + 1, cs =>
      match cs with
      | '}' :: rest => some ([], rest)
      | cs => do
          let (k, cs) ← readKey cs
          let (v, cs) ← readValue fuel cs
          let (members, rest) ← readMoreMembers fuel cs
          return ((k, v) :: members, rest)

def readMoreMembers : Nat -> List Char -> Option (List (String × Value F) × List Char)
  | 0, _ => none
  | fuel + 1, cs =>
      match cs with
      | '}' :: rest => some ([], rest)
      | ',' :: cs => do
          let (k, cs) ← readKey cs
          let (v, cs) ← readValue fuel cs
          let (members, rest) ← readMoreMembers fuel cs
          return ((k, v) :: members, rest)
      | _ => none

end

/-! # Round trip -/

theorem readValue_numeral {c : Char} (h : isNumeral c = true) (fuel : Nat) (cs : List Char) :
    readValue (fuel + 1) (c :: cs) = (readNumber (c :: cs) : Option (Value F × List Char)) := by
  have hhead : forall d, isNumeral d = false -> forall rest, c :: cs = d :: rest -> False := by
    intro d hd rest heq
    cases heq
    rw [h] at hd
    exact Bool.true_eq_false_eq_False hd
  rw [readValue]
  · intro rest
    exact hhead 'n' rfl _
  · intro rest
    exact hhead 't' rfl _
  · intro rest
    exact hhead 'f' rfl _
  · exact hhead '"' rfl
  · exact hhead '[' rfl
  · exact hhead '{' rfl

theorem readValue_numerals {ds : List Char} (hne : ds ≠ [])
    (hds : forall c, c ∈ ds -> isNumeral c = true) (fuel : Nat) (rest : List Char) :
    readValue (fuel + 1) (ds ++ rest) =
      (readNumber (ds ++ rest) : Option (Value F × List Char)) := by
  cases ds with
  | nil => exact absurd rfl hne
  | cons c cs => exact readValue_numeral (hds c List.mem_cons_self) fuel (cs ++ rest)

theorem printInt_ne_nil (i : Int) : printInt i ≠ [] := by
  cases i with
  | ofNat n => exact Nat.toDigits_ne_nil
  | negSucc n => exact List.cons_ne_nil _ _

theorem printFloat_ne_nil (x : Finite F) : FloatText.print x ≠ [] := by
  rcases FloatText.mark x with ⟨c, hc, _⟩
  exact List.ne_nil_of_mem hc

theorem readKey_printString (k : String) (rest : List Char) :
    readKey (printString k ++ ':' :: rest) = some (k, rest) := by
  have hchars := readChars_printChars k.toList (':' :: rest)
  unfold printString
  rw [List.cons_append, readKey, hchars]
  simp

theorem ends_printMoreItems (items : List (Value F)) (rest : List Char) :
    Ends (printMoreItems items ++ rest) := by
  intro c hc
  cases items with
  | nil =>
      cases hc
      rfl
  | cons v items =>
      cases hc
      rfl

theorem ends_printMoreMembers (members : List (String × Value F)) (rest : List Char) :
    Ends (printMoreMembers members ++ rest) := by
  intro c hc
  cases members with
  | nil =>
      cases hc
      rfl
  | cons m members =>
      cases hc
      rfl

/-- A value has a first character, and it does not close an array. -/
theorem printValue_head (v : Value F) : exists c cs, printValue v = c :: cs ∧ c ≠ ']' := by
  have hnumerals : forall ds, ds ≠ [] -> (forall c, c ∈ ds -> isNumeral c = true) ->
      exists c cs, ds = c :: cs ∧ c ≠ ']' := by
    intro ds hne hds
    cases ds with
    | nil => exact absurd rfl hne
    | cons c cs =>
        refine ⟨c, cs, rfl, ?_⟩
        intro hc
        have hc' := hds c List.mem_cons_self
        rw [hc] at hc'
        exact Bool.false_ne_true hc'
  cases v with
  | null => exact ⟨_, _, by rw [printValue], by decide⟩
  | bool b =>
      cases b with
      | true => exact ⟨_, _, by rw [printValue], by decide⟩
      | false => exact ⟨_, _, by rw [printValue], by decide⟩
  | integer i =>
      rw [printValue]
      exact hnumerals _ (printInt_ne_nil i) (printInt_numeral i)
  | float x =>
      rw [printValue]
      exact hnumerals _ (printFloat_ne_nil x) (FloatText.numeral x)
  | string s => exact ⟨_, _, by rw [printValue, printString], by decide⟩
  | array items => exact ⟨_, _, by rw [printValue], by decide⟩
  | object members => exact ⟨_, _, by rw [printValue], by decide⟩

theorem printMoreItems_pos (items : List (Value F)) : 0 < (printMoreItems items).length := by
  cases items with
  | nil => exact Nat.one_pos
  | cons v items => exact Nat.succ_pos _

theorem printMembers_pos (members : List (String × Value F)) :
    0 < (printMembers members).length := by
  cases members with
  | nil => exact Nat.one_pos
  | cons m members => exact Nat.succ_pos _

theorem printMoreMembers_pos (members : List (String × Value F)) :
    0 < (printMoreMembers members).length := by
  cases members with
  | nil => exact Nat.one_pos
  | cons m members => exact Nat.succ_pos _

mutual

theorem readValue_printValue (v : Value F) {fuel : Nat} {rest : List Char}
    (hfuel : (printValue v).length ≤ fuel) (hrest : Ends rest) :
    readValue fuel (printValue v ++ rest) = some (v, rest) := by
  cases fuel with
  | zero =>
      rcases printValue_head v with ⟨c, cs, hv, _⟩
      rw [hv] at hfuel
      exact absurd hfuel (Nat.not_succ_le_zero _)
  | succ fuel =>
      cases v with
      | null =>
          rw [printValue]
          rfl
      | bool b =>
          cases b with
          | true =>
              rw [printValue]
              rfl
          | false =>
              rw [printValue]
              rfl
      | integer i =>
          rw [printValue, readValue_numerals (printInt_ne_nil i) (printInt_numeral i)]
          exact readNumber_printInt i hrest
      | float x =>
          rw [printValue, readValue_numerals (printFloat_ne_nil x) (FloatText.numeral x)]
          exact readNumber_printFloat x hrest
      | string s =>
          rw [printValue, printString, List.cons_append, readValue, readChars_printChars]
          simp
      | array items =>
          rw [printValue] at hfuel ⊢
          have hitems := readItems_printItems items (Nat.le_of_succ_le_succ hfuel) rest
          rw [List.cons_append, readValue, hitems]
          rfl
      | object members =>
          rw [printValue] at hfuel ⊢
          have hmembers := readMembers_printMembers members (Nat.le_of_succ_le_succ hfuel) rest
          rw [List.cons_append, readValue, hmembers]
          rfl

theorem readItems_printItems (items : List (Value F)) {fuel : Nat}
    (hfuel : (printItems items).length ≤ fuel) (rest : List Char) :
    readItems fuel (printItems items ++ rest) = some (items, rest) := by
  cases items with
  | nil =>
      rw [printItems] at hfuel ⊢
      cases fuel with
      | zero => exact absurd hfuel (Nat.not_succ_le_zero _)
      | succ fuel => rfl
  | cons v items =>
      rcases printValue_head v with ⟨c, cs, hhead, hclose⟩
      rw [printItems, List.length_append] at hfuel
      rw [printItems, List.append_assoc]
      cases fuel with
      | zero =>
          rw [hhead, List.length_cons] at hfuel
          omega
      | succ fuel =>
          have hv : (printValue v).length ≤ fuel := by
            have hmore := printMoreItems_pos items
            omega
          have hmore : (printMoreItems items).length ≤ fuel := by
            rw [hhead, List.length_cons] at hfuel
            omega
          have hvalue := readValue_printValue v hv (ends_printMoreItems items rest)
          have hrest := readMoreItems_printMoreItems items hmore rest
          rw [readItems, hvalue]
          · simp only [Option.bind_eq_bind, Option.bind_some, hrest]
            rfl
          · intro cs' hcs
            rw [hhead] at hcs
            cases hcs
            exact hclose rfl

theorem readMoreItems_printMoreItems (items : List (Value F)) {fuel : Nat}
    (hfuel : (printMoreItems items).length ≤ fuel) (rest : List Char) :
    readMoreItems fuel (printMoreItems items ++ rest) = some (items, rest) := by
  cases fuel with
  | zero =>
      have hpos := printMoreItems_pos items
      omega
  | succ fuel =>
      cases items with
      | nil =>
          rw [printMoreItems]
          rfl
      | cons v items =>
          rw [printMoreItems, List.length_cons, List.length_append] at hfuel
          have hvalue := @readValue_printValue v fuel _ (by omega) (ends_printMoreItems items rest)
          have hrest := @readMoreItems_printMoreItems items fuel (by omega) rest
          rw [printMoreItems, List.cons_append, List.append_assoc, readMoreItems, hvalue]
          simp only [Option.bind_eq_bind, Option.bind_some, hrest]
          rfl

theorem readMembers_printMembers (members : List (String × Value F)) {fuel : Nat}
    (hfuel : (printMembers members).length ≤ fuel) (rest : List Char) :
    readMembers fuel (printMembers members ++ rest) = some (members, rest) := by
  cases fuel with
  | zero =>
      have hpos := printMembers_pos members
      omega
  | succ fuel =>
      cases members with
      | nil =>
          rw [printMembers]
          rfl
      | cons m members =>
          rcases m with ⟨k, v⟩
          rw [printMembers, List.length_append, List.length_cons, List.length_append] at hfuel
          have hvalue := @readValue_printValue v fuel _ (by omega)
            (ends_printMoreMembers members rest)
          have hrest := @readMoreMembers_printMoreMembers members fuel (by omega) rest
          rw [printMembers, List.append_assoc, List.cons_append, List.append_assoc, readMembers,
            readKey_printString]
          · simp only [Option.bind_eq_bind, Option.bind_some, hvalue, hrest]
            rfl
          · intro cs hcs
            cases hcs

theorem readMoreMembers_printMoreMembers (members : List (String × Value F)) {fuel : Nat}
    (hfuel : (printMoreMembers members).length ≤ fuel) (rest : List Char) :
    readMoreMembers fuel (printMoreMembers members ++ rest) = some (members, rest) := by
  cases fuel with
  | zero =>
      have hpos := printMoreMembers_pos members
      omega
  | succ fuel =>
      cases members with
      | nil =>
          rw [printMoreMembers]
          rfl
      | cons m members =>
          rcases m with ⟨k, v⟩
          rw [printMoreMembers, List.length_cons, List.length_append, List.length_cons,
            List.length_append] at hfuel
          have hvalue := @readValue_printValue v fuel _ (by omega)
            (ends_printMoreMembers members rest)
          have hrest := @readMoreMembers_printMoreMembers members fuel (by omega) rest
          rw [printMoreMembers, List.cons_append, List.append_assoc, List.cons_append,
            List.append_assoc, readMoreMembers, readKey_printString]
          simp only [Option.bind_eq_bind, Option.bind_some, hvalue, hrest]
          rfl

end

/-! # The format -/

def parse (text : String) : Option (Value F) := do
  let (v, rest) ← readValue text.toList.length text.toList
  match rest with
  | [] => return v
  | _ => none

/-- Texts without white space, read with as much fuel as they are long. -/
def plainText : TextFormat F where
  print v := String.ofList (printValue v)
  parse := parse

theorem plainText_inverse : (plainText : TextFormat F).Inverse := by
  intro v _
  have hends : Ends [] := by
    intro c hc
    cases hc
  have hread := readValue_printValue v (Nat.le_refl _) hends
  rw [List.append_nil] at hread
  unfold plainText parse
  simp only [String.toList_ofList, hread, Option.bind_eq_bind, Option.bind_some]
  rfl

end Json
