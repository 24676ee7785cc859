import Mathlib.Data.List.Sort
import Mathlib.Tactic.IntervalCases
import InfrasafeBot.Library.Json

/-! The writer of JSON texts of Python's `json.dumps` with sorted keys, without blanks and
without ASCII escapes. A text determines the value it was written from, up to the order of the
members of objects. -/

set_option autoImplicit false

namespace InfrasafeBot.Library.Json

def quote : Char := Char.ofNat 34

def slash : Char := Char.ofNat 92

def openBrace : Char := Char.ofNat 123

def closeBrace : Char := Char.ofNat 125

def escapeChar (c : Char) : List Char :=
  if c = quote then [slash, quote]
  else if c = slash then [slash, slash]
  else if c.toNat = 8 then [slash, 'b']
  else if c.toNat = 9 then [slash, 't']
  else if c.toNat = 10 then [slash, 'n']
  else if c.toNat = 12 then [slash, 'f']
  else if c.toNat = 13 then [slash, 'r']
  else if c.toNat < 32 then
    [slash, 'u', '0', '0', Nat.digitChar (c.toNat / 16), Nat.digitChar (c.toNat % 16)]
  else [c]

def writeString (text : String) : List Char := quote :: text.toList.flatMap escapeChar ++ [quote]

mutual

def write : Json → List Char
  | .null => "null".toList
  | .bool true => "true".toList
  | .bool false => "false".toList
  | .number text => text.toList
  | .string text => writeString text
  | .array items => '[' :: writeItems items ++ [']']
  | .object members => openBrace :: writeMembers members ++ [closeBrace]

def writeItems : List Json → List Char
  | [] => []
  | item :: rest => write item ++ writeMoreItems rest

def writeMoreItems : List Json → List Char
  | [] => []
  | item :: rest => ',' :: write item ++ writeMoreItems rest

def writeMembers : List (String × Json) → List Char
  | [] => []
  | (key, value) :: rest => writeString key ++ ':' :: write value ++ writeMoreMembers rest

def writeMoreMembers : List (String × Json) → List Char
  | [] => []
  | (key, value) :: rest => ',' :: writeString key ++ ':' :: write value ++ writeMoreMembers rest

end

def sortMembers (members : List (String × Json)) : List (String × Json) :=
  members.insertionSort fun left right => left.1 ≤ right.1

mutual

def sortKeys : Json → Json
  | .array items => .array (sortItems items)
  | .object members => .object (sortMembers (sortValues members))
  | other => other

def sortItems : List Json → List Json
  | [] => []
  | item :: rest => sortKeys item :: sortItems rest

def sortValues : List (String × Json) → List (String × Json)
  | [] => []
  | (key, value) :: rest => (key, sortKeys value) :: sortValues rest

end

def dumps (value : Json) : String := String.ofList (write (sortKeys value))

def unescapeChar : List Char → Option (Char × List Char)
  | [] => none
  | c :: rest =>
    if c ≠ slash then some (c, rest)
    else
      match rest with
      | 'u' :: _ :: _ :: high :: low :: after =>
        let digit : Char → Nat := fun c => if c.toNat < 58 then c.toNat - 48 else c.toNat - 87
        some (Char.ofNat (16 * digit high + digit low), after)
      | 'b' :: after => some (Char.ofNat 8, after)
      | 't' :: after => some (Char.ofNat 9, after)
      | 'n' :: after => some (Char.ofNat 10, after)
      | 'f' :: after => some (Char.ofNat 12, after)
      | 'r' :: after => some (Char.ofNat 13, after)
      | other :: after => some (other, after)
      | [] => none

theorem unescapeChar_control {code : Nat} (control : code < 32) (after : List Char) :
    unescapeChar (escapeChar (Char.ofNat code) ++ after) = some (Char.ofNat code, after) := by
  interval_cases code <;> rfl

theorem unescapeChar_escape (c : Char) (after : List Char) :
    unescapeChar (escapeChar c ++ after) = some (c, after) := by
  by_cases control : c.toNat < 32
  · have read := unescapeChar_control control after
    rwa [Char.ofNat_toNat] at read
  · by_cases quoted : c = quote
    · subst quoted
      rfl
    · by_cases slashed : c = slash
      · subst slashed
        rfl
      · have plain : escapeChar c = [c] := by
          unfold escapeChar
          simp only [quoted, slashed, if_false, control]
          repeat' rw [if_neg (by omega)]
        simp [plain, unescapeChar, slashed]

theorem escapeChar_inj {left right : Char} {leftAfter rightAfter : List Char}
    (same : escapeChar left ++ leftAfter = escapeChar right ++ rightAfter) :
    left = right ∧ leftAfter = rightAfter := by
  have read := unescapeChar_escape left leftAfter
  rw [same, unescapeChar_escape] at read
  simpa [eq_comm] using read

theorem escapeChar_ne_quote (c : Char) (after rest : List Char) :
    escapeChar c ++ after ≠ quote :: rest := by
  intro same
  have read := unescapeChar_escape c after
  rw [same] at read
  have plain : unescapeChar (quote :: rest) = some (quote, rest) := rfl
  rw [plain] at read
  cases read
  have long : (escapeChar quote ++ after).length = (quote :: after).length := by rw [same]
  have two : escapeChar quote = [slash, quote] := rfl
  rw [two] at long
  simp at long

theorem escape_inj {left right : List Char} {leftAfter rightAfter : List Char}
    (same : left.flatMap escapeChar ++ quote :: leftAfter =
      right.flatMap escapeChar ++ quote :: rightAfter) :
    left = right ∧ leftAfter = rightAfter := by
  induction left generalizing right with
  | nil =>
    cases right with
    | nil => simpa using same
    | cons c rest =>
      rw [List.flatMap_cons, List.append_assoc] at same
      exact absurd same.symm (escapeChar_ne_quote c _ _)
  | cons c rest ih =>
    cases right with
    | nil =>
      rw [List.flatMap_cons, List.append_assoc] at same
      exact absurd same (escapeChar_ne_quote c _ _)
    | cons d more =>
      rw [List.flatMap_cons, List.flatMap_cons, List.append_assoc, List.append_assoc] at same
      obtain ⟨rfl, tails⟩ := escapeChar_inj same
      obtain ⟨rfl, after⟩ := ih tails
      exact ⟨rfl, after⟩

theorem writeString_inj {left right : String} {leftAfter rightAfter : List Char}
    (same : writeString left ++ leftAfter = writeString right ++ rightAfter) :
    left = right ∧ leftAfter = rightAfter := by
  simp only [writeString, List.cons_append, List.append_assoc, List.nil_append,
    List.cons.injEq, true_and] at same
  obtain ⟨texts, after⟩ := escape_inj same
  exact ⟨String.toList_inj.mp texts, after⟩

def numberChar (c : Char) : Bool := c.isDigit || "+-.eE".toList.contains c

/-- Numbers are written with the characters of numbers. -/
inductive WellFormed : Json → Prop where
  | null : WellFormed .null
  | bool (value : Bool) : WellFormed (.bool value)
  | number {text : String} :
      text ≠ "" → (∀ c ∈ text.toList, numberChar c = true) → WellFormed (.number text)
  | string (text : String) : WellFormed (.string text)
  | array {items : List Json} : (∀ item ∈ items, WellFormed item) → WellFormed (.array items)
  | object {members : List (String × Json)} :
      (∀ member ∈ members, WellFormed member.2) → WellFormed (.object members)

/-- What follows a value goes on with no number. -/
def Ends (after : List Char) : Prop := ∀ c ∈ after.head?, numberChar c = false

/-- Which values begin with a character. -/
def leads (c : Char) : Nat :=
  if c = 'n' then 0
  else if c = 't' then 1
  else if c = 'f' then 2
  else if c = quote then 3
  else if c = '[' then 4
  else if c = openBrace then 5
  else 6

def lead : Json → Nat
  | .null => 0
  | .bool true => 1
  | .bool false => 2
  | .string _ => 3
  | .array _ => 4
  | .object _ => 5
  | .number _ => 6

theorem leads_numberChar {c : Char} (number : numberChar c = true) : leads c = 6 := by
  unfold leads
  repeat' split
  all_goals first
    | rfl
    | (next same => subst same; revert number; decide)

theorem write_leads {value : Json} (formed : WellFormed value) :
    ∃ c rest, write value = c :: rest ∧ leads c = lead value ∧ c ≠ ']' := by
  cases formed with
  | null => exact ⟨'n', _, rfl, rfl, by decide⟩
  | bool value => cases value <;> exact ⟨_, _, rfl, rfl, by decide⟩
  | @number text full digits =>
    cases chars : text.toList with
    | nil => exact absurd (String.toList_eq_nil_iff.mp chars) full
    | cons c rest =>
      rw [chars] at digits
      have number := digits c List.mem_cons_self
      refine ⟨c, rest, by rw [write, chars], leads_numberChar number, ?_⟩
      rintro rfl
      revert number
      decide
  | string text => exact ⟨quote, _, rfl, rfl, by decide⟩
  | array _ => exact ⟨'[', _, by rw [write, List.cons_append], rfl, by decide⟩
  | object _ => exact ⟨openBrace, _, by rw [write, List.cons_append], rfl, by decide⟩

theorem lead_eq_of_write {left right : Json} {leftAfter rightAfter : List Char}
    (leftFormed : WellFormed left) (rightFormed : WellFormed right)
    (same : write left ++ leftAfter = write right ++ rightAfter) : lead left = lead right := by
  obtain ⟨c, rest, first, leftLead, _⟩ := write_leads leftFormed
  obtain ⟨d, more, second, rightLead, _⟩ := write_leads rightFormed
  rw [first, second, List.cons_append, List.cons_append] at same
  rw [← leftLead, ← rightLead, (List.cons.inj same).1]

theorem number_inj {left right : List Char} {leftAfter rightAfter : List Char}
    (leftDigits : ∀ c ∈ left, numberChar c = true) (rightDigits : ∀ c ∈ right, numberChar c = true)
    (leftEnds : Ends leftAfter) (rightEnds : Ends rightAfter)
    (same : left ++ leftAfter = right ++ rightAfter) : left = right ∧ leftAfter = rightAfter := by
  induction left generalizing right with
  | nil =>
    cases right with
    | nil => exact ⟨rfl, same⟩
    | cons d more =>
      have number := rightDigits d List.mem_cons_self
      have head : d ∈ leftAfter.head? := by rw [show leftAfter = _ from same]; rfl
      rw [leftEnds d head] at number
      cases number
  | cons c rest ih =>
    cases right with
    | nil =>
      have number := leftDigits c List.mem_cons_self
      have head : c ∈ rightAfter.head? := by rw [show rightAfter = _ from same.symm]; rfl
      rw [rightEnds c head] at number
      cases number
    | cons d more =>
      obtain ⟨rfl, tails⟩ := List.cons.inj same
      obtain ⟨rfl, after⟩ := ih (fun c listed => leftDigits c (List.mem_cons_of_mem _ listed))
        (fun c listed => rightDigits c (List.mem_cons_of_mem _ listed)) tails
      exact ⟨rfl, after⟩

theorem write_ne_bracket {value : Json} (formed : WellFormed value) (after rest : List Char) :
    write value ++ after ≠ ']' :: rest := by
  obtain ⟨c, more, first, _, plain⟩ := write_leads formed
  rw [first, List.cons_append]
  exact fun same => plain (List.cons.inj same).1

theorem ends_moreItems (items : List Json) (after : List Char) :
    Ends (writeMoreItems items ++ ']' :: after) := by
  cases items with
  | nil =>
    intro c head
    cases head
    decide
  | cons item rest =>
    intro c head
    rw [writeMoreItems] at head
    cases head
    decide

theorem ends_moreMembers (members : List (String × Json)) (after : List Char) :
    Ends (writeMoreMembers members ++ closeBrace :: after) := by
  cases members with
  | nil =>
    intro c head
    cases head
    decide
  | cons member rest =>
    intro c head
    rw [writeMoreMembers] at head
    cases head
    decide

mutual

theorem write_inj : (left right : Json) → WellFormed left → WellFormed right →
    (leftAfter rightAfter : List Char) → Ends leftAfter → Ends rightAfter →
    write left ++ leftAfter = write right ++ rightAfter → left = right ∧ leftAfter = rightAfter
  | .null, right, leftFormed, rightFormed, leftAfter, rightAfter, _, _, same => by
      have kind := lead_eq_of_write leftFormed rightFormed same
      cases right with
      | null => exact ⟨rfl, List.append_cancel_left same⟩
      | bool value => cases value <;> cases kind
      | number | string | array | object => cases kind
  | .bool value, right, leftFormed, rightFormed, leftAfter, rightAfter, _, _, same => by
      have kind := lead_eq_of_write leftFormed rightFormed same
      cases right with
      | bool other =>
        cases value <;> cases other
        · exact ⟨rfl, List.append_cancel_left same⟩
        · cases kind
        · cases kind
        · exact ⟨rfl, List.append_cancel_left same⟩
      | null | number | string | array | object => cases value <;> cases kind
  | .number text, right, leftFormed, rightFormed, leftAfter, rightAfter, leftEnds, rightEnds,
      same => by
      have kind := lead_eq_of_write leftFormed rightFormed same
      cases right with
      | number other =>
        cases leftFormed with
        | number _ leftDigits =>
          cases rightFormed with
          | number _ rightDigits =>
            obtain ⟨texts, after⟩ := number_inj leftDigits rightDigits leftEnds rightEnds same
            exact ⟨congrArg Json.number (String.toList_inj.mp texts), after⟩
      | null | string | array | object => cases kind
      | bool value => cases value <;> cases kind
  | .string text, right, leftFormed, rightFormed, leftAfter, rightAfter, _, _, same => by
      have kind := lead_eq_of_write leftFormed rightFormed same
      cases right with
      | string other =>
        obtain ⟨texts, after⟩ := writeString_inj same
        exact ⟨congrArg Json.string texts, after⟩
      | null | number | array | object => cases kind
      | bool value => cases value <;> cases kind
  | .array items, right, leftFormed, rightFormed, leftAfter, rightAfter, _, _, same => by
      have kind := lead_eq_of_write leftFormed rightFormed same
      cases right with
      | array others =>
        cases leftFormed with
        | array leftItems =>
          cases rightFormed with
          | array rightItems =>
            simp only [write, List.cons_append, List.append_assoc, List.nil_append,
              List.cons.injEq, true_and] at same
            obtain ⟨rfl, after⟩ := writeItems_inj items others leftItems rightItems _ _ same
            exact ⟨rfl, after⟩
      | null | number | string | object => cases kind
      | bool value => cases value <;> cases kind
  | .object members, right, leftFormed, rightFormed, leftAfter, rightAfter, _, _, same => by
      have kind := lead_eq_of_write leftFormed rightFormed same
      cases right with
      | object others =>
        cases leftFormed with
        | object leftMembers =>
          cases rightFormed with
          | object rightMembers =>
            simp only [write, List.cons_append, List.append_assoc, List.nil_append,
              List.cons.injEq, true_and] at same
            obtain ⟨rfl, after⟩ := writeMembers_inj members others leftMembers rightMembers _ _ same
            exact ⟨rfl, after⟩
      | null | number | string | array => cases kind
      | bool value => cases value <;> cases kind

theorem writeItems_inj : (left right : List Json) → (∀ item ∈ left, WellFormed item) →
    (∀ item ∈ right, WellFormed item) → (leftAfter rightAfter : List Char) →
    writeItems left ++ ']' :: leftAfter = writeItems right ++ ']' :: rightAfter →
    left = right ∧ leftAfter = rightAfter
  | [], [], _, _, _, _, same => ⟨rfl, (List.cons.inj same).2⟩
  | [], item :: rest, _, formed, _, _, same => by
      rw [writeItems, writeItems, List.append_assoc] at same
      exact absurd same.symm (write_ne_bracket (formed item List.mem_cons_self) _ _)
  | item :: rest, [], formed, _, _, _, same => by
      rw [writeItems, writeItems, List.append_assoc] at same
      exact absurd same (write_ne_bracket (formed item List.mem_cons_self) _ _)
  | item :: rest, other :: more, leftFormed, rightFormed, leftAfter, rightAfter, same => by
      rw [writeItems, writeItems, List.append_assoc, List.append_assoc] at same
      obtain ⟨rfl, tails⟩ := write_inj item other (leftFormed item List.mem_cons_self)
        (rightFormed other List.mem_cons_self) _ _ (ends_moreItems rest leftAfter)
        (ends_moreItems more rightAfter) same
      obtain ⟨rfl, after⟩ := writeMoreItems_inj rest more
        (fun item listed => leftFormed item (List.mem_cons_of_mem _ listed))
        (fun item listed => rightFormed item (List.mem_cons_of_mem _ listed)) _ _ tails
      exact ⟨rfl, after⟩

theorem writeMoreItems_inj : (left right : List Json) → (∀ item ∈ left, WellFormed item) →
    (∀ item ∈ right, WellFormed item) → (leftAfter rightAfter : List Char) →
    writeMoreItems left ++ ']' :: leftAfter = writeMoreItems right ++ ']' :: rightAfter →
    left = right ∧ leftAfter = rightAfter
  | [], [], _, _, _, _, same => ⟨rfl, (List.cons.inj same).2⟩
  | [], item :: rest, _, _, _, _, same => by
      rw [writeMoreItems, writeMoreItems] at same
      cases same
  | item :: rest, [], _, _, _, _, same => by
      rw [writeMoreItems, writeMoreItems] at same
      cases same
  | item :: rest, other :: more, leftFormed, rightFormed, leftAfter, rightAfter, same => by
      simp only [writeMoreItems, List.cons_append, List.append_assoc, List.cons.injEq, true_and] at same
      obtain ⟨rfl, tails⟩ := write_inj item other (leftFormed item List.mem_cons_self)
        (rightFormed other List.mem_cons_self) _ _ (ends_moreItems rest leftAfter)
        (ends_moreItems more rightAfter) same
      obtain ⟨rfl, after⟩ := writeMoreItems_inj rest more
        (fun item listed => leftFormed item (List.mem_cons_of_mem _ listed))
        (fun item listed => rightFormed item (List.mem_cons_of_mem _ listed)) _ _ tails
      exact ⟨rfl, after⟩

theorem writeMembers_inj : (left right : List (String × Json)) →
    (∀ member ∈ left, WellFormed member.2) → (∀ member ∈ right, WellFormed member.2) →
    (leftAfter rightAfter : List Char) →
    writeMembers left ++ closeBrace :: leftAfter = writeMembers right ++ closeBrace :: rightAfter →
    left = right ∧ leftAfter = rightAfter
  | [], [], _, _, _, _, same => ⟨rfl, (List.cons.inj same).2⟩
  | [], (key, value) :: rest, _, _, _, _, same => by
      rw [writeMembers, writeMembers, writeString] at same
      cases same
  | (key, value) :: rest, [], _, _, _, _, same => by
      rw [writeMembers, writeMembers, writeString] at same
      cases same
  | (key, value) :: rest, (name, other) :: more, leftFormed, rightFormed, leftAfter, rightAfter,
      same => by
      simp only [writeMembers, List.cons_append, List.append_assoc] at same
      obtain ⟨rfl, values⟩ := writeString_inj same
      obtain ⟨rfl, tails⟩ := write_inj value other (leftFormed (key, value) List.mem_cons_self)
        (rightFormed (key, other) List.mem_cons_self) _ _ (ends_moreMembers rest leftAfter)
        (ends_moreMembers more rightAfter) (List.cons.inj values).2
      obtain ⟨rfl, after⟩ := writeMoreMembers_inj rest more
        (fun member listed => leftFormed member (List.mem_cons_of_mem _ listed))
        (fun member listed => rightFormed member (List.mem_cons_of_mem _ listed)) _ _ tails
      exact ⟨rfl, after⟩

theorem writeMoreMembers_inj : (left right : List (String × Json)) →
    (∀ member ∈ left, WellFormed member.2) → (∀ member ∈ right, WellFormed member.2) →
    (leftAfter rightAfter : List Char) →
    writeMoreMembers left ++ closeBrace :: leftAfter = writeMoreMembers right ++ closeBrace :: rightAfter →
    left = right ∧ leftAfter = rightAfter
  | [], [], _, _, _, _, same => ⟨rfl, (List.cons.inj same).2⟩
  | [], (key, value) :: rest, _, _, _, _, same => by
      rw [writeMoreMembers, writeMoreMembers] at same
      cases same
  | (key, value) :: rest, [], _, _, _, _, same => by
      rw [writeMoreMembers, writeMoreMembers] at same
      cases same
  | (key, value) :: rest, (name, other) :: more, leftFormed, rightFormed, leftAfter, rightAfter,
      same => by
      simp only [writeMoreMembers, List.cons_append, List.append_assoc, List.cons.injEq, true_and] at same
      obtain ⟨rfl, values⟩ := writeString_inj same
      obtain ⟨rfl, tails⟩ := write_inj value other (leftFormed (key, value) List.mem_cons_self)
        (rightFormed (key, other) List.mem_cons_self) _ _ (ends_moreMembers rest leftAfter)
        (ends_moreMembers more rightAfter) (List.cons.inj values).2
      obtain ⟨rfl, after⟩ := writeMoreMembers_inj rest more
        (fun member listed => leftFormed member (List.mem_cons_of_mem _ listed))
        (fun member listed => rightFormed member (List.mem_cons_of_mem _ listed)) _ _ tails
      exact ⟨rfl, after⟩

end

/-- A value whose objects have their members in order already. -/
structure Canonical (value : Json) : Prop where
  sorted : sortKeys value = value
  formed : WellFormed value

theorem sortValues_eq {members : List (String × Json)}
    (canonical : ∀ member ∈ members, Canonical member.2) : sortValues members = members := by
  induction members with
  | nil => rfl
  | cons member rest ih =>
    obtain ⟨key, value⟩ := member
    rw [sortValues, (canonical (key, value) List.mem_cons_self).sorted,
      ih fun later listed => canonical later (List.mem_cons_of_mem _ listed)]

theorem sortMembers_perm (members : List (String × Json)) : (sortMembers members).Perm members :=
  List.perm_insertionSort _ members

theorem perm_of_dumps_eq {left right : List (String × Json)}
    (leftCanonical : ∀ member ∈ left, Canonical member.2)
    (rightCanonical : ∀ member ∈ right, Canonical member.2)
    (same : dumps (.object left) = dumps (.object right)) : left.Perm right := by
  have texts := String.ofList_injective same
  rw [sortKeys, sortKeys, sortValues_eq leftCanonical, sortValues_eq rightCanonical] at texts
  have formed : ∀ members : List (String × Json), (∀ member ∈ members, Canonical member.2) →
      WellFormed (.object (sortMembers members)) := fun members canonical =>
    .object fun member listed => (canonical member ((sortMembers_perm members).mem_iff.mp listed)).formed
  have values := write_inj (.object (sortMembers left)) (.object (sortMembers right))
    (formed left leftCanonical) (formed right rightCanonical) [] []
    (fun _ none => nomatch none) (fun _ none => nomatch none) (by simpa using texts)
  have members : sortMembers left = sortMembers right := Json.object.inj values.1
  exact (sortMembers_perm left).symm.trans (members ▸ sortMembers_perm right)

theorem eq_of_perm {left right : List (String × Json)} (same : left.Perm right)
    (keys : left.map Prod.fst = right.map Prod.fst) (distinct : (left.map Prod.fst).Nodup) :
    left = right := by
  induction left generalizing right with
  | nil => exact same.nil_eq
  | cons member rest ih =>
    obtain ⟨key, value⟩ := member
    cases right with
    | nil => cases keys
    | cons other more =>
      obtain ⟨name, value'⟩ := other
      rw [List.map_cons, List.map_cons] at keys
      obtain ⟨rfl, tails⟩ := List.cons.inj keys
      rw [List.map_cons, List.nodup_cons] at distinct
      have head : (key, value') = (key, value) := by
        rcases List.mem_cons.mp (same.mem_iff.mpr List.mem_cons_self) with own | later
        · exact own
        · exact absurd (List.mem_map_of_mem later) distinct.1
      cases head
      rw [ih same.cons_inv tails distinct.2]

def ofInt (value : Int) : Json := .number (toString value)

theorem natRepr_inj {left right : Nat} (same : left.repr = right.repr) : left = right := by
  have digits : Nat.toDigits 10 left = Nat.toDigits 10 right := by
    rw [← Nat.toList_repr, ← Nat.toList_repr, same]
  rw [← Nat.ofDigitChars_toDigits (b := 10) (n := left) (by decide) (by decide), digits,
    Nat.ofDigitChars_toDigits (by decide) (by decide)]

theorem natRepr_digits (value : Nat) : ∀ c ∈ value.repr.toList, c.isDigit = true := by
  rw [Nat.toList_repr]
  exact fun c listed => Nat.isDigit_of_mem_toDigits (by decide) (by decide) listed

theorem intRepr_inj {left right : Int} (same : left.repr = right.repr) : left = right := by
  have unsigned : ∀ value rest : Nat, value.repr ≠ "-" ++ rest.repr := fun value rest same => by
    have digit := natRepr_digits value '-' (by rw [same]; simp)
    revert digit
    decide
  rw [Int.repr_eq_if, Int.repr_eq_if] at same
  by_cases first : 0 ≤ left
  · rw [if_pos first] at same
    by_cases second : 0 ≤ right
    · rw [if_pos second] at same
      have equal := natRepr_inj same
      omega
    · rw [if_neg second] at same
      exact absurd same (unsigned _ _)
  · rw [if_neg first] at same
    by_cases second : 0 ≤ right
    · rw [if_pos second] at same
      exact absurd same.symm (unsigned _ _)
    · rw [if_neg second] at same
      have equal := natRepr_inj (String.append_right_inj "-" |>.mp same)
      omega

theorem ofInt_inj {left right : Int} : ofInt left = ofInt right ↔ left = right := by
  constructor
  · intro same
    exact intRepr_inj (Json.number.inj same)
  · rintro rfl
    rfl

theorem canonical_null : Canonical .null := ⟨rfl, .null⟩

theorem canonical_string (text : String) : Canonical (.string text) := ⟨rfl, .string text⟩

theorem canonical_ofInt (value : Int) : Canonical (ofInt value) := by
  have digit : ∀ c : Char, c.isDigit = true → numberChar c = true := fun c number => by
    simp [numberChar, number]
  have text : value.repr ≠ "" ∧ ∀ c ∈ value.repr.toList, numberChar c = true := by
    rw [Int.repr_eq_if]
    split
    · refine ⟨?_, fun c listed => digit c (natRepr_digits _ c listed)⟩
      intro empty
      have none := congrArg String.toList empty
      rw [Nat.toList_repr] at none
      exact Nat.toDigits_ne_nil none
    · constructor
      · intro empty
        have none := congrArg String.toList empty
        simp at none
      · intro c listed
        rw [String.toList_append, List.mem_append] at listed
        rcases listed with sign | rest
        · rw [List.mem_singleton.mp sign]
          decide
        · exact digit c (natRepr_digits _ c rest)
  exact ⟨rfl, .number text.1 text.2⟩

theorem sortMembers_sorted (members : List (String × Json)) :
    sortMembers (sortMembers members) = sortMembers members := by
  let byKey : String × Json → String × Json → Prop := fun left right => left.1 ≤ right.1
  have : Std.Total byKey := ⟨fun left right => String.le_total left.1 right.1⟩
  have : IsTrans (String × Json) byKey := ⟨fun _ _ _ => String.le_trans⟩
  exact List.Pairwise.insertionSort_eq (List.pairwise_insertionSort byKey members)

/-- A JSON value as a dictionary gives it: its objects have their members in no order but that of
the keys. -/
structure Document where
  value : Json
  canonical : Canonical value

def Document.null : Document := ⟨.null, canonical_null⟩

def Document.ofInt (value : Int) : Document := ⟨Json.ofInt value, canonical_ofInt value⟩

def Document.string (text : String) : Document := ⟨.string text, canonical_string text⟩

def Document.optional {Value : Type} (wrap : Value → Document) : Option Value → Document
  | none => .null
  | some value => wrap value

def Document.object (members : List (String × Document)) : Document where
  value := .object (sortMembers (members.map fun member => (member.1, member.2.value)))
  canonical := by
    have each : ∀ member ∈ sortMembers (members.map fun member => (member.1, member.2.value)),
        Canonical member.2 := by
      intro member listed
      obtain ⟨given, _, rfl⟩ := List.mem_map.mp ((sortMembers_perm _).mem_iff.mp listed)
      exact given.2.canonical
    constructor
    · rw [sortKeys, sortValues_eq each, sortMembers_sorted]
    · exact .object fun member listed => (each member listed).formed

theorem Document.ext_value {left right : Document} (same : left.value = right.value) : left = right := by
  cases left
  cases right
  cases same
  rfl

@[simp]
theorem Document.ofInt_inj {left right : Int} : Document.ofInt left = Document.ofInt right ↔ left = right :=
  ⟨fun same => Json.ofInt_inj.mp (congrArg Document.value same), fun same => same ▸ rfl⟩

@[simp]
theorem Document.string_inj {left right : String} :
    Document.string left = Document.string right ↔ left = right :=
  ⟨fun same => Json.string.inj (congrArg Document.value same), fun same => same ▸ rfl⟩

theorem Document.optional_inj {Value : Type} {wrap : Value → Document} {left right : Option Value}
    (given : ∀ value, wrap value ≠ .null)
    (injective : ∀ first second, wrap first = wrap second → first = second) :
    Document.optional wrap left = Document.optional wrap right ↔ left = right := by
  cases left with
  | none =>
    cases right with
    | none => exact iff_of_true rfl rfl
    | some value => exact iff_of_false (given value).symm nofun
  | some first =>
    cases right with
    | none => exact iff_of_false (given first) nofun
    | some second =>
      rw [Option.some.injEq]
      exact ⟨injective first second, fun same => same ▸ rfl⟩

@[simp]
theorem Document.optional_ofInt_inj {left right : Option Int} :
    Document.optional .ofInt left = Document.optional .ofInt right ↔ left = right :=
  Document.optional_inj (fun _ same => nomatch congrArg Document.value same)
    fun _ _ => Document.ofInt_inj.mp

@[simp]
theorem Document.optional_string_inj {left right : Option String} :
    Document.optional .string left = Document.optional .string right ↔ left = right :=
  Document.optional_inj (fun _ same => nomatch congrArg Document.value same)
    fun _ _ => Document.string_inj.mp

def Document.ofNat (value : Nat) : Document := .ofInt value

@[simp]
theorem Document.ofNat_inj {left right : Nat} : Document.ofNat left = Document.ofNat right ↔ left = right :=
  Document.ofInt_inj.trans Int.ofNat_inj

@[simp]
theorem Document.optional_ofNat_inj {left right : Option Nat} :
    Document.optional .ofNat left = Document.optional .ofNat right ↔ left = right :=
  Document.optional_inj (fun _ same => nomatch congrArg Document.value same)
    fun _ _ => Document.ofNat_inj.mp

def dumpsMembers (members : List (String × Document)) : String :=
  dumps (.object (members.map fun member => (member.1, member.2.value)))

theorem Document.ext_members {left right : List (String × Document)}
    (same : left.map (fun member => (member.1, member.2.value)) =
      right.map fun member => (member.1, member.2.value)) : left = right := by
  refine List.map_injective_iff.mpr ?_ same
  rintro ⟨key, value⟩ ⟨name, other⟩ equal
  obtain ⟨sameKey, sameValue⟩ := Prod.mk.inj equal
  exact Prod.ext sameKey (Document.ext_value sameValue)

theorem perm_of_dumpsMembers_eq {left right : List (String × Document)}
    (same : dumpsMembers left = dumpsMembers right) :
    (left.map fun member => (member.1, member.2.value)).Perm
      (right.map fun member => (member.1, member.2.value)) := by
  have canonical : ∀ members : List (String × Document),
      ∀ member ∈ members.map fun member => (member.1, member.2.value), Canonical member.2 := by
    intro members member listed
    obtain ⟨given, _, rfl⟩ := List.mem_map.mp listed
    exact given.2.canonical
  exact perm_of_dumps_eq (canonical left) (canonical right) same

theorem length_of_dumpsMembers_eq {left right : List (String × Document)}
    (same : dumpsMembers left = dumpsMembers right) : left.length = right.length := by
  simpa using (perm_of_dumpsMembers_eq same).length_eq

theorem eq_of_dumpsMembers_eq {left right : List (String × Document)}
    (keys : left.map Prod.fst = right.map Prod.fst) (distinct : (left.map Prod.fst).Nodup)
    (same : dumpsMembers left = dumpsMembers right) : left = right := by
  have first : ∀ members : List (String × Document),
      (members.map fun member => (member.1, member.2.value)).map Prod.fst =
        members.map Prod.fst := fun members => by rw [List.map_map]; rfl
  apply Document.ext_members
  apply eq_of_perm (perm_of_dumpsMembers_eq same)
  · rw [first, first, keys]
  · rwa [first]

end InfrasafeBot.Library.Json
