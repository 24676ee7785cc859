import Mathlib.Data.List.Basic
/-! Python objects as a program without static types passes them around, and the
parts of `str` the parsers rely on: `isspace`, `strip`, `lower`, `split`, `repr`.
`asInteger`, `asText` and `asMoment` are what a column of that type holds after
the object is stored in it. -/

set_option autoImplicit false

namespace InfrasafeBot.Library

/-- A Python object. `other` is one that is none of the listed types (a float, a
dict, ...), known by its type's name and its truth value. -/
inductive PyValue where
  | none
  | bool (value : Bool)
  | int (value : Int)
  | str (value : String)
  | list (items : List PyValue)
  | datetime (moment : Int)
  | other (typeName : String) (truth : Bool)

inductive PyType where
  | int
  | str
  | list

def PyType.name : PyType → String
  | .int => "int"
  | .str => "str"
  | .list => "list"

namespace PyValue

def isInstance : PyValue → PyType → Bool
  | .int _, .int => true
  | .bool _, .int => true
  | .str _, .str => true
  | .list _, .list => true
  | _, _ => false

def isNone : PyValue → Bool
  | .none => true
  | _ => false

def truthy : PyValue → Bool
  | .none => false
  | .bool value => value
  | .int value => value != 0
  | .str value => value != ""
  | .list items => !items.isEmpty
  | .datetime _ => true
  | .other _ truth => truth

/-- `str(value)`; only texts reach it through a validated payload. -/
def toText : PyValue → String
  | .none => "None"
  | .bool value => if value then "True" else "False"
  | .int value => toString value
  | .str value => value
  | .list _ => "list"
  | .datetime _ => "datetime"
  | .other typeName _ => typeName

def asInteger : PyValue → Option Int
  | .int value => some value
  | .bool value => some (if value then 1 else 0)
  | _ => Option.none

def asText : PyValue → Option String
  | .str value => some value
  | _ => Option.none

def asMoment : PyValue → Option Int
  | .datetime moment => some moment
  | _ => Option.none

def ofOption {α : Type} (wrap : α → PyValue) : Option α → PyValue
  | some value => wrap value
  | Option.none => .none

@[simp] theorem isNone_none : PyValue.none.isNone = true := rfl

@[simp] theorem isNone_str (text : String) : (PyValue.str text).isNone = false := rfl

theorem asInteger_isSome_of_int {value : PyValue} (typed : value.isInstance .int = true) :
    ∃ number, value.asInteger = some number := by
  cases value <;> simp_all [isInstance, asInteger]

theorem eq_str_of_str {value : PyValue} (typed : value.isInstance .str = true) :
    ∃ text, value = .str text := by
  cases value <;> simp_all [isInstance]

theorem isNone_eq_false_of_instance {value : PyValue} {type : PyType}
    (typed : value.isInstance type = true) : value.isNone = false := by
  cases value <;> cases type <;> simp_all [isInstance, isNone]

end PyValue

def pyIsSpace (c : Char) : Bool :=
  let code := c.toNat
  (0x09 ≤ code && code ≤ 0x0d) || (0x1c ≤ code && code ≤ 0x20) || code == 0x85 ||
    code == 0xa0 || code == 0x1680 || (0x2000 ≤ code && code ≤ 0x200a) ||
    code == 0x2028 || code == 0x2029 || code == 0x202f || code == 0x205f || code == 0x3000

def stripChars (text : List Char) : List Char :=
  ((text.dropWhile pyIsSpace).reverse.dropWhile pyIsSpace).reverse

def pyStrip (text : String) : String := String.ofList (stripChars text.toList)

/-- `text.lower()`, to be compared with ASCII words: outside ASCII only the Kelvin
sign lowers to an ASCII letter, and the other letters are left. -/
def pyLower (text : String) : String :=
  String.ofList (text.toList.map fun c => if c.toNat = 0x212a then 'k' else c.toLower)

def splitChars (separator : Char) : List Char → List (List Char)
  | [] => [[]]
  | c :: rest =>
    if c = separator then [] :: splitChars separator rest
    else
      match splitChars separator rest with
      | [] => [[c]]
      | part :: parts => (c :: part) :: parts

/-- `[part.strip() for part in text.split(separator) if part.strip()]` -/
def splitStripped (separator : Char) (text : String) : List String :=
  ((splitChars separator text.toList).map stripChars).filterMap fun part =>
    if part.isEmpty then none else some (String.ofList part)

/-- `int(text)` for a text without digits outside ASCII: blanks around it, a sign,
and digits that single underscores may group; 4300 digits at most. -/
def pyInt (text : String) : Option Int :=
  let (negative, digits) :=
    match stripChars text.toList with
    | '-' :: rest => (true, rest)
    | '+' :: rest => (false, rest)
    | rest => (false, rest)
  let groups := splitChars '_' digits
  if (groups.all fun group => !group.isEmpty && group.all Char.isDigit) && groups.flatten.length ≤ 4300 then
    let value : Int := Nat.ofDigitChars 10 groups.flatten 0
    some (if negative then -value else value)
  else none

/-- `repr` of a text: quoted, with the quote, the backslash and the usual control
characters escaped. -/
def pyRepr (text : String) : String :=
  let chars := text.toList
  let quote := if chars.contains (Char.ofNat 39) && !chars.contains (Char.ofNat 34)
    then Char.ofNat 34 else Char.ofNat 39
  let escape : Char → List Char := fun c =>
    if c = Char.ofNat 92 || c = quote then [Char.ofNat 92, c]
    else if c = Char.ofNat 10 then [Char.ofNat 92, 'n']
    else if c = Char.ofNat 13 then [Char.ofNat 92, 'r']
    else if c = Char.ofNat 9 then [Char.ofNat 92, 't']
    else [c]
  String.ofList (quote :: chars.flatMap escape ++ [quote])

example : splitStripped ',' " plumber, ,electrician " = ["plumber", "electrician"] := by decide

end InfrasafeBot.Library
