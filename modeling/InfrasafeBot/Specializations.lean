import InfrasafeBot.Library.Json

/-! The vocabulary of specializations and the parser of their three stored forms:
a JSON list, comma-separated values and one token
(`constants/specializations.py`, `utils/specializations.py`). Sets are lists;
only membership matters. -/

set_option autoImplicit false

namespace InfrasafeBot.Specializations

open Library

def canonicalSpecializations : List String :=
  ["electrician", "plumber", "heating", "ventilation", "elevator", "cleaning",
    "security", "landscaping", "repair"]

def universalSpecialization : String := "universal"

def specializationAliases : List (String × List String) :=
  [("electric", ["electrician"]), ("plumbing", ["plumber"]), ("patrol", ["security"]),
    ("hvac", ["heating", "ventilation"]), ("maintenance", ["elevator"]),
    ("general", ["repair"]), ("installation", ["repair"]), ("emergency", ["repair"]),
    ("other", ["repair"]), ("electricity", ["electrician"]), ("internet", ["electrician"])]

def collapseTo : List (String × String) := [("hvac", "heating")]

inductive Side where
  | have
  | need

def normalizeSpecialization (value : String) (side : Side) : List String :=
  let token := pyLower (pyStrip value)
  if token = "" then []
  else if canonicalSpecializations.contains token then [token]
  else
    match specializationAliases.lookup token with
    | none => []
    | some resolved =>
      match side, collapseTo.lookup token with
      | .need, some single => [single]
      | _, _ => resolved

def isCanonical (value : String) : Bool := canonicalSpecializations.contains value

def rawSpecializationTokens (raw : Option String) : List String :=
  match raw with
  | none => []
  | some raw =>
    let text := pyStrip raw
    if text.toList.head? = some '[' then
      match Json.loads text with
      | some (.array items) => (items.map fun item => pyStrip item.elementText).filter (· ≠ "")
      | _ => splitStripped ',' text
    else splitStripped ',' text

def parseSpecializationValues (raw : Option String) (side : Side) (allowUniversal : Bool) : List String :=
  (rawSpecializationTokens raw).flatMap fun token =>
    if allowUniversal && pyLower (pyStrip token) = universalSpecialization then [universalSpecialization]
    else normalizeSpecialization token side

/-- The skills of a user, where `universal` means any of them. -/
def parseSpecializations (specialization : Option String) : List String :=
  parseSpecializationValues specialization .have true

def matchesRequiredSpecs (userSpecs required : List String) : Bool :=
  required.isEmpty || required.contains universalSpecialization ||
    userSpecs.contains universalSpecialization || required.any userSpecs.contains

example : parseSpecializationValues (some " hvac, plumbing") .need false =
    ["heating", "plumber"] := by decide

end InfrasafeBot.Specializations
