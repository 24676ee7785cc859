import InfrasafeBot.Library.PyValue
/-! The reader of JSON texts with the leniencies of Python's `json.loads`: it also
accepts `NaN` and the infinities. A text it refuses is what raises
`JSONDecodeError` there. -/

set_option autoImplicit false

namespace InfrasafeBot.Library

inductive Json where
  | null
  | bool (value : Bool)
  | number (text : String)
  | string (text : String)
  | array (items : List Json)
  | object (members : List (String × Json))

namespace Json

def skipSpace (input : List Char) : List Char :=
  input.dropWhile fun c => c = ' ' || c.toNat = 9 || c.toNat = 10 || c.toNat = 13

def quoteMark : Char := Char.ofNat 34

def backslash : Char := Char.ofNat 92

def hexDigit? (c : Char) : Option Nat :=
  let code := c.toNat
  if 48 ≤ code && code ≤ 57 then some (code - 48)
  else if 97 ≤ code && code ≤ 102 then some (code - 87)
  else if 65 ≤ code && code ≤ 70 then some (code - 55)
  else none

def hexQuad? (a b c d : Char) : Option Nat := do
  let a ← hexDigit? a
  let b ← hexDigit? b
  let c ← hexDigit? c
  let d ← hexDigit? d
  pure (((a * 16 + b) * 16 + c) * 16 + d)

def simpleEscape? (c : Char) : Option Char :=
  if c = quoteMark || c = backslash || c = '/' then some c
  else if c = 'b' then some (Char.ofNat 8)
  else if c = 'f' then some (Char.ofNat 12)
  else if c = 'n' then some (Char.ofNat 10)
  else if c = 'r' then some (Char.ofNat 13)
  else if c = 't' then some (Char.ofNat 9)
  else none

/-- The characters of a string after its opening quote, and what follows it.
A surrogate pair is one character; a lone surrogate, which a Lean character
cannot hold, becomes U+FFFD. -/
def stringBody (fuel : Nat) (input : List Char) : Option (List Char × List Char) :=
  match fuel, input with
  | 0, _ | _, [] => none
  | fuel + 1, c :: rest =>
    if c = quoteMark then some ([], rest)
    else if c.toNat < 32 then none
    else if c ≠ backslash then (stringBody fuel rest).map fun (body, after) => (c :: body, after)
    else
      match rest with
      | 'u' :: a :: b :: x :: y :: tail => do
          let high ← hexQuad? a b x y
          let single := do
            let (body, after) ← stringBody fuel tail
            let c := if 0xd800 ≤ high && high ≤ 0xdfff then 0xfffd else high
            pure (Char.ofNat c :: body, after)
          if 0xd800 ≤ high && high ≤ 0xdbff then
            match tail with
            | slash :: 'u' :: e :: f :: g :: h :: tail' =>
              match hexQuad? e f g h with
              | some low =>
                if slash = backslash && 0xdc00 ≤ low && low ≤ 0xdfff then do
                  let (body, after) ← stringBody fuel tail'
                  let c := 0x10000 + (high - 0xd800) * 0x400 + (low - 0xdc00)
                  pure (Char.ofNat c :: body, after)
                else single
              | none => single
            | _ => single
          else single
      | escaped :: tail => do
          let c ← simpleEscape? escaped
          let (body, after) ← stringBody fuel tail
          pure (c :: body, after)
      | [] => none

def isDigit (c : Char) : Bool := 48 ≤ c.toNat && c.toNat ≤ 57

def signPart (input : List Char) : List Char × List Char :=
  match input with
  | '-' :: rest => (['-'], rest)
  | _ => ([], input)

def wholePart? (input : List Char) : Option (List Char × List Char) :=
  match input with
  | '0' :: rest => some (['0'], rest)
  | _ =>
    let digits := input.takeWhile isDigit
    if digits.isEmpty then none else some (digits, input.dropWhile isDigit)

def fractionPart (input : List Char) : List Char × List Char :=
  match input with
  | '.' :: tail =>
    let part := tail.takeWhile isDigit
    if part.isEmpty then ([], input) else ('.' :: part, tail.dropWhile isDigit)
  | _ => ([], input)

def exponentSign (input : List Char) : List Char × List Char :=
  match input with
  | s :: more => if s = '-' || s = '+' then ([s], more) else ([], input)
  | [] => ([], input)

def exponentPart (input : List Char) : List Char × List Char :=
  match input with
  | e :: tail =>
    if e = 'e' || e = 'E' then
      let (mark, unsigned) := exponentSign tail
      let part := unsigned.takeWhile isDigit
      if part.isEmpty then ([], input)
      else (e :: mark ++ part, unsigned.dropWhile isDigit)
    else ([], input)
  | [] => ([], input)

def number? (input : List Char) : Option (List Char × List Char) :=
  let (sign, unsigned) := signPart input
  (wholePart? unsigned).map fun (digits, rest) =>
    let (fraction, rest) := fractionPart rest
    let (exponent, rest) := exponentPart rest
    (sign ++ digits ++ fraction ++ exponent, rest)

def keywords : List (String × Json) :=
  [("null", .null), ("true", .bool true), ("false", .bool false),
    ("NaN", .number "NaN"), ("Infinity", .number "Infinity"),
    ("-Infinity", .number "-Infinity")]

def keyword? (input : List Char) : Option (Json × List Char) :=
  keywords.findSome? fun (word, value) =>
    if word.toList.isPrefixOf input then some (value, input.drop word.length) else none

inductive Frame where
  | array (items : List Json)
  | object (members : List (String × Json)) (key : String)

def key? (input : List Char) : Option (String × List Char) :=
  match input with
  | [] => none
  | c :: rest =>
    if c ≠ quoteMark then none
    else
      match stringBody rest.length rest with
      | none => none
      | some (key, after) =>
        match skipSpace after with
        | ':' :: start => some (String.ofList key, skipSpace start)
        | _ => none

def isClosingBrace (c : Char) : Bool := c.toNat = 125

/-- The decoder: `done` is the value just completed, if one was, and `stack` the
containers still open. -/
def decode (fuel : Nat) (done : Option Json) (input : List Char) (stack : List Frame) :
    Option (Json × List Char) :=
  match fuel with
  | 0 => none
  | fuel + 1 =>
    match done, stack with
    | some value, [] => some (value, input)
    | some value, .array items :: outer =>
      match skipSpace input with
      | ',' :: rest => decode fuel none (skipSpace rest) (.array (value :: items) :: outer)
      | ']' :: rest => decode fuel (some (.array (value :: items).reverse)) rest outer
      | _ => none
    | some value, .object members key :: outer =>
      match skipSpace input with
      | [] => none
      | c :: rest =>
        if isClosingBrace c then decode fuel (some (.object ((key, value) :: members).reverse)) rest outer
        else if c = ',' then
          match key? (skipSpace rest) with
          | none => none
          | some (next, start) => decode fuel none start (.object ((key, value) :: members) next :: outer)
        else none
    | none, stack =>
      match input with
      | [] => none
      | c :: rest =>
        if c = quoteMark then
          match stringBody rest.length rest with
          | none => none
          | some (body, after) => decode fuel (some (.string (String.ofList body))) after stack
        else if c = '[' then
          match skipSpace rest with
          | ']' :: after => decode fuel (some (.array [])) after stack
          | start => decode fuel none start (.array [] :: stack)
        else if c.toNat = 123 then
          match skipSpace rest with
          | [] => none
          | first :: after =>
            if isClosingBrace first then decode fuel (some (.object [])) after stack
            else
              match key? (first :: after) with
              | none => none
              | some (key, start) => decode fuel none start (.object [] key :: stack)
        else
          match keyword? input with
          | some (value, after) => decode fuel (some value) after stack
          | none =>
            match number? input with
            | none => none
            | some (text, after) => decode fuel (some (.number (String.ofList text))) after stack

private theorem skipSpace_length (input : List Char) : (skipSpace input).length ≤ input.length :=
  (List.dropWhile_sublist _).length_le

variable {after body input : List Char} {fuel : Nat}

private theorem prepended {c : Char} {read : Option (List Char × List Char)}
    (rest : ∀ inner remaining, read = some (inner, remaining) → remaining.length < input.length)
    (whole : (read.bind fun part => some (c :: part.1, part.2)) = some (body, after)) :
    after.length < input.length := by
  obtain ⟨⟨inner, remaining⟩, found, same⟩ := Option.bind_eq_some_iff.mp whole
  cases same
  exact rest inner remaining found

private theorem stringBody_rest (read : stringBody fuel input = some (body, after)) :
    after.length < input.length := by
  induction fuel generalizing input body after with
  | zero => simp [stringBody] at read
  | succ fuel ih =>
    cases input with
    | nil => simp [stringBody] at read
    | cons c rest =>
      simp only [stringBody] at read
      split at read
      · cases read
        simp
      · split at read
        · cases read
        · split at read
          · obtain ⟨⟨tail, remaining⟩, inner, same⟩ := Option.map_eq_some_iff.mp read
            cases same
            have shorter := ih inner
            simp only [List.length_cons]
            omega
          · split at read
            · next a b x y tail =>
                obtain ⟨high, quad, read⟩ := Option.bind_eq_some_iff.mp read
                have single : ∀ c : Char, (do
                    let (body, after) ← stringBody fuel tail
                    pure (c :: body, after)) = some (body, after) →
                    after.length < tail.length := fun c whole =>
                  prepended (fun _ _ found => ih found) whole
                simp only [List.length_cons]
                split at read
                · split at read
                  · next slash e f g h tail =>
                      split at read
                      · split at read
                        · have shorter := prepended (fun _ _ found => ih found) read
                          simp only [List.length_cons]
                          omega
                        · have shorter := single _ read
                          simp only [List.length_cons] at shorter ⊢
                          omega
                      · have shorter := single _ read
                        simp only [List.length_cons] at shorter ⊢
                        omega
                  · have shorter := single _ read
                    omega
                · have shorter := single _ read
                  omega
            · next escaped tail =>
                obtain ⟨c, simple, read⟩ := Option.bind_eq_some_iff.mp read
                have shorter := prepended (fun _ _ found => ih found) read
                simp only [List.length_cons]
                omega
            · cases read

private theorem key?_rest {key : String} (read : key? input = some (key, after)) :
    after.length < input.length := by
  unfold key? at read
  split at read
  · cases read
  · next c rest =>
      split at read
      · cases read
      · split at read
        · cases read
        · next body remaining inner =>
            split at read
            · next start found =>
                cases read
                have shorter := stringBody_rest inner
                have spaces := skipSpace_length remaining
                have more := skipSpace_length start
                rw [found] at spaces
                simp only [List.length_cons] at spaces ⊢
                omega
            · cases read

private theorem keywords_nonempty : ∀ entry ∈ keywords, 0 < entry.1.length := by
  decide

private theorem keyword?_rest {value : Json} (read : keyword? input = some (value, after)) :
    after.length < input.length := by
  obtain ⟨⟨word, meaning⟩, listed, found⟩ := List.exists_of_findSome?_eq_some read
  dsimp only at found
  split at found
  · next starts =>
      cases found
      have bounded : word.length ≤ input.length := by
        have shorter := (List.isPrefixOf_iff_prefix.mp starts).length_le
        rwa [String.length_toList] at shorter
      have nonempty : 0 < word.length := keywords_nonempty _ listed
      rw [List.length_drop]
      omega
  · cases found

private theorem dropDigits_length (input : List Char) : (input.dropWhile isDigit).length ≤ input.length :=
  (List.dropWhile_sublist _).length_le

private theorem signPart_rest (input : List Char) : (signPart input).2.length ≤ input.length := by
  unfold signPart
  split
  · simp
  · exact Nat.le_refl _

private theorem wholePart?_rest {digits : List Char}
    (read : wholePart? input = some (digits, after)) : after.length < input.length := by
  unfold wholePart? at read
  split at read
  · cases read
    simp
  · dsimp only at read
    split at read
    · cases read
    · next nonempty =>
        cases read
        have parts := congrArg List.length
          (List.takeWhile_append_dropWhile (p := isDigit) (l := input))
        have some_ : 0 < (input.takeWhile isDigit).length := by
          rw [List.length_pos_iff]
          simpa using nonempty
        rw [List.length_append] at parts
        omega

private theorem fractionPart_rest (input : List Char) : (fractionPart input).2.length ≤ input.length := by
  unfold fractionPart
  split
  · next tail =>
      have shorter := dropDigits_length tail
      dsimp only
      split
      · exact Nat.le_refl _
      · simp only [List.length_cons]
        omega
  · exact Nat.le_refl _

private theorem exponentSign_rest (input : List Char) : (exponentSign input).2.length ≤ input.length := by
  unfold exponentSign
  split
  · split
    · simp
    · exact Nat.le_refl _
  · exact Nat.le_refl _

private theorem exponentPart_rest (input : List Char) : (exponentPart input).2.length ≤ input.length := by
  unfold exponentPart
  split
  · next e tail =>
      have signed := exponentSign_rest tail
      have shorter := dropDigits_length (exponentSign tail).2
      split
      · dsimp only
        split
        · exact Nat.le_refl _
        · simp only [List.length_cons]
          omega
      · exact Nat.le_refl _
  · exact Nat.le_refl _

private theorem number?_rest {text : List Char} (read : number? input = some (text, after)) :
    after.length < input.length := by
  obtain ⟨⟨digits, rest⟩, whole, same⟩ := Option.map_eq_some_iff.mp read
  change wholePart? (signPart input).2 = _ at whole
  change (_, (exponentPart (fractionPart rest).2).2) = (text, after) at same
  obtain ⟨_, rfl⟩ := Prod.mk.inj same
  have signed := signPart_rest input
  have shorter := wholePart?_rest whole
  have fraction := fractionPart_rest rest
  have exponent := exponentPart_rest (fractionPart rest).2
  omega

theorem decode_fuel {more : Nat} {done : Option Json} {stack : List Frame}
    (enough : input.length < fuel) (alsoEnough : input.length < more) :
    decode fuel done input stack = decode more done input stack := by
  induction fuel generalizing more done input stack with
  | zero => cases enough
  | succ fuel ih =>
    cases more with
    | zero => cases alsoEnough
    | succ more =>
      have same : ∀ (done : Option Json) (rest : List Char) (stack : List Frame),
          rest.length < input.length →
          decode fuel done rest stack = decode more done rest stack :=
        fun done rest stack shorter => ih (by omega) (by omega)
      have spaces := skipSpace_length input
      simp only [decode]
      split
      · rfl
      · split
        · next rest found =>
            rw [found] at spaces
            have onward := skipSpace_length rest
            simp only [List.length_cons] at spaces
            exact same _ _ _ (by omega)
        · next rest found =>
            rw [found] at spaces
            simp only [List.length_cons] at spaces
            exact same _ _ _ (by omega)
        · rfl
      · split
        · rfl
        · next c rest found =>
            rw [found] at spaces
            simp only [List.length_cons] at spaces
            have onward := skipSpace_length rest
            split
            · exact same _ _ _ (by omega)
            · split
              · split
                · rfl
                · next key start read =>
                    have shorter := key?_rest read
                    exact same _ _ _ (by omega)
              · rfl
      · split
        · rfl
        · next c rest =>
            simp only [List.length_cons] at same
            split
            · split
              · rfl
              · next body after read =>
                  have shorter := stringBody_rest read
                  exact same _ _ _ (by omega)
            · have onward := skipSpace_length rest
              split
              · split
                · next after found =>
                    rw [found] at onward
                    simp only [List.length_cons] at onward
                    exact same _ _ _ (by omega)
                · exact same _ _ _ (by omega)
              · split
                · split
                  · rfl
                  · next first after found =>
                      rw [found] at onward
                      simp only [List.length_cons] at onward
                      split
                      · exact same _ _ _ (by omega)
                      · split
                        · rfl
                        · next key start read =>
                            have shorter := key?_rest read
                            simp only [List.length_cons] at shorter
                            exact same _ _ _ (by omega)
                · split
                  · next value after read =>
                      have shorter := keyword?_rest read
                      simp only [List.length_cons] at shorter
                      exact same _ _ _ (by omega)
                  · split
                    · rfl
                    · next text after read =>
                        have shorter := number?_rest read
                        simp only [List.length_cons] at shorter
                        exact same _ _ _ (by omega)

/-- `json.loads(text)`; `none` where it raises `JSONDecodeError`. -/
def loads (text : String) : Option Json :=
  let input := text.toList
  match decode (2 * input.length + 2) none (skipSpace input) [] with
  | some (value, after) => if (skipSpace after).isEmpty then some value else none
  | none => none

theorem loads_eq_of_fuel {text : String} (enough : text.toList.length < fuel) :
    loads text =
      match decode fuel none (skipSpace text.toList) [] with
      | some (value, after) => if (skipSpace after).isEmpty then some value else none
      | none => none := by
  have shorter := skipSpace_length text.toList
  unfold loads
  dsimp only
  rw [decode_fuel (by omega : _ < 2 * text.toList.length + 2) (by omega : _ < fuel)]

/-- `str(value)` of a decoded element. Numbers and containers keep a text of
their own: it starts with a digit, a sign or a bracket, like the one Python shows. -/
def elementText : Json → String
  | .null => "None"
  | .bool value => if value then "True" else "False"
  | .number text => text
  | .string text => text
  | .array _ => "["
  | .object _ => String.ofList [Char.ofNat 123]

def stringItems? : Json → Option (List String)
  | .array items => some (items.filterMap fun
      | .string text => some text
      | _ => none)
  | _ => none

example : (loads "[\"manager\", 5, \"executor\"]").bind stringItems? =
    some ["manager", "executor"] := by decide

end Json

end InfrasafeBot.Library
