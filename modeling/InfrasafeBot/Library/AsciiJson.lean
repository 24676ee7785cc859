import InfrasafeBot.Library.CanonicalJson

/-! The writer of JSON texts of Python's `json.dumps` with ASCII escapes, sorted keys and no
blanks. Outside of strings a text is ASCII, so its escapes are those of its characters. What is
written of an object of texts and integers is read back by `json.loads`. -/

set_option autoImplicit false

namespace InfrasafeBot.Library.Json

def unicodeEscape (unit : Nat) : List Char :=
  [slash, 'u', Nat.digitChar (unit / 4096), Nat.digitChar (unit / 256 % 16),
    Nat.digitChar (unit / 16 % 16), Nat.digitChar (unit % 16)]

/-- A character beyond the basic plane is written as a surrogate pair. -/
def asciiChar (c : Char) : List Char :=
  if c.toNat < 127 then [c]
  else if c.toNat < 0x10000 then unicodeEscape c.toNat
  else
    unicodeEscape (0xd800 + (c.toNat - 0x10000) / 0x400) ++
      unicodeEscape (0xdc00 + (c.toNat - 0x10000) % 0x400)

def ascii (text : List Char) : List Char := text.flatMap asciiChar

def dumpsAscii (value : Json) : String := String.ofList (ascii (write (sortKeys value)))

@[simp] theorem ascii_nil : ascii [] = [] := rfl

@[simp] theorem ascii_append (left right : List Char) : ascii (left ++ right) = ascii left ++ ascii right :=
  List.flatMap_append

variable {c : Char} {text digits input rest start : List Char} {unit : Nat} {value : Json}
  {key : String} {members : List (String × Json)} {items : List Json}

theorem ascii_cons (plain : c.toNat < 127) (rest : List Char) : ascii (c :: rest) = c :: ascii rest := by
  rw [ascii, List.flatMap_cons, asciiChar, if_pos plain]
  rfl

theorem ascii_eq_self (plain : ∀ c ∈ text, c.toNat < 127) : ascii text = text := by
  induction text with
  | nil => rfl
  | cons c rest ih =>
    rw [ascii_cons (plain c List.mem_cons_self),
      ih fun later listed => plain later (List.mem_cons_of_mem _ listed)]

theorem hexDigit?_digitChar {value : Nat} (small : value < 16) :
    hexDigit? (Nat.digitChar value) = some value := by
  revert value
  decide

theorem hexQuad?_digitChar {a b c d : Nat} (first : a < 16) (second : b < 16) (third : c < 16)
    (fourth : d < 16) :
    hexQuad? (Nat.digitChar a) (Nat.digitChar b) (Nat.digitChar c) (Nat.digitChar d) =
      some (((a * 16 + b) * 16 + c) * 16 + d) := by
  simp [hexQuad?, hexDigit?_digitChar first, hexDigit?_digitChar second,
    hexDigit?_digitChar third, hexDigit?_digitChar fourth]

theorem hexQuad?_unit (small : unit < 0x10000) :
    hexQuad? (Nat.digitChar (unit / 4096)) (Nat.digitChar (unit / 256 % 16))
      (Nat.digitChar (unit / 16 % 16)) (Nat.digitChar (unit % 16)) = some unit := by
  rw [hexQuad?_digitChar (by omega) (by omega) (by omega) (by omega)]
  congr 1
  omega

def readFirst (c : Char) (read : Option (List Char × List Char)) : Option (List Char × List Char) :=
  read.map fun part => (c :: part.1, part.2)

variable {fuel : Nat}

theorem bind_readFirst (c : Char) (read : Option (List Char × List Char)) :
    (read.bind fun part => some (c :: part.1, part.2)) = readFirst c read := by
  cases read with
  | none | some => rfl

theorem slash_ne_quoteMark : slash ≠ quoteMark := by decide

theorem slash_printed : ¬ slash.toNat < 32 := by decide

theorem slash_escapes : ¬ slash ≠ backslash := fun different => different rfl

theorem stringBody_plain (unquoted : c ≠ quote) (unslashed : c ≠ slash) (printed : ¬ c.toNat < 32)
    (rest : List Char) :
    stringBody (fuel + 1) (c :: rest) = readFirst c (stringBody fuel rest) := by
  simp only [stringBody]
  rw [if_neg (show c ≠ quoteMark from unquoted), if_neg printed, if_pos (show c ≠ backslash from unslashed)]
  rfl

theorem stringBody_simple {letter : Char} (long : letter ≠ 'u')
    (simple : simpleEscape? letter = some c) (rest : List Char) :
    stringBody (fuel + 1) (slash :: letter :: rest) = readFirst c (stringBody fuel rest) := by
  simp only [stringBody]
  rw [if_neg slash_ne_quoteMark, if_neg slash_printed, if_neg slash_escapes]
  split
  · next same => exact absurd (List.cons.inj same).1 long
  · next escaped tail _ same =>
      obtain ⟨rfl, rfl⟩ := List.cons.inj same
      rw [simple]
      exact bind_readFirst c _
  · next same => cases same

theorem stringBody_unicode (small : unit < 0x10000) (whole : unit < 0xd800 ∨ 0xdfff < unit)
    (rest : List Char) :
    stringBody (fuel + 1) (unicodeEscape unit ++ rest) =
      readFirst (Char.ofNat unit) (stringBody fuel rest) := by
  have alone : (decide (0xd800 ≤ unit) && decide (unit ≤ 0xdfff)) = false := by
    simp only [Bool.and_eq_false_iff, decide_eq_false_iff_not]
    omega
  have unpaired : (decide (0xd800 ≤ unit) && decide (unit ≤ 0xdbff)) = false := by
    simp only [Bool.and_eq_false_iff, decide_eq_false_iff_not]
    omega
  simp only [unicodeEscape, List.cons_append, List.nil_append, stringBody]
  rw [if_neg slash_ne_quoteMark, if_neg slash_printed, if_neg slash_escapes, hexQuad?_unit small]
  simp only [Option.bind_eq_bind, Option.bind_some, alone, unpaired, Bool.false_eq_true, if_false]
  exact bind_readFirst _ _

theorem stringBody_pair {high low : Nat} (first : high < 0x400) (second : low < 0x400)
    (rest : List Char) :
    stringBody (fuel + 1)
        (unicodeEscape (0xd800 + high) ++ (unicodeEscape (0xdc00 + low) ++ rest)) =
      readFirst (Char.ofNat (0x10000 + high * 0x400 + low)) (stringBody fuel rest) := by
  have leads : (decide (0xd800 ≤ 0xd800 + high) && decide (0xd800 + high ≤ 0xdbff)) = true := by
    simp only [Bool.and_eq_true, decide_eq_true_eq]
    omega
  have follows : (decide (slash = backslash) && decide (0xdc00 ≤ 0xdc00 + low) &&
      decide (0xdc00 + low ≤ 0xdfff)) = true := by
    simp only [Bool.and_eq_true, decide_eq_true_eq]
    exact ⟨⟨rfl, by omega⟩, by omega⟩
  simp only [unicodeEscape, List.cons_append, List.nil_append, stringBody]
  rw [if_neg slash_ne_quoteMark, if_neg slash_printed, if_neg slash_escapes,
    hexQuad?_unit (by omega : 0xd800 + high < 0x10000),
    hexQuad?_unit (by omega : 0xdc00 + low < 0x10000)]
  simp only [Option.bind_eq_bind, Option.bind_some, leads, follows, if_true, Nat.add_sub_cancel_left]
  exact bind_readFirst _ _

theorem toNat_lt (c : Char) : c.toNat < 0x110000 ∧ (c.toNat < 0xd800 ∨ 0xdfff < c.toNat) := by
  rcases c.valid with low | ⟨above, below⟩
  · have small : c.toNat < 0xd800 := low
    omega
  · have outside : 0xdfff < c.toNat := above
    have bounded : c.toNat < 0x110000 := below
    exact ⟨bounded, .inr outside⟩

theorem stringBody_asciiChar (unquoted : c ≠ quote) (unslashed : c ≠ slash)
    (printed : ¬ c.toNat < 32) (rest : List Char) :
    stringBody (fuel + 1) (asciiChar c ++ rest) = readFirst c (stringBody fuel rest) := by
  obtain ⟨bounded, whole⟩ := toNat_lt c
  unfold asciiChar
  split
  · exact stringBody_plain unquoted unslashed printed rest
  · split
    · next small => rw [stringBody_unicode small whole, Char.ofNat_toNat]
    · next large =>
        have joined : 0x10000 + (c.toNat - 0x10000) / 0x400 * 0x400 +
            (c.toNat - 0x10000) % 0x400 = c.toNat := by
          omega
        rw [List.append_assoc, stringBody_pair (by omega) (by omega), joined, Char.ofNat_toNat]

theorem escapeChar_control (control : c.toNat < 32) (plain : c.toNat ≠ 8) (tab : c.toNat ≠ 9)
    (newline : c.toNat ≠ 10) (feed : c.toNat ≠ 12) (back : c.toNat ≠ 13) :
    ascii (escapeChar c) = unicodeEscape c.toNat := by
  have unquoted : c ≠ quote := by
    rintro rfl
    exact absurd control (by decide)
  have unslashed : c ≠ slash := by
    rintro rfl
    exact absurd control (by decide)
  unfold escapeChar
  rw [if_neg unquoted, if_neg unslashed, if_neg plain, if_neg tab, if_neg newline, if_neg feed,
    if_neg back, if_pos control]
  have digit : ∀ value < 16, (Nat.digitChar value).toNat < 127 := by decide
  have high : c.toNat / 4096 = 0 ∧ c.toNat / 256 % 16 = 0 ∧ c.toNat / 16 % 16 = c.toNat / 16 := by
    omega
  rw [ascii_eq_self, unicodeEscape, high.1, high.2.1, high.2.2]
  · rfl
  · simp only [List.forall_mem_cons, List.not_mem_nil, false_imp_iff, implies_true, and_true]
    exact ⟨by decide, by decide, by decide, by decide, digit _ (by omega), digit _ (by omega)⟩

theorem stringBody_escape (c : Char) (rest : List Char) :
    stringBody (fuel + 1) (ascii (escapeChar c) ++ rest) =
      readFirst c (stringBody fuel rest) := by
  have named {code : Nat} (same : c.toNat = code) : c = Char.ofNat code := by
    rw [← same, Char.ofNat_toNat]
  by_cases quoted : c = quote
  · subst quoted
    exact stringBody_simple (by decide) (by decide) rest
  · by_cases slashed : c = slash
    · subst slashed
      exact stringBody_simple (by decide) (by decide) rest
    · by_cases control : c.toNat < 32
      · by_cases plain : c.toNat = 8
        · rw [named plain]
          exact stringBody_simple (by decide) (by decide) rest
        · by_cases tab : c.toNat = 9
          · rw [named tab]
            exact stringBody_simple (by decide) (by decide) rest
          · by_cases newline : c.toNat = 10
            · rw [named newline]
              exact stringBody_simple (by decide) (by decide) rest
            · by_cases feed : c.toNat = 12
              · rw [named feed]
                exact stringBody_simple (by decide) (by decide) rest
              · by_cases back : c.toNat = 13
                · rw [named back]
                  exact stringBody_simple (by decide) (by decide) rest
                · rw [escapeChar_control control plain tab newline feed back,
                    stringBody_unicode (by omega) (by omega), Char.ofNat_toNat]
      · have unescaped : escapeChar c = [c] := by
          unfold escapeChar
          rw [if_neg quoted, if_neg slashed]
          repeat' rw [if_neg (by omega)]
        rw [unescaped, ascii, List.flatMap_singleton]
        exact stringBody_asciiChar quoted slashed control rest

theorem escapeChar_ne_nil (c : Char) : 0 < (ascii (escapeChar c)).length := by
  cases written : ascii (escapeChar c) with
  | cons first rest => exact Nat.succ_pos _
  | nil =>
    have read : stringBody (1 + 1) (ascii (escapeChar c) ++ [quote]) = _ := stringBody_escape c [quote]
    rw [written] at read
    have ended : stringBody 1 [quote] = some ([], []) := rfl
    have closed : stringBody 2 [quote] = some ([], []) := rfl
    rw [List.nil_append, ended, closed] at read
    cases read

theorem stringBody_text (enough : text.length < fuel) (after : List Char) :
    stringBody fuel (ascii (text.flatMap escapeChar) ++ quote :: after) = some (text, after) := by
  induction text generalizing fuel with
  | nil =>
    cases fuel with
    | zero => cases enough
    | succ fuel => rfl
  | cons c rest ih =>
    cases fuel with
    | zero => cases enough
    | succ fuel =>
      rw [List.flatMap_cons, ascii_append, List.append_assoc, stringBody_escape,
        ih (Nat.lt_of_succ_lt_succ enough)]
      rfl

theorem length_le_escaped (text : List Char) : text.length ≤ (ascii (text.flatMap escapeChar)).length := by
  induction text with
  | nil => exact Nat.le_refl _
  | cons c rest ih =>
    have first := escapeChar_ne_nil c
    rw [List.flatMap_cons, ascii_append, List.length_append, List.length_cons]
    omega

theorem ascii_writeString (text : String) (after : List Char) :
    ascii (writeString text) ++ after =
      quote :: (ascii (text.toList.flatMap escapeChar) ++ quote :: after) := by
  simp only [writeString, ascii_append, List.append_assoc, List.cons_append, List.nil_append,
    ascii_cons (by decide : quote.toNat < 127), ascii_nil]

theorem stringBody_written (text : String) (after : List Char) :
    stringBody (ascii (text.toList.flatMap escapeChar) ++ quote :: after).length
        (ascii (text.toList.flatMap escapeChar) ++ quote :: after) =
      some (text.toList, after) := by
  have long := length_le_escaped text.toList
  refine stringBody_text ?_ after
  rw [List.length_append, List.length_cons]
  omega

theorem isDigit_eq (c : Char) : isDigit c = c.isDigit := by
  simp only [isDigit, Char.isDigit, ge_iff_le, UInt32.le_iff_toNat_le]
  rfl

theorem repr_isDigit (value : Nat) : ∀ c ∈ value.repr.toList, isDigit c = true :=
  fun c listed => (isDigit_eq c).trans (natRepr_digits value c listed)

theorem toDigits_head {value : Nat} (positive : 0 < value) :
    ∃ c rest, Nat.toDigits 10 value = c :: rest ∧ c ≠ '0' := by
  induction value using Nat.strong_induction_on with
  | _ value ih =>
    by_cases small : value < 10
    · have unzero : ∀ digit < 10, 0 < digit → Nat.digitChar digit ≠ '0' := by decide
      exact ⟨value.digitChar, [], Nat.toDigits_of_lt_base small, unzero value small positive⟩
    · obtain ⟨c, rest, digits, unzero⟩ := ih (value / 10) (by omega) (by omega)
      refine ⟨c, rest ++ [Nat.digitChar (value % 10)], ?_, unzero⟩
      rw [Nat.toDigits_of_base_le (by decide) (by omega), digits]
      rfl

variable {after : List Char}

theorem Ends.not_digit (ends : Ends after) : ∀ c ∈ after.head?, isDigit c = false := by
  intro c first
  have other := ends c first
  simp only [numberChar, Bool.or_eq_false_iff] at other
  exact (isDigit_eq c).trans other.1

theorem takeWhile_digits (all : ∀ c ∈ digits, isDigit c = true) (ends : Ends after) :
    (digits ++ after).takeWhile isDigit = digits ∧
      (digits ++ after).dropWhile isDigit = after := by
  rw [List.takeWhile_append_of_pos all, List.dropWhile_append_of_pos all]
  cases after with
  | nil => simp
  | cons c rest =>
    have other := ends.not_digit c rfl
    simp [other]

theorem wholePart?_repr (value : Nat) (ends : Ends after) :
    wholePart? (value.repr.toList ++ after) = some (value.repr.toList, after) := by
  have all := repr_isDigit value
  rw [Nat.toList_repr] at all ⊢
  cases value with
  | zero => rfl
  | succ value =>
    obtain ⟨c, rest, digits, unzero⟩ := toDigits_head (Nat.succ_pos value)
    rw [digits] at all ⊢
    obtain ⟨taken, dropped⟩ := takeWhile_digits all ends
    rw [List.cons_append] at taken dropped ⊢
    unfold wholePart?
    split
    · next same => exact absurd (List.cons.inj same).1 unzero
    · dsimp only
      rw [taken, dropped]
      rfl

theorem Ends.fractionPart (ends : Ends after) : fractionPart after = ([], after) := by
  unfold Json.fractionPart
  split
  · next tail =>
      have dot : numberChar '.' = false := ends '.' rfl
      exact absurd dot (by decide)
  · rfl

theorem Ends.exponentPart (ends : Ends after) : exponentPart after = ([], after) := by
  unfold Json.exponentPart
  split
  · next e tail =>
      have other := ends e rfl
      split
      · next exponent =>
          simp only [Bool.or_eq_true, decide_eq_true_eq] at exponent
          rcases exponent with rfl | rfl
          · exact absurd other (by decide)
          · exact absurd other (by decide)
      · rfl
  · rfl

theorem number?_unsigned (value : Nat) (ends : Ends after) (sign : List Char)
    (signed : signPart input = (sign, value.repr.toList ++ after)) :
    number? input = some (sign ++ value.repr.toList, after) := by
  have whole := wholePart?_repr value ends
  simp only [number?, signed, whole, Option.map_some, ends.fractionPart, ends.exponentPart, List.append_nil]

theorem repr_cons (value : Nat) : ∃ c rest, value.repr.toList = c :: rest ∧ isDigit c = true := by
  cases digits : value.repr.toList with
  | nil =>
    rw [Nat.toList_repr] at digits
    exact absurd digits Nat.toDigits_ne_nil
  | cons c rest => exact ⟨c, rest, rfl, repr_isDigit value c (digits ▸ List.mem_cons_self)⟩

theorem isDigit_ne {d : Char} (digit : isDigit c = true) (other : isDigit d = false) : c ≠ d := by
  rintro rfl
  rw [other] at digit
  cases digit

theorem signPart_repr (absolute : Nat) (after : List Char) :
    signPart (absolute.repr.toList ++ after) = ([], absolute.repr.toList ++ after) := by
  obtain ⟨c, rest, digits, digit⟩ := repr_cons absolute
  rw [digits]
  unfold signPart
  split
  · next same => exact absurd (List.cons.inj same).1 (isDigit_ne digit (by decide))
  · rfl

theorem toString_int (value : Int) : ∃ absolute : Nat,
    (value = absolute ∧ (toString value).toList = absolute.repr.toList) ∨
      (value = -absolute ∧ (toString value).toList = '-' :: absolute.repr.toList) := by
  change ∃ absolute : Nat, (_ ∧ value.repr.toList = _) ∨ (_ ∧ value.repr.toList = _)
  rw [Int.repr_eq_if]
  split
  · exact ⟨value.toNat, .inl ⟨by omega, rfl⟩⟩
  · refine ⟨(-value).toNat, .inr ⟨by omega, ?_⟩⟩
    rw [String.toList_append]
    rfl

theorem number?_int (value : Int) (ends : Ends after) :
    number? ((toString value).toList ++ after) = some ((toString value).toList, after) := by
  obtain ⟨absolute, ⟨_, unsigned⟩ | ⟨_, signed⟩⟩ := toString_int value
  · rw [unsigned]
    exact number?_unsigned absolute ends [] (signPart_repr absolute after)
  · rw [signed]
    exact number?_unsigned absolute ends ['-'] rfl

def unsignedValue (text : List Char) : ℚ :=
  let (fraction, rest) := fractionPart (text.dropWhile isDigit)
  let (exponent, _) := exponentPart rest
  let (mark, digits) := exponentSign exponent.tail
  let places := fraction.tail
  let mantissa := Nat.ofDigitChars 10 (text.takeWhile isDigit ++ places) 0
  let power : Int := Nat.ofDigitChars 10 digits 0
  mantissa * (10 : ℚ) ^ ((if mark = ['-'] then -power else power) - places.length)

/-- The number of a text that the reader has read, a float as its exact value. -/
def numberValue (text : List Char) : ℚ :=
  let (sign, unsigned) := signPart text
  if sign.isEmpty then unsignedValue unsigned else -unsignedValue unsigned

theorem unsignedValue_repr (absolute : Nat) : unsignedValue absolute.repr.toList = absolute := by
  have none : Ends [] := fun _ head => nomatch head
  obtain ⟨whole, rest⟩ := takeWhile_digits (repr_isDigit absolute) none
  rw [List.append_nil] at whole rest
  have value : Nat.ofDigitChars 10 absolute.repr.toList 0 = absolute := by
    rw [Nat.toList_repr, Nat.ofDigitChars_toDigits (by decide) (by decide)]
  unfold unsignedValue
  rw [whole, rest, none.fractionPart]
  dsimp only
  rw [none.exponentPart]
  have unscaled : exponentSign ([] : List Char).tail = ([], []) := rfl
  rw [unscaled, List.tail_nil, List.append_nil, value]
  simp

theorem numberValue_int (value : Int) : numberValue (toString value).toList = value := by
  obtain ⟨absolute, ⟨same, unsigned⟩ | ⟨same, signed⟩⟩ := toString_int value
  · have signless := signPart_repr absolute []
    rw [List.append_nil] at signless
    rw [unsigned, numberValue, signless, same, Int.cast_natCast]
    exact unsignedValue_repr absolute
  · rw [signed, numberValue, same, Int.cast_neg, Int.cast_natCast, ← unsignedValue_repr absolute]
    rfl

inductive Scalar : Json → Prop where
  | string (text : String) : Scalar (.string text)
  | int (value : Int) : Scalar (ofInt value)

theorem Scalar.canonical (scalar : Scalar value) : Canonical value := by
  cases scalar with
  | string text => exact canonical_string text
  | int value => exact canonical_ofInt value

theorem keyword?_none (unlike : ∀ entry ∈ keywords, entry.1.toList.isPrefixOf input = false) :
    keyword? input = none := by
  rw [keyword?, List.findSome?_eq_none_iff]
  intro entry listed
  dsimp only
  rw [if_neg (by rw [unlike entry listed]; decide)]

theorem isPrefixOf_digit {word : List Char} (digit : isDigit c = true)
    (unlike : word.head?.any isDigit = false) (full : word ≠ []) :
    word.isPrefixOf (c :: rest) = false := by
  cases word with
  | nil => exact absurd rfl full
  | cons letter tail =>
    have differs : (letter == c) = false := beq_eq_false_iff_ne.mpr (isDigit_ne digit unlike).symm
    rw [List.isPrefixOf_cons_cons, differs, Bool.false_and]

theorem keyword?_digit (digit : isDigit c = true) (rest : List Char) : keyword? (c :: rest) = none := by
  refine keyword?_none fun entry listed => ?_
  have letters : ∀ entry ∈ keywords,
      entry.1.toList.head?.any isDigit = false ∧ entry.1.toList ≠ [] := by
    decide
  exact isPrefixOf_digit digit (letters entry listed).1 (letters entry listed).2

theorem keyword?_negative (digit : isDigit c = true) (rest : List Char) :
    keyword? ('-' :: c :: rest) = none := by
  refine keyword?_none fun entry listed => ?_
  have letters : ∀ entry ∈ keywords, entry.1.toList ≠ [] ∧ (entry.1.toList.head? ≠ some '-' ∨
      entry.1.toList.head? = some '-' ∧ entry.1.toList.tail.head?.any isDigit = false ∧
        entry.1.toList.tail ≠ []) := by
    decide
  have word := letters entry listed
  revert word
  cases entry.1.toList with
  | nil => exact fun word => absurd rfl word.1
  | cons letter tail =>
    simp only [List.head?_cons, List.tail_cons, Option.some.injEq, ne_eq]
    rintro ⟨_, other | ⟨rfl, unlike, full⟩⟩
    · rw [List.isPrefixOf_cons_cons, beq_eq_false_iff_ne.mpr other, Bool.false_and]
    · rw [List.isPrefixOf_cons_cons, isPrefixOf_digit digit unlike full, Bool.and_false]

theorem decode_number {c : Char} {rest text : List Char} (stack : List Frame)
    (unquoted : c ≠ quote) (listless : c ≠ '[') (braceless : c.toNat ≠ 123)
    (wordless : keyword? (c :: rest) = none) (read : number? (c :: rest) = some (text, after)) :
    decode (fuel + 1) none (c :: rest) stack =
      decode fuel (some (.number (String.ofList text))) after stack := by
  simp only [decode]
  rw [if_neg (show c ≠ quoteMark from unquoted), if_neg listless, if_neg braceless, wordless, read]

theorem digit_unlike (digit : isDigit c = true) : c ≠ quote ∧ c ≠ '[' ∧ c.toNat ≠ 123 := by
  refine ⟨isDigit_ne digit (by decide), isDigit_ne digit (by decide), ?_⟩
  simp only [isDigit, Bool.and_eq_true, decide_eq_true_eq] at digit
  omega

theorem ascii_digits (all : ∀ c ∈ digits, isDigit c = true) : ascii digits = digits := by
  refine ascii_eq_self fun c listed => ?_
  have digit := all c listed
  simp only [isDigit, Bool.and_eq_true, decide_eq_true_eq] at digit
  omega

theorem decode_int (value : Int) (ends : Ends after) (stack : List Frame) :
    decode (fuel + 1) none (ascii (write (ofInt value)) ++ after) stack =
      decode fuel (some (ofInt value)) after stack := by
  have read := number?_int value ends
  have done : decode fuel (some (.number (String.ofList (toString value).toList))) after stack =
      decode fuel (some (ofInt value)) after stack := by
    rw [String.ofList_toList]
    rfl
  rw [← done]
  change decode (fuel + 1) none (ascii (toString value).toList ++ after) stack = _
  obtain ⟨absolute, ⟨_, unsigned⟩ | ⟨_, signed⟩⟩ := toString_int value
  · obtain ⟨c, rest, digits, digit⟩ := repr_cons absolute
    rw [unsigned] at read ⊢
    rw [ascii_digits (repr_isDigit absolute)]
    rw [digits] at read ⊢
    obtain ⟨unquoted, listless, braceless⟩ := digit_unlike digit
    exact decode_number stack unquoted listless braceless (keyword?_digit digit _) read
  · obtain ⟨c, rest, digits, digit⟩ := repr_cons absolute
    rw [signed] at read ⊢
    rw [ascii_cons (by decide), ascii_digits (repr_isDigit absolute)]
    rw [digits] at read ⊢
    exact decode_number stack (by decide) (by decide) (by decide)
      (keyword?_negative digit _) read

theorem decode_writeString (text : String) (after : List Char) (stack : List Frame) :
    decode (fuel + 1) none (ascii (writeString text) ++ after) stack =
      decode fuel (some (.string text)) after stack := by
  rw [ascii_writeString]
  simp only [decode]
  rw [if_pos (show quote = quoteMark from rfl), stringBody_written]
  simp only [String.ofList_toList]

theorem decode_scalar (scalar : Scalar value) (ends : Ends after) (stack : List Frame) :
    decode (fuel + 1) none (ascii (write value) ++ after) stack =
      decode fuel (some value) after stack := by
  cases scalar with
  | int value => exact decode_int value ends stack
  | string text => exact decode_writeString text after stack

theorem skipSpace_cons (printed : 32 < c.toNat) (rest : List Char) : skipSpace (c :: rest) = c :: rest := by
  have blankless : c ≠ ' ' := by
    rintro rfl
    exact absurd printed (by decide)
  have visible : (decide (c = ' ') || decide (c.toNat = 9) || decide (c.toNat = 10) ||
      decide (c.toNat = 13)) = false := by
    simp only [Bool.or_eq_false_iff, decide_eq_false_iff_not]
    exact ⟨⟨⟨blankless, by omega⟩, by omega⟩, by omega⟩
  rw [skipSpace, List.dropWhile_cons, if_neg (by rw [visible]; decide)]

theorem skipSpace_writeString (text : String) (after : List Char) :
    skipSpace (ascii (writeString text) ++ after) = ascii (writeString text) ++ after := by
  rw [ascii_writeString]
  exact skipSpace_cons (by decide) _

theorem isDigit_printed (digit : isDigit c = true) : 32 < c.toNat := by
  simp only [isDigit, Bool.and_eq_true, decide_eq_true_eq] at digit
  omega

theorem skipSpace_scalar (scalar : Scalar value) (after : List Char) :
    skipSpace (ascii (write value) ++ after) = ascii (write value) ++ after := by
  cases scalar with
  | string text => exact skipSpace_writeString text after
  | int value =>
    change skipSpace (ascii (toString value).toList ++ after) = ascii (toString value).toList ++ after
    obtain ⟨absolute, ⟨_, unsigned⟩ | ⟨_, signed⟩⟩ := toString_int value
    · obtain ⟨c, rest, digits, digit⟩ := repr_cons absolute
      rw [unsigned, ascii_digits (repr_isDigit absolute), digits]
      exact skipSpace_cons (isDigit_printed digit) _
    · rw [signed, ascii_cons (by decide)]
      exact skipSpace_cons (by decide) _

theorem key?_written (scalar : Scalar value) (key : String) (after : List Char) :
    key? (ascii (writeString key) ++ ':' :: (ascii (write value) ++ after)) =
      some (key, ascii (write value) ++ after) := by
  rw [ascii_writeString, key?, if_neg (fun different => different rfl), stringBody_written]
  dsimp only
  rw [skipSpace_cons (by decide)]
  simp only [String.ofList_toList, skipSpace_scalar scalar]

theorem decode_closeBrace (rest : List Char) (outer : List Frame) :
    decode (fuel + 1) (some value) (closeBrace :: rest) (.object members key :: outer) =
      decode fuel (some (.object ((key, value) :: members).reverse)) rest outer := by
  rw [decode, skipSpace_cons (by decide)]
  dsimp only
  rw [if_pos (by decide)]

theorem decode_comma {next : String} (outer : List Frame)
    (named : key? (skipSpace rest) = some (next, start)) :
    decode (fuel + 1) (some value) (',' :: rest) (.object members key :: outer) =
      decode fuel none start (.object ((key, value) :: members) next :: outer) := by
  rw [decode, skipSpace_cons (by decide)]
  dsimp only
  rw [if_neg (by decide), if_pos rfl, named]

theorem decode_openBrace (stack : List Frame) (begun : skipSpace rest = rest)
    (quoted : rest.head? = some quote) (named : key? rest = some (key, start)) :
    decode (fuel + 1) none (openBrace :: rest) stack =
      decode fuel none start (.object [] key :: stack) := by
  cases rest with
  | nil => cases quoted
  | cons c rest =>
    cases quoted
    simp only [decode]
    rw [if_neg (by decide), if_neg (by decide), if_pos (by decide), begun]
    dsimp only
    rw [if_neg (by decide), named]

theorem ascii_member (key : String) (value : Json) (rest : List (String × Json)) :
    ascii (writeString key ++ ':' :: write value ++ writeMoreMembers rest) =
      ascii (writeString key) ++ ':' :: (ascii (write value) ++ ascii (writeMoreMembers rest)) := by
  rw [ascii_append, ascii_append, ascii_cons (by decide), List.append_assoc, List.cons_append]

theorem ascii_moreMembers (key : String) (value : Json) (rest : List (String × Json)) :
    ascii (writeMoreMembers ((key, value) :: rest)) =
      ',' :: (ascii (writeString key) ++
        ':' :: (ascii (write value) ++ ascii (writeMoreMembers rest))) := by
  rw [← ascii_member, writeMoreMembers, List.cons_append, List.cons_append, ascii_cons (by decide)]

theorem ends_asciiMembers (members : List (String × Json)) (after : List Char) :
    Ends (ascii (writeMoreMembers members) ++ closeBrace :: after) := by
  cases members with
  | nil =>
    intro c head
    cases head
    decide
  | cons member rest =>
    intro c head
    rw [ascii_moreMembers] at head
    cases head
    decide

theorem decode_members {rest : List (String × Json)} (scalar : Scalar value)
    (scalars : ∀ member ∈ rest, Scalar member.2) (seen : List (String × Json)) (after : List Char)
    (outer : List Frame) :
    decode (fuel + 2 * (rest.length + 1)) none
        (ascii (write value) ++ (ascii (writeMoreMembers rest) ++ closeBrace :: after))
        (.object seen key :: outer) =
      decode fuel (some (.object (seen.reverse ++ (key, value) :: rest))) after outer := by
  induction rest generalizing key value seen with
  | nil =>
    rw [List.length_nil, show fuel + 2 * (0 + 1) = fuel + 1 + 1 by omega,
      decode_scalar scalar (ends_asciiMembers [] after), writeMoreMembers, ascii_nil,
      List.nil_append, decode_closeBrace, List.reverse_cons]
  | cons member rest ih =>
    obtain ⟨next, other⟩ := member
    have later : Scalar other := scalars (next, other) List.mem_cons_self
    rw [List.length_cons,
      show fuel + 2 * (rest.length + 1 + 1) = fuel + 2 * (rest.length + 1) + 1 + 1 by omega,
      decode_scalar scalar (ends_asciiMembers _ after), ascii_moreMembers, List.cons_append,
      List.append_assoc, List.cons_append, List.append_assoc]
    rw [decode_comma outer (by rw [skipSpace_writeString]; exact key?_written later next _),
      ih later fun member listed => scalars member (List.mem_cons_of_mem _ listed),
      List.reverse_cons, List.append_assoc]
    rfl

/-- What is written of an object of texts and integers is read back, with its members in the
order of their keys. -/
theorem loads_dumpsAscii (scalars : ∀ member ∈ members, Scalar member.2) :
    loads (dumpsAscii (.object members)) = some (.object (sortMembers members)) := by
  have sorted : sortKeys (.object members) = .object (sortMembers members) := by
    rw [sortKeys, sortValues_eq fun member listed => (scalars member listed).canonical]
  have kept : ∀ member ∈ sortMembers members, Scalar member.2 := fun member listed =>
    scalars member ((sortMembers_perm members).mem_iff.mp listed)
  rw [dumpsAscii, sorted]
  cases written : sortMembers members with
  | nil => rfl
  | cons member rest =>
    obtain ⟨key, value⟩ := member
    rw [written] at kept
    have scalar : Scalar value := kept (key, value) List.mem_cons_self
    have body : ascii (write (.object ((key, value) :: rest))) =
        openBrace :: (ascii (writeString key) ++ ':' :: (ascii (write value) ++
          (ascii (writeMoreMembers rest) ++ [closeBrace]))) := by
      rw [write, writeMembers, List.cons_append, ascii_cons (by decide), ascii_append, ascii_member]
      simp only [List.append_assoc, List.cons_append]
      rfl
    have enough : (String.ofList (ascii (write (.object ((key, value) :: rest))))).toList.length <
        (ascii (write (.object ((key, value) :: rest)))).length + 1 +
          2 * (rest.length + 1) + 1 := by
      rw [String.toList_ofList]
      omega
    have quoted : (ascii (writeString key) ++ ':' :: (ascii (write value) ++
        (ascii (writeMoreMembers rest) ++ [closeBrace]))).head? = some quote := by
      rw [ascii_writeString]
      rfl
    rw [loads_eq_of_fuel enough, String.toList_ofList, body, skipSpace_cons (by decide),
      decode_openBrace [] (skipSpace_writeString key _) quoted (key?_written scalar key _),
      decode_members scalar fun member listed => kept member (List.mem_cons_of_mem _ listed)]
    rfl

def writeTexts : List String → List Char
  | [] => []
  | [item] => ascii (writeString item)
  | item :: rest => ascii (writeString item) ++ ',' :: ' ' :: writeTexts rest

/-- `json.dumps(items)` with its default separators -/
def dumpsTexts (items : List String) : String := String.ofList ('[' :: (writeTexts items ++ [']']))

example : dumpsTexts ["manager", "executor"] = "[\"manager\", \"executor\"]" := by decide

theorem writeTexts_cons_cons (item next : String) (rest : List String) :
    writeTexts (item :: next :: rest) =
      ascii (writeString item) ++ ',' :: ' ' :: writeTexts (next :: rest) := rfl

theorem writeTexts_head (item : String) (rest : List String) :
    ∃ tail, writeTexts (item :: rest) = quote :: tail := by
  have quoted := fun after => ascii_writeString item after
  cases rest with
  | nil => exact ⟨_, (List.append_nil _).symm.trans (quoted [])⟩
  | cons next rest => exact ⟨_, quoted _⟩

theorem skipSpace_writeTexts (item : String) (rest : List String) (after : List Char) :
    skipSpace (writeTexts (item :: rest) ++ after) = writeTexts (item :: rest) ++ after := by
  obtain ⟨tail, written⟩ := writeTexts_head item rest
  rw [written]
  exact skipSpace_cons (by decide) _

theorem skipSpace_blank (rest : List Char) : skipSpace (' ' :: rest) = skipSpace rest := by
  rw [skipSpace, List.dropWhile_cons, if_pos (by decide)]
  rfl

theorem decode_separator (rest : List Char) (outer : List Frame) :
    decode (fuel + 1) (some value) (',' :: rest) (.array items :: outer) =
      decode fuel none (skipSpace rest) (.array (value :: items) :: outer) := by
  rw [decode, skipSpace_cons (by decide)]
  rfl

theorem decode_close (rest : List Char) (outer : List Frame) :
    decode (fuel + 1) (some value) (']' :: rest) (.array items :: outer) =
      decode fuel (some (.array (value :: items).reverse)) rest outer := by
  rw [decode, skipSpace_cons (by decide)]
  rfl

theorem decode_open {items : List Char} (begun : skipSpace items = quote :: rest)
    (stack : List Frame) :
    decode (fuel + 1) none ('[' :: items) stack =
      decode fuel none (quote :: rest) (.array [] :: stack) := by
  simp only [decode]
  rw [if_neg (by decide), if_pos trivial, begun]
  rfl

theorem decode_writeTexts (item : String) (rest : List String) (seen : List Json)
    (after : List Char) (outer : List Frame) :
    decode (fuel + 2 * (rest.length + 1)) none (writeTexts (item :: rest) ++ ']' :: after)
        (.array seen :: outer) =
      decode fuel (some (.array (seen.reverse ++ (item :: rest).map .string))) after outer := by
  induction rest generalizing item seen with
  | nil =>
    rw [writeTexts, List.length_nil, show fuel + 2 * (0 + 1) = fuel + 1 + 1 by omega,
      decode_writeString, decode_close, List.reverse_cons]
    rfl
  | cons next rest ih =>
    rw [writeTexts_cons_cons, List.append_assoc, List.length_cons,
      show fuel + 2 * (rest.length + 1 + 1) = fuel + 2 * (rest.length + 1) + 1 + 1 by omega,
      decode_writeString, List.cons_append, decode_separator, List.cons_append,
      skipSpace_blank, skipSpace_writeTexts, ih, List.reverse_cons, List.append_assoc]
    rfl

theorem loads_dumpsTexts (items : List String) :
    loads (dumpsTexts items) = some (.array (items.map .string)) := by
  cases items with
  | nil => rfl
  | cons item rest =>
    have enough : (dumpsTexts (item :: rest)).toList.length <
        (dumpsTexts (item :: rest)).toList.length + 1 + 2 * (rest.length + 1) + 1 := by
      omega
    have opened : skipSpace ('[' :: (writeTexts (item :: rest) ++ [']'])) =
        '[' :: (writeTexts (item :: rest) ++ [']']) := skipSpace_cons (by decide) _
    obtain ⟨tail, written⟩ := writeTexts_head item rest
    have begun : skipSpace (writeTexts (item :: rest) ++ [']']) = quote :: (tail ++ [']']) := by
      rw [skipSpace_writeTexts, written, List.cons_append]
    have same : quote :: (tail ++ [']']) = writeTexts (item :: rest) ++ [']'] := by
      rw [written, List.cons_append]
    rw [loads_eq_of_fuel enough, dumpsTexts, String.toList_ofList, opened,
      decode_open begun, same, decode_writeTexts]
    rfl

theorem stringItems?_dumpsTexts (items : List String) :
    (loads (dumpsTexts items)).bind stringItems? = some items := by
  rw [loads_dumpsTexts, Option.bind_some, stringItems?, List.filterMap_map]
  exact congrArg some (List.filterMap_some)

end InfrasafeBot.Library.Json
