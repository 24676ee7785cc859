import InfrasafeBot.RequestNumbers.Numbering

/-! The grammar of the numbers, as `validate_request_number_format` and `parse_request_number`
read it. In a pattern on text `\d` is any decimal digit of Unicode, and `$` also stands before a
newline at the end. -/

set_option autoImplicit false

namespace InfrasafeBot.RequestNumbers

open RequestWorkflow

/-- The decimal values of letters in some version of Unicode. -/
structure UnicodeDecimals where
  value : Char → Option Nat
  ascii : ∀ digit < 10, value (Nat.digitChar digit) = some digit
  hyphen : value '-' = none
  newline : value '\n' = none

theorem exists_digitChar {letter : Char} (digit : letter.isDigit = true) :
    ∃ value < 10, letter = Nat.digitChar value := by
  obtain ⟨low, high⟩ := Bool.and_eq_true_iff.mp digit
  have low' : 48 ≤ letter.toNat := of_decide_eq_true low
  have high' : letter.toNat ≤ 57 := of_decide_eq_true high
  refine ⟨letter.toNat - 48, by omega, Char.toNat_inj.mp ?_⟩
  rw [Nat.toNat_digitChar_of_lt_ten (by omega)]
  omega

theorem toDigits_ofDigitChars {letters : List Char} (digits : ∀ letter ∈ letters,
    letter.isDigit = true) (filled : letters ≠ []) (leads : letters.head? ≠ some '0') :
    Nat.toDigits 10 (Nat.ofDigitChars 10 letters 0) = letters := by
  induction letters using List.reverseRecOn with
  | nil => exact absurd rfl filled
  | append_singleton front last ih =>
    obtain ⟨value, small, rfl⟩ := exists_digitChar (digits last (by simp))
    rw [Nat.ofDigitChars_append, Nat.ofDigitChars_cons_digitChar_of_lt_ten small, Nat.ofDigitChars_nil]
    cases front with
    | nil => rw [Nat.ofDigitChars_nil, Nat.mul_zero, Nat.zero_add, List.nil_append,
        Nat.toDigits_of_lt_base small]
    | cons first rest =>
      have same := ih (fun letter listed => digits letter (List.mem_append_left _ listed))
        (by simp) (by simpa using leads)
      have positive : 0 < Nat.ofDigitChars 10 (first :: rest) 0 := by
        refine Nat.pos_of_ne_zero fun zero => ?_
        rw [zero, Nat.toDigits_zero] at same
        exact leads (by simp [← (List.cons.inj same).1])
      rw [← Nat.toDigits_append_toDigits (by decide) positive small, same, Nat.toDigits_of_lt_base small]

theorem leftpad_ofDigitChars {letters : List Char} (digits : ∀ letter ∈ letters,
    letter.isDigit = true) (positive : 0 < Nat.ofDigitChars 10 letters 0) :
    (Nat.toDigits 10 (Nat.ofDigitChars 10 letters 0)).leftpad letters.length '0' = letters := by
  induction letters with
  | nil => simp at positive
  | cons first rest ih =>
    by_cases zero : first = '0'
    · subst zero
      have same : Nat.ofDigitChars 10 ('0' :: rest) 0 = Nat.ofDigitChars 10 rest 0 := by
        rw [Nat.ofDigitChars_cons]
        rfl
      rw [same] at positive ⊢
      have padded := ih (fun letter listed => digits letter (List.mem_cons_of_mem _ listed)) positive
      have short : (Nat.toDigits 10 (Nat.ofDigitChars 10 rest 0)).length ≤ rest.length := by
        have lengths := congrArg List.length padded
        simp only [List.leftpad, List.length_append, List.length_replicate] at lengths
        omega
      rw [List.leftpad, List.length_cons, Nat.succ_sub short, List.replicate_succ, List.cons_append]
      exact congrArg _ padded
    · rw [toDigits_ofDigitChars digits (by simp) (by simpa using zero)]
      simp [List.leftpad]

def daysInMonth (year month : Nat) : Nat :=
  if month = 2 then
    if year % 4 = 0 ∧ (year % 100 ≠ 0 ∨ year % 400 = 0) then 29 else 28
  else if month ∈ [4, 6, 9, 11] then 30 else 31

def BusinessDate.valid (date : BusinessDate) : Bool :=
  1 ≤ date.month && date.month ≤ 12 && 1 ≤ date.day && date.day ≤ daysInMonth date.year date.month

def maxStrDigits : Nat := 4300

/-- `_format`, which raises a `ValueError` on a number with too many digits. -/
def format (date : BusinessDate) (seq : Nat) : Option RequestNumber :=
  if (Nat.toDigits 10 seq).length ≤ maxStrDigits then some (formatNumber date.dayPrefix seq)
  else none

structure ParsedNumber where
  date : BusinessDate
  sequence : Nat
  datePrefix : List Char
  sequenceStr : List Char

section

variable (decimals : UnicodeDecimals)

def isDecimal (letter : Char) : Bool := (decimals.value letter).isSome

/-- The pattern `^\d{6}-\d{3,}$`. -/
def matchesPattern (letters : List Char) : Bool :=
  let rest := letters.drop 7
  let sequence := rest.takeWhile (isDecimal decimals)
  (letters.take 6).length = 6 && (letters.take 6).all (isDecimal decimals) &&
    letters[6]? = some '-' && 3 ≤ sequence.length &&
    (rest.drop sequence.length = [] || rest.drop sequence.length = ['\n'])

def int (letters : List Char) : Option Nat :=
  let digits := if letters.getLast? = some '\n' then letters.dropLast else letters
  if digits.isEmpty || maxStrDigits < digits.length then none
  else
    digits.foldl (fun number letter =>
      number.bind fun number => (decimals.value letter).map (10 * number + ·)) (some 0)

def dateOf (letters : List Char) : Option BusinessDate := do
  let year ← int decimals (letters.take 2)
  let month ← int decimals ((letters.drop 2).take 2)
  let day ← int decimals ((letters.drop 4).take 2)
  let date : BusinessDate := ⟨2000 + year, month, day⟩
  if date.valid then some date else none

def validateRequestNumberFormat (requestNumber : RequestNumber) : Bool :=
  matchesPattern decimals requestNumber.toList && (dateOf decimals requestNumber.toList).isSome

def parseRequestNumber (requestNumber : RequestNumber) : Except String ParsedNumber :=
  if !validateRequestNumberFormat decimals requestNumber then .error "Invalid format"
  else
    match requestNumber.toList.splitOn '-' with
    | [datePart, sequencePart] =>
      match dateOf decimals datePart, int decimals sequencePart with
      | some date, some sequence => .ok ⟨date, sequence, datePart, sequencePart⟩
      | _, _ => .error "Parse error"
    | _ => .error "Parse error"

/-- Letters that are taken for the number of a day, read from left to right. -/
structure Written (letters day seq ending : List Char) (date : BusinessDate) : Prop where
  shape : letters = day ++ '-' :: (seq ++ ending)
  six : day.length = 6
  digits : ∀ letter ∈ day ++ seq, isDecimal decimals letter = true
  three : 3 ≤ seq.length
  ended : ending = [] ∨ ending = ['\n']
  dated : dateOf decimals day = some date

theorem dateOf_append {day : List Char} (six : day.length = 6) (rest : List Char) :
    dateOf decimals (day ++ rest) = dateOf decimals day := by
  match day, six with
  | [_, _, _, _, _, _], _ => rfl

variable {day seq ending : List Char} {date : BusinessDate}

section

variable {decimals} {letters : List Char}

theorem matchesPattern_iff : matchesPattern decimals letters = true ↔
    ∃ day seq ending, letters = day ++ '-' :: (seq ++ ending) ∧ day.length = 6 ∧
      (∀ letter ∈ day ++ seq, isDecimal decimals letter = true) ∧ 3 ≤ seq.length ∧
      (ending = [] ∨ ending = ['\n']) := by
  simp only [matchesPattern, Bool.and_eq_true, Bool.or_eq_true, decide_eq_true_eq, List.all_eq_true,
    and_assoc]
  constructor
  · rintro ⟨six, dayDigits, hyphen, three, ended⟩
    obtain ⟨inside, hyphen⟩ := List.getElem?_eq_some_iff.mp hyphen
    have taken := List.prefix_iff_eq_take.mp
      (List.takeWhile_prefix (isDecimal decimals) (l := letters.drop 7))
    refine ⟨_, (letters.drop 7).takeWhile (isDecimal decimals), _, ?_, six, ?_, three, ended⟩
    · calc letters = letters.take 6 ++ letters.drop 6 := (List.take_append_drop 6 letters).symm
        _ = letters.take 6 ++ '-' :: letters.drop 7 := by
          rw [List.drop_eq_getElem_cons inside, hyphen]
        _ = _ := by
          conv_lhs => rw [← List.take_append_drop
            ((letters.drop 7).takeWhile (isDecimal decimals)).length (letters.drop 7), ← taken]
    · intro letter listed
      rcases List.mem_append.mp listed with listed | listed
      · exact dayDigits letter listed
      · exact List.all_eq_true.mp List.all_takeWhile letter listed
  · rintro ⟨day, seq, ending, rfl, six, digits, three, ended⟩
    have apart : (day ++ '-' :: (seq ++ ending)).drop 7 = seq ++ ending := by
      rw [← List.singleton_append, ← List.append_assoc]
      exact List.drop_left' (by simp [six])
    have read : (seq ++ ending).takeWhile (isDecimal decimals) = seq := by
      rw [List.takeWhile_append_of_pos fun letter listed => digits letter (by simp [listed])]
      rcases ended with rfl | rfl
      · simp
      · simp [isDecimal, decimals.newline]
    rw [apart, read, List.take_left' six, List.drop_left]
    refine ⟨six, fun letter listed => digits letter (by simp [listed]), ?_, three, ended⟩
    rw [List.getElem?_append_right (by omega), six]
    rfl

theorem validateRequestNumberFormat_iff {number : RequestNumber} :
    validateRequestNumberFormat decimals number = true ↔
      ∃ day seq ending date, Written decimals number.toList day seq ending date := by
  rw [validateRequestNumberFormat, Bool.and_eq_true, matchesPattern_iff, Option.isSome_iff_exists]
  constructor
  · rintro ⟨⟨day, seq, ending, shape, six, digits, three, ended⟩, date, dated⟩
    rw [shape, dateOf_append decimals six] at dated
    exact ⟨day, seq, ending, date, shape, six, digits, three, ended, dated⟩
  · rintro ⟨day, seq, ending, date, written⟩
    refine ⟨⟨day, seq, ending, written.shape, written.six, written.digits, written.three,
      written.ended⟩, date, ?_⟩
    rw [written.shape, dateOf_append decimals written.six]
    exact written.dated

theorem value_of_isDigit {letter : Char} (digit : letter.isDigit = true) :
    decimals.value letter = some (letter.toNat - '0'.toNat) := by
  obtain ⟨value, small, rfl⟩ := exists_digitChar digit
  rw [decimals.ascii value small]
  exact congrArg some (Nat.toNat_digitChar_sub_48_of_lt_ten small).symm

theorem isDecimal_of_isDigit {letter : Char} (digit : letter.isDigit = true) :
    isDecimal decimals letter = true := by
  rw [isDecimal, value_of_isDigit digit]
  rfl

theorem foldl_of_isDigit (digits : ∀ letter ∈ seq, letter.isDigit = true) (start : Nat) :
    seq.foldl (fun number letter =>
      number.bind fun number => (decimals.value letter).map (10 * number + ·)) (some start) =
      some (Nat.ofDigitChars 10 seq start) := by
  induction seq generalizing start with
  | nil => rfl
  | cons first rest ih =>
    rw [List.foldl_cons, Option.bind_some, value_of_isDigit (digits first List.mem_cons_self),
      Option.map_some, Nat.ofDigitChars_cons]
    exact ih (fun letter listed => digits letter (List.mem_cons_of_mem _ listed)) _

theorem int_of_isDigit (digits : ∀ letter ∈ seq, letter.isDigit = true) (filled : seq ≠ [])
    (short : seq.length ≤ maxStrDigits) : int decimals seq = some (Nat.ofDigitChars 10 seq 0) := by
  have last : seq.getLast? ≠ some '\n' := fun ends =>
    absurd (digits _ (List.mem_of_getLast? ends)) (by decide)
  simp only [int, if_neg last, foldl_of_isDigit digits]
  rw [if_neg (by simpa [filled] using short)]

theorem twoDigits_add_mod (hundreds value : Nat) :
    twoDigits (100 * hundreds + value % 100) = twoDigits value := by
  rw [twoDigits, twoDigits, show (100 * hundreds + value % 100) / 10 % 10 = value / 10 % 10 by omega,
    show (100 * hundreds + value % 100) % 10 = value % 10 by omega]

theorem exists_twoDigits {tens ones : Char} (first : tens.isDigit = true)
    (second : ones.isDigit = true) : ∃ value, [tens, ones] = twoDigits value := by
  obtain ⟨ten, tenSmall, rfl⟩ := exists_digitChar first
  obtain ⟨one, oneSmall, rfl⟩ := exists_digitChar second
  refine ⟨10 * ten + one, ?_⟩
  rw [twoDigits, show (10 * ten + one) / 10 % 10 = ten by omega, show (10 * ten + one) % 10 = one by omega]

theorem isDigit_of_mem_twoDigits {value : Nat} {letter : Char} (listed : letter ∈ twoDigits value) :
    letter.isDigit = true := by
  rcases List.mem_pair.mp listed with rfl | rfl <;>
    exact Nat.isDigit_digitChar.trans (decide_eq_true (Nat.mod_lt _ (by decide)))

theorem int_twoDigits (value : Nat) : int decimals (twoDigits value) = some (value % 100) := by
  have short : 2 ≤ maxStrDigits := by decide
  rw [int_of_isDigit (fun _ => isDigit_of_mem_twoDigits) (by simp [twoDigits]) short, twoDigits,
    Nat.ofDigitChars_cons_digitChar_of_lt_ten (Nat.mod_lt _ (by decide)),
    Nat.ofDigitChars_cons_digitChar_of_lt_ten (Nat.mod_lt _ (by decide)), Nat.ofDigitChars_nil]
  congr 1
  omega

theorem dateOf_twoDigits (year month day : Nat) :
    dateOf decimals (twoDigits year ++ twoDigits month ++ twoDigits day) =
      if (BusinessDate.mk (2000 + year % 100) (month % 100) (day % 100)).valid then
        some ⟨2000 + year % 100, month % 100, day % 100⟩
      else none := by
  change ((int decimals (twoDigits year)).bind fun year => (int decimals (twoDigits month)).bind
    fun month => (int decimals (twoDigits day)).bind fun day =>
      if (BusinessDate.mk (2000 + year) month day).valid then
        some (BusinessDate.mk (2000 + year) month day) else none) = _
  simp only [int_twoDigits, Option.bind_some]

/-- A date that `%y` tells. -/
structure BusinessDate.Named (date : BusinessDate) : Prop where
  valid : date.valid = true
  first : 2000 ≤ date.year
  last : date.year ≤ 2099

theorem dateOf_dayPrefix (named : date.Named) : dateOf decimals date.dayPrefix.text = some date := by
  obtain ⟨valid, first, last⟩ := named
  have inside := valid
  simp only [BusinessDate.valid, Bool.and_eq_true, decide_eq_true_eq] at inside
  have short : daysInMonth date.year date.month ≤ 31 := by
    unfold daysInMonth
    split_ifs <;> decide
  have same : (⟨2000 + date.year % 100, date.month % 100, date.day % 100⟩ : BusinessDate) = date := by
    rw [BusinessDate.mk.injEq]
    omega
  rw [BusinessDate.dayPrefix, dateOf_twoDigits, same, if_pos valid]

theorem dayPrefix_of_dateOf (six : day.length = 6) (digits : ∀ letter ∈ day, letter.isDigit = true)
    (dated : dateOf decimals day = some date) : date.dayPrefix.text = day ∧ date.Named := by
  match day, six with
  | [_, _, _, _, _, _], _ =>
    obtain ⟨year, years⟩ := exists_twoDigits (digits _ (.head _)) (digits _ (.tail _ (.head _)))
    obtain ⟨month, months⟩ := exists_twoDigits (digits _ (.tail _ (.tail _ (.head _))))
      (digits _ (.tail _ (.tail _ (.tail _ (.head _)))))
    obtain ⟨day, days⟩ := exists_twoDigits
      (digits _ (.tail _ (.tail _ (.tail _ (.tail _ (.head _))))))
      (digits _ (.tail _ (.tail _ (.tail _ (.tail _ (.tail _ (.head _)))))))
    have text := congrArg₂ List.append (congrArg₂ List.append years months) days
    change _ = twoDigits year ++ twoDigits month ++ twoDigits day at text
    simp only [List.append_eq, List.cons_append, List.nil_append] at text
    rw [text, dateOf_twoDigits] at dated
    rw [text]
    split at dated
    · next valid =>
      cases dated
      refine ⟨?_, valid, Nat.le_add_right _ _, by dsimp only; omega⟩
      have centuries := twoDigits_add_mod 20 year
      have lone (value : Nat) : twoDigits (value % 100) = twoDigits value := by
        simpa using twoDigits_add_mod 0 value
      change twoDigits (2000 + year % 100) ++ twoDigits (month % 100) ++ twoDigits (day % 100) = _
      rw [centuries, lone, lone]
    · cases dated

theorem head?_toDigits {value : Nat} (positive : 0 < value) : (Nat.toDigits 10 value).head? ≠ some '0' := by
  induction value using Nat.strongRecOn with
  | ind value ih =>
    by_cases small : value < 10
    · rw [Nat.toDigits_of_lt_base small]
      intro zero
      have own := congrArg Char.toNat (Option.some.inj zero)
      rw [Nat.toNat_digitChar_of_lt_ten small] at own
      have code : '0'.toNat = 48 := rfl
      omega
    · rw [Nat.toDigits_of_base_le (by decide) (by omega), List.head?_append_of_ne_nil _ Nat.toDigits_ne_nil]
      exact ih (value / 10) (by omega) (by omega)

theorem isDigit_of_mem_dayPrefix {letter : Char} (listed : letter ∈ date.dayPrefix.text) :
    letter.isDigit = true := by
  rcases List.mem_append.mp listed with listed | listed
  · rcases List.mem_append.mp listed with listed | listed <;> exact isDigit_of_mem_twoDigits listed
  · exact isDigit_of_mem_twoDigits listed

end

/-- What `_format` does not write: a newline, another digit than those of ASCII, the number 0, a
zero in front of three digits, and more digits than are converted. -/
def Strays (day seq ending : List Char) : Prop :=
  ending ≠ [] ∨ (∃ letter ∈ day ++ seq, letter.isDigit = false) ∨ int decimals seq = some 0 ∨
    (3 < seq.length ∧ seq.head? = some '0') ∨ maxStrDigits < seq.length

def StraysAt (number : RequestNumber) : Prop :=
  ∃ day seq ending date, Written decimals number.toList day seq ending date ∧ Strays decimals day seq ending

structure Denotes (number : RequestNumber) (date : BusinessDate) (sequence : Nat) : Prop where
  named : date.Named
  positive : 1 ≤ sequence
  formatted : format date sequence = some number

/-- Exactly the formatted numbers are accepted, and parsed to what they were formatted from. -/
structure GrammarAt (number : RequestNumber) : Prop where
  accepts : validateRequestNumberFormat decimals number = true ↔
    ∃ date sequence, Denotes number date sequence
  parses : validateRequestNumberFormat decimals number = true → ∃ date sequence datePart sequencePart,
    parseRequestNumber decimals number = .ok ⟨date, sequence, datePart, sequencePart⟩ ∧
      Denotes number date sequence

/-- Two parsed numbers of one date and one sequence are the same. -/
def Apart (number other : RequestNumber) : Prop :=
  ∀ parsed reread, parseRequestNumber decimals number = .ok parsed →
    parseRequestNumber decimals other = .ok reread → parsed.date = reread.date →
    parsed.sequence = reread.sequence → number = other

section

variable {decimals} {number : RequestNumber}

theorem written_of_denotes (decimals : UnicodeDecimals) {sequence : Nat} (denotes : Denotes number date sequence) :
    ∃ seq, Written decimals number.toList date.dayPrefix.text seq [] date ∧
      ¬ Strays decimals date.dayPrefix.text seq [] := by
  obtain ⟨named, positive, formatted⟩ := denotes
  unfold format at formatted
  split at formatted
  case isFalse => cases formatted
  next short =>
    cases formatted
    let seq := (Nat.toDigits 10 sequence).leftpad 3 '0'
    have value : Nat.ofDigitChars 10 seq 0 = sequence := by
      rw [show seq = suffix (formatNumber date.dayPrefix sequence) from (suffix_formatNumber _ _).symm]
      exact seqOf_formatNumber _ _
    have digits (letter : Char) (listed : letter ∈ seq) : letter.isDigit = true := by
      rcases List.mem_append.mp listed with padded | own
      · rw [List.eq_of_mem_replicate padded]
        rfl
      · exact Nat.isDigit_of_mem_toDigits (by decide) (by decide) own
    have three : 3 ≤ seq.length := by simp [seq, List.leftpad]; omega
    have filled : seq ≠ [] := List.ne_nil_of_length_pos (by omega)
    have fits : seq.length ≤ maxStrDigits := by
      simp only [seq, List.leftpad, List.length_append, List.length_replicate]
      have limit : maxStrDigits = 4300 := rfl
      omega
    have all : ∀ letter ∈ date.dayPrefix.text ++ seq, letter.isDigit = true := fun letter listed =>
      (List.mem_append.mp listed).elim isDigit_of_mem_dayPrefix (digits letter)
    refine ⟨seq, ⟨by simp [seq], date.dayPrefix.six, fun letter listed =>
      isDecimal_of_isDigit (all letter listed), three, .inl rfl, dateOf_dayPrefix named⟩, ?_⟩
    rintro (ended | ⟨letter, listed, other⟩ | zero | ⟨long, leads⟩ | long)
    · exact ended rfl
    · rw [all letter listed] at other
      cases other
    · rw [int_of_isDigit digits filled fits, value] at zero
      exact absurd (Option.some.inj zero) (by omega)
    · have whole : seq = Nat.toDigits 10 sequence := by
        have size : 3 ≤ (Nat.toDigits 10 sequence).length := by
          simp only [seq, List.leftpad, List.length_append, List.length_replicate] at long
          omega
        simp [seq, List.leftpad, Nat.sub_eq_zero_of_le size]
      rw [whole] at leads
      exact head?_toDigits positive leads
    · omega

theorem denotes_of_written (written : Written decimals number.toList day seq ending date)
    (plain : ¬ Strays decimals day seq ending) :
    parseRequestNumber decimals number = .ok ⟨date, Nat.ofDigitChars 10 seq 0, day, seq⟩ ∧
      Denotes number date (Nat.ofDigitChars 10 seq 0) := by
  have accepted := validateRequestNumberFormat_iff.mpr ⟨_, _, _, _, written⟩
  obtain ⟨shape, six, decimal, three, ended, dated⟩ := written
  simp only [Strays, not_or, not_not, not_exists, not_and, Bool.not_eq_false, not_lt] at plain
  obtain ⟨rfl, digits, nonzero, leads, short⟩ := plain
  have seqDigits (letter : Char) (listed : letter ∈ seq) := digits letter (by simp [listed])
  have filled : seq ≠ [] := List.ne_nil_of_length_pos (by omega)
  have parsed : int decimals seq = _ := int_of_isDigit seqDigits filled short
  rw [parsed, Option.some.injEq] at nonzero
  have positive : 0 < Nat.ofDigitChars 10 seq 0 := Nat.pos_of_ne_zero nonzero
  have noHyphen {letters : List Char} (own : ∀ letter ∈ letters, isDecimal decimals letter = true) :
      '-' ∉ letters := fun listed => by simpa [isDecimal, decimals.hyphen] using own '-' listed
  rw [List.append_nil] at shape
  obtain ⟨same, named⟩ := dayPrefix_of_dateOf six (fun letter listed => digits letter (by simp [listed])) dated
  have padded : (Nat.toDigits 10 (Nat.ofDigitChars 10 seq 0)).leftpad 3 '0' = seq := by
    rcases Nat.lt_or_eq_of_le three with long | three
    · rw [toDigits_ofDigitChars seqDigits filled fun zero => absurd zero (leads long)]
      simp [List.leftpad, Nat.sub_eq_zero_of_le (Nat.le_of_lt long)]
    · rw [three]
      exact leftpad_ofDigitChars seqDigits positive
  refine ⟨?_, named, positive, ?_⟩
  · have split : number.toList.splitOn '-' = [day, seq] := by
      rw [shape, List.splitOn_append_cons_self_of_not_mem
        (noHyphen fun letter listed => decimal letter (by simp [listed])),
        List.splitOn_eq_singleton (noHyphen fun letter listed => decimal letter (by simp [listed]))]
    simp only [parseRequestNumber, accepted, Bool.not_true, Bool.false_eq_true, if_false, split, dated,
      parsed]
  · have few : (Nat.toDigits 10 (Nat.ofDigitChars 10 seq 0)).length ≤ maxStrDigits := by
      refine Nat.le_trans ?_ short
      conv_rhs => rw [← padded]
      simp [List.leftpad]
    rw [format, if_pos few, Option.some.injEq, formatNumber, same, padded, ← shape, String.ofList_toList]

theorem not_grammarAt_of_strays (strays : StraysAt decimals number) : ¬ GrammarAt decimals number := by
  obtain ⟨day, seq, ending, date, written, strays⟩ := strays
  intro law
  obtain ⟨other, sequence, denotes⟩ :=
    law.accepts.mp (validateRequestNumberFormat_iff.mpr ⟨_, _, _, _, written⟩)
  obtain ⟨digits, own, plain⟩ := written_of_denotes decimals denotes
  obtain ⟨sameDay, rest⟩ := List.append_inj (written.shape.symm.trans own.shape)
    (written.six.trans own.six.symm)
  have rest := (List.cons.inj rest).2
  rw [List.append_nil] at rest
  have none : ending = [] := by
    refine written.ended.resolve_right fun newline => ?_
    have stray := own.digits '\n' (List.mem_append_right _ (rest ▸ by simp [newline]))
    simp [isDecimal, decimals.newline] at stray
  subst none
  rw [List.append_nil] at rest
  subst rest sameDay
  exact plain strays

end

/-- The grammar holds of a number unless it strays, and such numbers are told apart. -/
theorem grammarAt_iff (decimals : UnicodeDecimals) :
    (∀ number, GrammarAt decimals number ↔ ¬ StraysAt decimals number) ∧
      ∀ number other, ¬ StraysAt decimals number → ¬ StraysAt decimals other →
        Apart decimals number other := by
  have holds (number : RequestNumber) (plain : ¬ StraysAt decimals number) :
      GrammarAt decimals number := by
    refine ⟨⟨fun accepted => ?_, ?_⟩, fun accepted => ?_⟩
    · obtain ⟨_, _, _, _, written⟩ := validateRequestNumberFormat_iff.mp accepted
      exact ⟨_, _, (denotes_of_written written fun strays => plain ⟨_, _, _, _, written, strays⟩).2⟩
    · rintro ⟨date, sequence, denotes⟩
      obtain ⟨seq, written, _⟩ := written_of_denotes decimals denotes
      exact validateRequestNumberFormat_iff.mpr ⟨_, _, _, _, written⟩
    · obtain ⟨_, _, _, _, written⟩ := validateRequestNumberFormat_iff.mp accepted
      exact ⟨_, _, _, _, denotes_of_written written fun strays => plain ⟨_, _, _, _, written, strays⟩⟩
  refine ⟨fun number => ⟨fun law strays => not_grammarAt_of_strays strays law, holds number⟩, ?_⟩
  intro number other plain otherPlain parsed reread own theirs sameDate sameSequence
  have accepted {number : RequestNumber} {parsed : ParsedNumber}
      (own : parseRequestNumber decimals number = .ok parsed) :
      validateRequestNumberFormat decimals number = true := by
    by_contra refused
    rw [Bool.not_eq_true] at refused
    rw [parseRequestNumber, refused] at own
    cases own
  obtain ⟨_, _, _, _, parse, denotes⟩ := (holds number plain).parses (accepted own)
  obtain ⟨_, _, _, _, reparse, redenotes⟩ := (holds other otherPlain).parses (accepted theirs)
  cases own.symm.trans parse
  cases theirs.symm.trans reparse
  cases sameDate
  cases sameSequence
  exact Option.some.inj (denotes.formatted.symm.trans redenotes.formatted)

def asciiDecimals : UnicodeDecimals where
  value letter := if letter.isDigit then some (letter.toNat - 48) else none
  ascii := by decide
  hyphen := rfl
  newline := rfl

/-- A second number of the first request of the day. -/
theorem padded_four_strays : ¬ GrammarAt asciiDecimals "260101-0001" :=
  not_grammarAt_of_strays ⟨"260101".toList, "0001".toList, [], ⟨2026, 1, 1⟩,
    ⟨by decide, by decide, List.all_eq_true.mp (by decide), by decide, .inl rfl, by decide⟩,
    .inr (.inr (.inr (.inl (by decide))))⟩

end

end InfrasafeBot.RequestNumbers
