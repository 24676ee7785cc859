import Mathlib.Data.List.DropRight

/-! Base64 with the alphabet for URLs, as Python's `base64` and `binascii` have it. The decoder
passes over what is not of the alphabet, and it needs the padding; a text whose padding has been
stripped and restored is decoded to the bytes it was made of. -/

set_option autoImplicit false

namespace InfrasafeBot.Library.Base64

abbrev Bytes := List UInt8

def alphabet : List Char := "ABCDEFGHIJKLMNOPQRSTUVWXYZabcdefghijklmnopqrstuvwxyz0123456789+/".toList

def digit (value : Nat) : Char := alphabet.getD value '='

def value? (c : Char) : Option Nat := alphabet.findIdx? (· = c)

def toUrl (c : Char) : Char := if c = '+' then '-' else if c = '/' then '_' else c

def fromUrl (c : Char) : Char := if c = '-' then '+' else if c = '_' then '/' else c

def pad : Char := '='

def digits : Bytes → List Char
  | [] => []
  | [a] => [digit (a.toNat / 4), digit (a.toNat % 4 * 16)]
  | [a, b] => [digit (a.toNat / 4), digit (a.toNat % 4 * 16 + b.toNat / 16), digit (b.toNat % 16 * 4)]
  | a :: b :: c :: rest =>
    digit (a.toNat / 4) :: digit (a.toNat % 4 * 16 + b.toNat / 16) ::
      digit (b.toNat % 16 * 4 + c.toNat / 64) :: digit (c.toNat % 64) :: digits rest

def missing (length : Nat) : Nat := if length % 4 = 0 then 0 else 4 - length % 4

def restorePadding (text : List Char) : List Char := text ++ List.replicate (missing text.length) pad

def stripPadding (text : List Char) : List Char := text.rdropWhile (· = pad)

def encode (bytes : Bytes) : List Char := restorePadding (digits bytes)

def urlsafeEncode (bytes : Bytes) : List Char := (encode bytes).map toUrl

/-- `a2b_base64`: `place` is how many digits of the group have been read, `left` the bits that
are left of the last one, and `pads` the padding met since. -/
def scan (place left pads : Nat) (read : Bytes) : List Char → Except String Bytes
  | [] =>
    if place = 0 then .ok read.reverse
    else if place = 1 then
      .error ("Invalid base64-encoded string: number of data characters (" ++
        toString (read.length / 3 * 4 + 1) ++ ") cannot be 1 more than a multiple of 4")
    else .error "Incorrect padding"
  | c :: rest =>
    if c = pad then
      if place < 2 then scan place left pads read rest
      else if 4 ≤ place + (pads + 1) then .ok read.reverse
      else scan place left (pads + 1) read rest
    else
      match value? c with
      | none => scan place left pads read rest
      | some value =>
        if place = 0 then scan 1 value 0 read rest
        else if place = 1 then scan 2 (value % 16) 0 (UInt8.ofNat (left * 4 + value / 16) :: read) rest
        else if place = 2 then scan 3 (value % 4) 0 (UInt8.ofNat (left * 16 + value / 4) :: read) rest
        else scan 0 0 0 (UInt8.ofNat (left * 64 + value) :: read) rest

def decode (text : List Char) : Except String Bytes := scan 0 0 0 [] text

def urlsafeDecode (text : List Char) : Except String Bytes := decode (text.map fromUrl)

variable {value : Nat}

theorem value?_digit (small : value < 64) : value? (digit value) = some value := by
  revert value
  decide +kernel

theorem digit_ne_pad (small : value < 64) : digit value ≠ pad := by
  revert value
  decide +kernel

theorem fromUrl_toUrl (small : value < 64) : fromUrl (toUrl (digit value)) = digit value := by
  revert value
  decide +kernel

def IsDigit (c : Char) : Prop := ∃ value < 64, c = digit value

theorem isDigit_digits (bytes : Bytes) : ∀ c ∈ digits bytes, IsDigit c := by
  induction bytes using digits.induct with
  | case1 => simp [digits]
  | case2 a =>
    have first : a.toNat < 256 := a.toNat_lt
    simp only [digits, List.forall_mem_cons, List.not_mem_nil, false_imp_iff, implies_true, and_true]
    exact ⟨⟨_, by omega, rfl⟩, ⟨_, by omega, rfl⟩⟩
  | case3 a b =>
    have first : a.toNat < 256 := a.toNat_lt
    have second : b.toNat < 256 := b.toNat_lt
    simp only [digits, List.forall_mem_cons, List.not_mem_nil, false_imp_iff, implies_true, and_true]
    exact ⟨⟨_, by omega, rfl⟩, ⟨_, by omega, rfl⟩, ⟨_, by omega, rfl⟩⟩
  | case4 a b c rest ih =>
    have first : a.toNat < 256 := a.toNat_lt
    have second : b.toNat < 256 := b.toNat_lt
    have third : c.toNat < 256 := c.toNat_lt
    simp only [digits, List.forall_mem_cons]
    exact ⟨⟨_, by omega, rfl⟩, ⟨_, by omega, rfl⟩, ⟨_, by omega, rfl⟩, ⟨_, by omega, rfl⟩, ih⟩

theorem digits_eq_nil {bytes : Bytes} (none : digits bytes = []) : bytes = [] := by
  cases bytes using digits.fun_cases with
  | case1 => rfl
  | case2 | case3 | case4 => cases none

theorem stripPadding_append {text : List Char} (clean : ∀ c ∈ text, c ≠ pad) (count : Nat) :
    stripPadding (text ++ List.replicate count pad) = text := by
  induction count with
  | zero =>
    rw [List.replicate_zero, List.append_nil, stripPadding, List.rdropWhile_eq_self_iff]
    intro full
    simpa using clean _ (List.getLast_mem full)
  | succ count ih =>
    rw [List.replicate_succ', ← List.append_assoc, stripPadding, List.rdropWhile_concat_pos _ _ _ (by simp)]
    exact ih

theorem toUrl_pad : toUrl pad = pad := rfl

theorem toUrl_ne_pad {c : Char} (digit : IsDigit c) : toUrl c ≠ pad := by
  obtain ⟨value, small, rfl⟩ := digit
  intro same
  have read := fromUrl_toUrl small
  rw [same] at read
  exact digit_ne_pad small read.symm

theorem stripPadding_urlsafeEncode (bytes : Bytes) :
    stripPadding (urlsafeEncode bytes) = (digits bytes).map toUrl := by
  rw [urlsafeEncode, encode, restorePadding, List.map_append, List.map_replicate, toUrl_pad]
  apply stripPadding_append
  intro c listed
  obtain ⟨d, own, rfl⟩ := List.mem_map.mp listed
  exact toUrl_ne_pad (isDigit_digits bytes d own)

theorem map_fromUrl_digits (bytes : Bytes) : ((digits bytes).map toUrl).map fromUrl = digits bytes := by
  rw [List.map_map]
  conv_rhs => rw [← List.map_id (digits bytes)]
  refine List.map_congr_left fun c listed => ?_
  obtain ⟨value, small, rfl⟩ := isDigit_digits bytes c listed
  exact fromUrl_toUrl small

theorem scan_digit (small : value < 64) (place left pads : Nat) (read : Bytes) (rest : List Char) :
    scan place left pads read (digit value :: rest) =
      if place = 0 then scan 1 value 0 read rest
      else if place = 1 then scan 2 (value % 16) 0 (UInt8.ofNat (left * 4 + value / 16) :: read) rest
      else if place = 2 then scan 3 (value % 4) 0 (UInt8.ofNat (left * 16 + value / 4) :: read) rest
      else scan 0 0 0 (UInt8.ofNat (left * 64 + value) :: read) rest := by
  rw [scan, if_neg (digit_ne_pad small), value?_digit small]

theorem ofNat_eq {byte : UInt8} (same : value = byte.toNat) : UInt8.ofNat value = byte := by
  rw [same, UInt8.ofNat_toNat]

theorem missing_add_four (length : Nat) : missing (length + 4) = missing length := by
  simp [missing]

theorem scan_encode (bytes read : Bytes) :
    scan 0 0 0 read (encode bytes) = .ok (read.reverse ++ bytes) := by
  rw [encode, restorePadding]
  induction bytes using digits.induct generalizing read with
  | case1 => simp [digits, missing, scan]
  | case2 a =>
    have first : a.toNat < 256 := a.toNat_lt
    have whole : UInt8.ofNat (a.toNat / 4 * 4 + a.toNat % 4 * 16 / 16) = a := ofNat_eq (by omega)
    simp only [digits, List.cons_append, List.nil_append]
    rw [scan_digit (by omega), if_pos rfl, scan_digit (by omega), if_neg (by decide), if_pos rfl, whole]
    simp [missing, scan, pad, List.replicate]
  | case3 a b =>
    have first : a.toNat < 256 := a.toNat_lt
    have second : b.toNat < 256 := b.toNat_lt
    have whole : UInt8.ofNat (a.toNat / 4 * 4 + (a.toNat % 4 * 16 + b.toNat / 16) / 16) = a :=
      ofNat_eq (by omega)
    have next : UInt8.ofNat ((a.toNat % 4 * 16 + b.toNat / 16) % 16 * 16 +
        b.toNat % 16 * 4 / 4) = b :=
      ofNat_eq (by omega)
    simp only [digits, List.cons_append, List.nil_append]
    rw [scan_digit (by omega), if_pos rfl, scan_digit (by omega), if_neg (by decide),
      if_pos rfl, whole, scan_digit (by omega), if_neg (by decide), if_neg (by decide),
      if_pos rfl, next]
    simp [missing, scan, pad]
  | case4 a b c rest ih =>
    have first : a.toNat < 256 := a.toNat_lt
    have second : b.toNat < 256 := b.toNat_lt
    have third : c.toNat < 256 := c.toNat_lt
    have whole : UInt8.ofNat (a.toNat / 4 * 4 + (a.toNat % 4 * 16 + b.toNat / 16) / 16) = a :=
      ofNat_eq (by omega)
    have next : UInt8.ofNat ((a.toNat % 4 * 16 + b.toNat / 16) % 16 * 16 +
        (b.toNat % 16 * 4 + c.toNat / 64) / 4) = b :=
      ofNat_eq (by omega)
    have last : UInt8.ofNat ((b.toNat % 16 * 4 + c.toNat / 64) % 4 * 64 + c.toNat % 64) = c :=
      ofNat_eq (by omega)
    simp only [digits, List.length_cons, List.cons_append]
    rw [scan_digit (by omega), if_pos rfl, scan_digit (by omega), if_neg (by decide),
      if_pos rfl, whole, scan_digit (by omega), if_neg (by decide), if_neg (by decide),
      if_pos rfl, next, scan_digit (by omega), if_neg (by decide), if_neg (by decide),
      if_neg (by decide), last, missing_add_four, ih]
    simp

theorem urlsafeDecode_stripped (bytes : Bytes) :
    urlsafeDecode (restorePadding (stripPadding (urlsafeEncode bytes))) = .ok bytes := by
  have length : ((digits bytes).map toUrl).length = (digits bytes).length := List.length_map _
  rw [stripPadding_urlsafeEncode, urlsafeDecode, restorePadding, List.map_append,
    map_fromUrl_digits, List.map_replicate, length]
  exact scan_encode bytes []

end InfrasafeBot.Library.Base64
