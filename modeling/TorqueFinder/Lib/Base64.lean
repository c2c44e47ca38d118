import Mathlib.Data.List.Basic

/-! The standard base64 encoding of byte strings. -/

namespace Base64

/-- The sixty-four digits, by value. -/
def alphabet : List Char :=
  "ABCDEFGHIJKLMNOPQRSTUVWXYZabcdefghijklmnopqrstuvwxyz0123456789+/".toList

/-- The digit of a six-bit value. -/
def digit (value : Nat) : Char := alphabet.getD value '='

/-- Four digits for every three bytes, with padding at the end. -/
def encodeChars : List UInt8 → List Char
  | [] => []
  -- One or two bytes at the end are filled up with zero bits, and padded.
  | [first] => [digit (first.toNat / 4), digit (first.toNat % 4 * 16), '=', '=']
  | [first, second] =>
    [digit (first.toNat / 4), digit (first.toNat % 4 * 16 + second.toNat / 16),
      digit (second.toNat % 16 * 4), '=']
  | first :: second :: third :: rest =>
    digit (first.toNat / 4) :: digit (first.toNat % 4 * 16 + second.toNat / 16) ::
      digit (second.toNat % 16 * 4 + third.toNat / 64) :: digit (third.toNat % 64) ::
        encodeChars rest

/-- `base64.standard_b64encode`, decoded as text. -/
def encode (bytes : List UInt8) : String := String.ofList (encodeChars bytes)

/-- The three lengths of the last group. -/
example : encode [77, 97, 110] = "TWFu" ∧ encode [77, 97] = "TWE=" ∧ encode [77] = "TQ==" := by
  decide

/-- The six-bit value of a digit. -/
def valueOf (char : Char) : Option Nat := alphabet.findIdx? fun other => other = char

/-- The byte that the first two values of a group begin with. -/
def highByte (first second : Nat) : UInt8 := UInt8.ofNat (first * 4 + second / 16)

/-- The byte that the second and the third value of a group share. -/
def middleByte (second third : Nat) : UInt8 := UInt8.ofNat (second % 16 * 16 + third / 4)

/-- The byte that the last two values of a group end with. -/
def lowByte (third fourth : Nat) : UInt8 := UInt8.ofNat (third % 4 * 64 + fourth)

/-- Three bytes for every four digits, fewer where the padding stands for digits. -/
def decodeChars : List Char → Option (List UInt8)
  | [] => some []
  | first :: second :: third :: fourth :: rest => do
    let a ← valueOf first
    let b ← valueOf second
    -- Padding only ends a text.
    if third = '=' ∧ fourth = '=' ∧ rest = [] then return [highByte a b]
    let c ← valueOf third
    if fourth = '=' ∧ rest = [] then return [highByte a b, middleByte b c]
    let d ← valueOf fourth
    let others ← decodeChars rest
    return highByte a b :: middleByte b c :: lowByte c d :: others
  | _ => none

/-- The bytes a base64 text stands for. -/
def decode (text : String) : Option (List UInt8) := decodeChars text.toList

/-- A digit has the value it was written for. -/
theorem valueOf_digit {value : Nat} (small : value < 64) : valueOf (digit value) = some value := by
  -- The alphabet has no character twice, which is checked digit by digit.
  have all : ((List.range 64).all fun value => valueOf (digit value) = some value) = true := by
    decide +kernel
  exact of_decide_eq_true (List.all_eq_true.mp all value (List.mem_range.mpr small))

/-- The padding is no digit. -/
theorem digit_ne_padding {value : Nat} (small : value < 64) : digit value ≠ '=' := by
  -- The padding has no value, and every digit has one.
  intro padding
  have found := valueOf_digit small
  have none : valueOf '=' = none := by decide +kernel
  rw [padding, none] at found
  cases found

/-- The first byte of a group is read back, whatever the padding of its second value. -/
theorem highByte_eq (byte : UInt8) {rest : Nat} (small : rest < 16) :
    highByte (byte.toNat / 4) (byte.toNat % 4 * 16 + rest) = byte := by
  -- The two lowest bits of the byte are the high bits of the second digit.
  have number : byte.toNat / 4 * 4 + (byte.toNat % 4 * 16 + rest) / 16 = byte.toNat := by omega
  rw [highByte, number, UInt8.ofNat_toNat]

/-- The second byte of a group is read back. -/
theorem middleByte_eq (front : Nat) (byte : UInt8) {rest : Nat} (small : rest < 4) :
    middleByte (front * 16 + byte.toNat / 16) (byte.toNat % 16 * 4 + rest) = byte := by
  -- Each digit holds four of the eight bits.
  have bound := byte.toNat_lt
  have number : (front * 16 + byte.toNat / 16) % 16 * 16 + (byte.toNat % 16 * 4 + rest) / 4 =
      byte.toNat := by omega
  rw [middleByte, number, UInt8.ofNat_toNat]

/-- The third byte of a group is read back. -/
theorem lowByte_eq (front : Nat) (byte : UInt8) :
    lowByte (front * 4 + byte.toNat / 64) (byte.toNat % 64) = byte := by
  -- The two highest bits come from the third digit, the others are the fourth.
  have bound := byte.toNat_lt
  have number : (front * 4 + byte.toNat / 64) % 4 * 64 + byte.toNat % 64 = byte.toNat := by omega
  rw [lowByte, number, UInt8.ofNat_toNat]

/-- The digits of some bytes are read back as those bytes. -/
theorem decodeChars_encodeChars (bytes : List UInt8) :
    decodeChars (encodeChars bytes) = some bytes := by
  -- A group of three bytes is read back from its four digits, whatever follows it.
  fun_induction encodeChars bytes with
  | case1 => rfl
  -- One byte left gives two digits and two pads.
  | case2 first =>
    have bound := first.toNat_lt
    have high : first.toNat / 4 < 64 := by omega
    have low : first.toNat % 4 * 16 < 64 := by omega
    have byte : highByte (first.toNat / 4) (first.toNat % 4 * 16) = first :=
      highByte_eq first (Nat.zero_lt_succ 15)
    simp [decodeChars, valueOf_digit high, valueOf_digit low, byte]
  -- Two bytes left give three digits and one pad.
  | case3 first second =>
    have bound := first.toNat_lt
    have also := second.toNat_lt
    have high : first.toNat / 4 < 64 := by omega
    have shared : first.toNat % 4 * 16 + second.toNat / 16 < 64 := by omega
    have low : second.toNat % 16 * 4 < 64 := by omega
    have byte : highByte (first.toNat / 4) (first.toNat % 4 * 16 + second.toNat / 16) = first :=
      highByte_eq first (by omega)
    have next : middleByte (first.toNat % 4 * 16 + second.toNat / 16) (second.toNat % 16 * 4) =
        second := middleByte_eq _ second (Nat.zero_lt_succ 3)
    simp [decodeChars, valueOf_digit high, valueOf_digit shared, valueOf_digit low,
      digit_ne_padding low, byte, next]
  | case4 first second third rest ih =>
    have bound := first.toNat_lt
    have also := second.toNat_lt
    have last := third.toNat_lt
    have high : first.toNat / 4 < 64 := by omega
    have upper : first.toNat % 4 * 16 + second.toNat / 16 < 64 := by omega
    have lower : second.toNat % 16 * 4 + third.toNat / 64 < 64 := by omega
    have low : third.toNat % 64 < 64 := by omega
    have byte : highByte (first.toNat / 4) (first.toNat % 4 * 16 + second.toNat / 16) = first :=
      highByte_eq first (by omega)
    have next : middleByte (first.toNat % 4 * 16 + second.toNat / 16)
        (second.toNat % 16 * 4 + third.toNat / 64) = second := middleByte_eq _ second (by omega)
    simp [decodeChars, valueOf_digit high, valueOf_digit upper, valueOf_digit lower,
      valueOf_digit low, digit_ne_padding lower, digit_ne_padding low, byte, next, lowByte_eq, ih]

/-- What a text encodes is read back from it. -/
theorem decode_encode (bytes : List UInt8) : decode (encode bytes) = some bytes := by
  rw [decode, encode, String.toList_ofList, decodeChars_encodeChars]

end Base64
