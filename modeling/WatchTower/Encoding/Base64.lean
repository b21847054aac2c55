import Mathlib.Tactic.Common

set_option relaxedAutoImplicit false
set_option autoImplicit false

/-!
# Base64

The base64 encoding of bytes as a string of UTF-16 code units, and a decoder that accepts every
string: it reads the standard and the URL-safe alphabet, skips all other characters and stops at
the padding.

## Main definitions

* `Encoding.Units` — a string, as its code units.
* `Encoding.Base64.encode`, `Encoding.Base64.decode`.

## Main results

* `Encoding.Base64.decode_encode` — decoding inverts encoding.
* `Encoding.Base64.not_mem_encode` — the characters that an encoding can hold.
-/

namespace Encoding

/-- A string, as its UTF-16 code units. -/
abbrev Units : Type := List UInt16

/-- Bytes. -/
abbrev Bytes : Type := List UInt8

namespace Base64

/-- The character of a value below 64. -/
def digit (v : ℕ) : UInt16 :=
  if v < 26 then .ofNat (0x41 + v)
  else if v < 52 then .ofNat (0x61 + (v - 26))
  else if v < 62 then .ofNat (0x30 + (v - 52))
  else if v = 62 then 0x2B
  else 0x2F

/-- The value of a character, in either alphabet. -/
def value (u : UInt16) : Option ℕ :=
  let n := u.toNat
  if 0x41 ≤ n ∧ n ≤ 0x5A then some (n - 0x41)
  else if 0x61 ≤ n ∧ n ≤ 0x7A then some (n - 0x61 + 26)
  else if 0x30 ≤ n ∧ n ≤ 0x39 then some (n - 0x30 + 52)
  else if n = 0x2B ∨ n = 0x2D then some 62
  else if n = 0x2F ∨ n = 0x5F then some 63
  else none

/-- The padding character. -/
def pad : UInt16 := 0x3D

/-- The encoding of bytes, by groups of three. -/
def encode : Bytes → Units
  | [] => []
  | [a] => [digit (a.toNat / 4), digit (a.toNat % 4 * 16), pad, pad]
  | [a, b] =>
    [digit (a.toNat / 4), digit (a.toNat % 4 * 16 + b.toNat / 16), digit (b.toNat % 16 * 4), pad]
  | a :: b :: c :: bytes =>
    digit (a.toNat / 4) :: digit (a.toNat % 4 * 16 + b.toNat / 16) ::
      digit (b.toNat % 16 * 4 + c.toNat / 64) :: digit (c.toNat % 64) :: encode bytes

/-- The bytes that a sequence of values stands for. Bits beyond the last whole byte are dropped. -/
def assemble : List ℕ → Bytes
  | p :: q :: r :: s :: values =>
    .ofNat (p * 4 + q / 16) :: .ofNat (q % 16 * 16 + r / 4) :: .ofNat (r % 4 * 64 + s) ::
      assemble values
  | [p, q, r] => [.ofNat (p * 4 + q / 16), .ofNat (q % 16 * 16 + r / 4)]
  | [p, q] => [.ofNat (p * 4 + q / 16)]
  | [_] | [] => []

/-- The values of the digits of a string, up to the padding. -/
def values (s : Units) : List ℕ := (s.takeWhile fun u => u ≠ pad).filterMap value

/-- The bytes that a string stands for. -/
def decode (s : Units) : Bytes := assemble (values s)

/-- A digit has its value. -/
lemma value_digit {v : ℕ} (h : v < 64) : value (digit v) = some v := by
  have hall : ∀ v < 64, value (digit v) = some v := by decide
  exact hall v h

/-- The padding has none. -/
lemma value_pad : value pad = none := by decide

/-- A digit is read. -/
lemma values_digit {v : ℕ} (h : v < 64) (s : Units) : values (digit v :: s) = v :: values s := by
  have hpad : digit v ≠ pad := by
    intro heq
    have hvalue := value_digit h
    rw [heq, value_pad] at hvalue
    cases hvalue
  rw [values, List.takeWhile_cons_of_pos (by simpa using hpad),
    List.filterMap_cons_some (value_digit h), values]

/-- Nothing is read from the padding on. -/
@[simp] lemma values_pad (s : Units) : values (pad :: s) = [] := by
  rw [values, List.takeWhile_cons_of_neg (by simp), List.filterMap_nil]

/-- **Decoding inverts encoding.** -/
theorem decode_encode (bytes : Bytes) : decode (encode bytes) = bytes := by
  induction bytes using encode.induct with
  | case1 => rfl
  | case2 a =>
    have ha := a.toNat_lt
    rw [decode, encode, values_digit (by omega), values_digit (by omega), values_pad, assemble]
    have hfirst : a.toNat / 4 * 4 + a.toNat % 4 * 16 / 16 = a.toNat := by omega
    rw [hfirst, UInt8.ofNat_toNat]
  | case3 a b =>
    have ha := a.toNat_lt
    have hb := b.toNat_lt
    rw [decode, encode, values_digit (by omega), values_digit (by omega), values_digit (by omega),
      values_pad, assemble]
    have hfirst : a.toNat / 4 * 4 + (a.toNat % 4 * 16 + b.toNat / 16) / 16 = a.toNat := by omega
    have hsecond : (a.toNat % 4 * 16 + b.toNat / 16) % 16 * 16 + b.toNat % 16 * 4 / 4 =
        b.toNat := by omega
    rw [hfirst, hsecond, UInt8.ofNat_toNat, UInt8.ofNat_toNat]
  | case4 a b c bytes ih =>
    have ha := a.toNat_lt
    have hb := b.toNat_lt
    have hc := c.toNat_lt
    rw [decode, encode, values_digit (by omega), values_digit (by omega), values_digit (by omega),
      values_digit (by omega), assemble, ← decode, ih]
    have hfirst : a.toNat / 4 * 4 + (a.toNat % 4 * 16 + b.toNat / 16) / 16 = a.toNat := by omega
    have hsecond : (a.toNat % 4 * 16 + b.toNat / 16) % 16 * 16 +
        (b.toNat % 16 * 4 + c.toNat / 64) / 4 = b.toNat := by omega
    have hthird : (b.toNat % 16 * 4 + c.toNat / 64) % 4 * 64 + c.toNat % 64 = c.toNat := by omega
    rw [hfirst, hsecond, hthird, UInt8.ofNat_toNat, UInt8.ofNat_toNat, UInt8.ofNat_toNat]

/-- **An encoding holds** digits and padding only. -/
theorem not_mem_encode {u : UInt16} (hvalue : value u = none) (hpad : u ≠ pad) (bytes : Bytes) :
    u ∉ encode bytes := by
  have hdigit : ∀ v < 64, u ≠ digit v := by
    rintro v hv rfl
    rw [value_digit hv] at hvalue
    cases hvalue
  induction bytes using encode.induct with
  | case1 => exact List.not_mem_nil
  | case2 a =>
    have ha := a.toNat_lt
    simp [encode, hpad, hdigit _ (show a.toNat / 4 < 64 by omega),
      hdigit _ (show a.toNat % 4 * 16 < 64 by omega)]
  | case3 a b =>
    have ha := a.toNat_lt
    have hb := b.toNat_lt
    simp [encode, hpad, hdigit _ (show a.toNat / 4 < 64 by omega),
      hdigit _ (show a.toNat % 4 * 16 + b.toNat / 16 < 64 by omega),
      hdigit _ (show b.toNat % 16 * 4 < 64 by omega)]
  | case4 a b c bytes ih =>
    have ha := a.toNat_lt
    have hb := b.toNat_lt
    have hc := c.toNat_lt
    simp [encode, ih, hdigit _ (show a.toNat / 4 < 64 by omega),
      hdigit _ (show a.toNat % 4 * 16 + b.toNat / 16 < 64 by omega),
      hdigit _ (show b.toNat % 16 * 4 + c.toNat / 64 < 64 by omega),
      hdigit _ (show c.toNat % 64 < 64 by omega)]

end Base64

end Encoding
