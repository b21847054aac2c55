import Mathlib.Tactic.Common
import WatchTower.Encoding.Base64

set_option relaxedAutoImplicit false
set_option autoImplicit false

/-!
# UTF-16 and UTF-8

The code units of a text, and its UTF-8 encoding with the decoder of the web platform. The decoder
accepts all bytes: what is no part of a character becomes a replacement character.

## Main definitions

* `Encoding.unitsOf`, `Encoding.pairChar` — the code units of a character, and the character of a
  surrogate pair.
* `Encoding.units`, `Encoding.chars` — the code units of a text, and the characters of a string.
* `Encoding.Utf8.encode`, `Encoding.Utf8.decode`.

## Main results

* `Encoding.unitsOf_pairChar`, `Encoding.unitsOf_charOf` — the characters of code units.
* `Encoding.Utf8.decode_encode` — decoding inverts encoding.
-/

namespace Encoding

/-! ## Code units -/

/-- The first half of a surrogate pair. -/
def isHigh (u : UInt16) : Bool := 0xD800 ≤ u.toNat && u.toNat ≤ 0xDBFF

/-- The second half. -/
def isLow (u : UInt16) : Bool := 0xDC00 ≤ u.toNat && u.toNat ≤ 0xDFFF

/-- The code units of a character. -/
def unitsOf (c : Char) : Units :=
  if c.toNat < 0x10000 then [.ofNat c.toNat]
  else
    [.ofNat (0xD800 + (c.toNat - 0x10000) / 0x400), .ofNat (0xDC00 + (c.toNat - 0x10000) % 0x400)]

/-- The code units of a text. -/
def units (s : List Char) : Units := s.flatMap unitsOf

/-- The character that a unit is, if it is no surrogate. -/
def charOf (u : UInt16) : Char := Char.ofNat u.toNat

/-- The character of a surrogate pair. -/
def pairChar (hi lo : UInt16) : Char :=
  Char.ofNat (0x10000 + (hi.toNat - 0xD800) * 0x400 + (lo.toNat - 0xDC00))

/-- The replacement character. -/
def replacement : Char := Char.ofNat 0xFFFD

/-- The characters of a string. A surrogate without a partner is replaced. -/
def chars : Units → List Char
  | [] => []
  | [u] => [if isHigh u || isLow u then replacement else charOf u]
  | hi :: lo :: s =>
    if isHigh hi && isLow lo then pairChar hi lo :: chars s
    else (if isHigh hi || isLow hi then replacement else charOf hi) :: chars (lo :: s)

/-- The number of a character that is made from a number. -/
lemma toNat_ofNat {n : ℕ} (h : n.isValidChar) : (Char.ofNat n).toNat = n := by
  rw [Char.ofNat, dif_pos h]
  rfl

lemma toNat_charOf {u : UInt16} (hhigh : isHigh u = false) (hlow : isLow u = false) :
    (charOf u).toNat = u.toNat := by
  have hu := u.toNat_lt
  simp only [isHigh, isLow, Bool.and_eq_false_iff, decide_eq_false_iff_not] at hhigh hlow
  refine toNat_ofNat ?_
  unfold Nat.isValidChar
  omega

/-- A unit that is no surrogate is its own character. -/
lemma unitsOf_charOf {u : UInt16} (hhigh : isHigh u = false) (hlow : isLow u = false) :
    unitsOf (charOf u) = [u] := by
  rw [unitsOf, toNat_charOf hhigh hlow, if_pos u.toNat_lt, UInt16.ofNat_toNat]

lemma toNat_pairChar {hi lo : UInt16} (hhigh : isHigh hi = true) (hlow : isLow lo = true) :
    (pairChar hi lo).toNat = 0x10000 + (hi.toNat - 0xD800) * 0x400 + (lo.toNat - 0xDC00) := by
  simp only [isHigh, isLow, Bool.and_eq_true, decide_eq_true_eq] at hhigh hlow
  refine toNat_ofNat ?_
  unfold Nat.isValidChar
  omega

/-- A surrogate pair is the pair of its character. -/
lemma unitsOf_pairChar {hi lo : UInt16} (hhigh : isHigh hi = true) (hlow : isLow lo = true) :
    unitsOf (pairChar hi lo) = [hi, lo] := by
  rw [unitsOf, toNat_pairChar hhigh hlow, if_neg (by omega)]
  simp only [isHigh, isLow, Bool.and_eq_true, decide_eq_true_eq] at hhigh hlow
  have hhi : 0xD800 + (0x10000 + (hi.toNat - 0xD800) * 0x400 + (lo.toNat - 0xDC00) - 0x10000) /
      0x400 = hi.toNat := by omega
  have hlo : 0xDC00 + (0x10000 + (hi.toNat - 0xD800) * 0x400 + (lo.toNat - 0xDC00) - 0x10000) %
      0x400 = lo.toNat := by omega
  rw [hhi, hlo, UInt16.ofNat_toNat, UInt16.ofNat_toNat]

/-! ## UTF-8 -/

namespace Utf8

/-- The UTF-8 encoding of a text. -/
def encode (s : List Char) : Bytes := s.flatMap String.utf8EncodeChar

/-- A character that has begun: the bits so far, how many more bytes it has, and between which
bounds the next one is. -/
structure Pending where
  /-- The bits so far. -/
  codePoint : ℕ
  /-- How many bytes are missing. -/
  needed : ℕ
  /-- The lower bound of the next one. -/
  lower : ℕ := 0x80
  /-- Its upper bound. -/
  upper : ℕ := 0xBF

/-- A byte at the start of a character. -/
def lead (b : ℕ) : List Char × Option Pending :=
  if b ≤ 0x7F then ([Char.ofNat b], none)
  else if 0xC2 ≤ b ∧ b ≤ 0xDF then ([], some { codePoint := b - 0xC0, needed := 1 })
  else if 0xE0 ≤ b ∧ b ≤ 0xEF then
    ([], some
      { codePoint := b - 0xE0
        needed := 2
        lower := if b = 0xE0 then 0xA0 else 0x80
        upper := if b = 0xED then 0x9F else 0xBF })
  else if 0xF0 ≤ b ∧ b ≤ 0xF4 then
    ([], some
      { codePoint := b - 0xF0
        needed := 3
        lower := if b = 0xF0 then 0x90 else 0x80
        upper := if b = 0xF4 then 0x8F else 0xBF })
  else ([replacement], none)

/-- A byte inside a character. One that does not fit ends it, and starts the next. -/
def extend (p : Pending) (b : ℕ) : List Char × Option Pending :=
  if p.lower ≤ b ∧ b ≤ p.upper then
    let codePoint := p.codePoint * 64 + (b - 0x80)
    if p.needed = 1 then ([Char.ofNat codePoint], none)
    else ([], some { codePoint, needed := p.needed - 1 })
  else (replacement :: (lead b).1, (lead b).2)

/-- The text of bytes, inside a character or between two. -/
def decodeFrom : Option Pending → Bytes → List Char
  | none, [] => []
  | some _, [] => [replacement]
  | none, b :: bytes => (lead b.toNat).1 ++ decodeFrom (lead b.toNat).2 bytes
  | some p, b :: bytes => (extend p b.toNat).1 ++ decodeFrom (extend p b.toNat).2 bytes

/-- The text of bytes. -/
def decode (bytes : Bytes) : List Char := decodeFrom none bytes

/-- A byte below 256 is itself. -/
lemma toNat_byte {n : ℕ} (hn : n < 256) : (UInt8.ofNat n).toNat = n := by
  rw [UInt8.toNat_ofNat', Nat.mod_eq_of_lt hn]

/-- The first byte of several. -/
lemma decodeFrom_lead {n : ℕ} {p : Pending} (hn : n < 256) (hlead : lead n = ([], some p))
    (bytes : Bytes) : decodeFrom none (.ofNat n :: bytes) = decodeFrom (some p) bytes := by
  rw [decodeFrom, toNat_byte hn, hlead, List.nil_append]

/-- A byte that fits, before the last one. -/
lemma decodeFrom_extend {n : ℕ} {p : Pending} (hn : n < 256) (hfits : p.lower ≤ n ∧ n ≤ p.upper)
    (hneeded : p.needed ≠ 1) (bytes : Bytes) :
    decodeFrom (some p) (.ofNat n :: bytes) =
      decodeFrom (some { codePoint := p.codePoint * 64 + (n - 0x80), needed := p.needed - 1 })
        bytes := by
  rw [decodeFrom, toNat_byte hn, extend, if_pos hfits]
  dsimp only
  rw [if_neg hneeded, List.nil_append]

/-- The last byte of a character. -/
lemma decodeFrom_last {n : ℕ} {p : Pending} (hn : n < 256) (hfits : p.lower ≤ n ∧ n ≤ p.upper)
    (hneeded : p.needed = 1) (bytes : Bytes) :
    decodeFrom (some p) (.ofNat n :: bytes) =
      Char.ofNat (p.codePoint * 64 + (n - 0x80)) :: decodeFrom none bytes := by
  rw [decodeFrom, toNat_byte hn, extend, if_pos hfits]
  dsimp only
  rw [if_pos hneeded]
  rfl

/-- **One character** is decoded from its bytes. -/
lemma decodeFrom_encodeChar (c : Char) (bytes : Bytes) :
    decodeFrom none (String.utf8EncodeChar c ++ bytes) = c :: decodeFrom none bytes := by
  have hvalid : c.toNat < 0xD800 ∨ 0xDFFF < c.toNat ∧ c.toNat < 0x110000 := c.valid
  have hval : c.val.toNat = c.toNat := rfl
  unfold String.utf8EncodeChar
  rw [hval]
  generalize hv : c.toNat = v at hvalid
  have hc : Char.ofNat v = c := by rw [← hv, Char.ofNat_toNat]
  dsimp only
  by_cases h1 : v ≤ 0x7F
  · rw [if_pos h1, List.singleton_append, decodeFrom, toNat_byte (by omega), lead, if_pos h1, hc]
    rfl
  by_cases h2 : v ≤ 0x7FF
  · have hlead : lead (v / 64 % 32 + 0xC0) =
        ([], some { codePoint := v / 64 % 32 + 0xC0 - 0xC0, needed := 1 }) := by
      rw [lead, if_neg (by omega), if_pos (by omega)]
    rw [if_neg h1, if_pos h2, List.cons_append, List.singleton_append,
      decodeFrom_lead (by omega) hlead, decodeFrom_last (by omega) (by dsimp only; omega) rfl]
    have hnum : (v / 64 % 32 + 0xC0 - 0xC0) * 64 + (v % 64 + 0x80 - 0x80) = v := by omega
    rw [hnum, hc]
  by_cases h3 : v ≤ 0xFFFF
  · have hlead : lead (v / 4096 % 16 + 0xE0) =
        ([], some
          { codePoint := v / 4096 % 16 + 0xE0 - 0xE0
            needed := 2
            lower := if v / 4096 % 16 + 0xE0 = 0xE0 then 0xA0 else 0x80
            upper := if v / 4096 % 16 + 0xE0 = 0xED then 0x9F else 0xBF }) := by
      rw [lead, if_neg (by omega), if_neg (by omega), if_pos (by omega)]
    -- The bounds exclude short forms and surrogates.
    have hfits : (if v / 4096 % 16 + 0xE0 = 0xE0 then 0xA0 else 0x80) ≤ v / 64 % 64 + 0x80 ∧
        v / 64 % 64 + 0x80 ≤ (if v / 4096 % 16 + 0xE0 = 0xED then 0x9F else 0xBF) := by
      split_ifs <;> omega
    rw [if_neg h1, if_neg h2, if_pos h3, List.cons_append, List.cons_append,
      List.singleton_append, decodeFrom_lead (by omega) hlead,
      decodeFrom_extend (by omega) hfits (by dsimp only; decide),
      decodeFrom_last (by omega) (by dsimp only; omega) rfl]
    have hnum : ((v / 4096 % 16 + 0xE0 - 0xE0) * 64 + (v / 64 % 64 + 0x80 - 0x80)) * 64 +
        (v % 64 + 0x80 - 0x80) = v := by omega
    rw [hnum, hc]
  · have hlead : lead (v / 262144 % 8 + 0xF0) =
        ([], some
          { codePoint := v / 262144 % 8 + 0xF0 - 0xF0
            needed := 3
            lower := if v / 262144 % 8 + 0xF0 = 0xF0 then 0x90 else 0x80
            upper := if v / 262144 % 8 + 0xF0 = 0xF4 then 0x8F else 0xBF }) := by
      rw [lead, if_neg (by omega), if_neg (by omega), if_neg (by omega), if_pos (by omega)]
    -- They also exclude numbers that no character has.
    have hfits : (if v / 262144 % 8 + 0xF0 = 0xF0 then 0x90 else 0x80) ≤ v / 4096 % 64 + 0x80 ∧
        v / 4096 % 64 + 0x80 ≤ (if v / 262144 % 8 + 0xF0 = 0xF4 then 0x8F else 0xBF) := by
      split_ifs <;> omega
    rw [if_neg h1, if_neg h2, if_neg h3, List.cons_append, List.cons_append, List.cons_append,
      List.singleton_append, decodeFrom_lead (by omega) hlead,
      decodeFrom_extend (by omega) hfits (by dsimp only; decide),
      decodeFrom_extend (by omega) (by dsimp only; omega) (by dsimp only; decide),
      decodeFrom_last (by omega) (by dsimp only; omega) rfl]
    have hnum : (((v / 262144 % 8 + 0xF0 - 0xF0) * 64 + (v / 4096 % 64 + 0x80 - 0x80)) * 64 +
        (v / 64 % 64 + 0x80 - 0x80)) * 64 + (v % 64 + 0x80 - 0x80) = v := by omega
    rw [hnum, hc]

/-- **Decoding inverts encoding.** -/
theorem decode_encode (s : List Char) : decode (encode s) = s := by
  induction s with
  | nil => rfl
  | cons c s ih =>
    rw [decode, encode, List.flatMap_cons, decodeFrom_encodeChar]
    exact congrArg (c :: ·) ih

end Utf8

end Encoding
