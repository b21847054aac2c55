import Mathlib
import WatchTower.Encoding.Json
import WatchTower.Encoding.Unicode

set_option relaxedAutoImplicit false
set_option autoImplicit false

/-!
# Percent-encoding

`encodeURIComponent` and `decodeURIComponent`. A character outside the unreserved ones is written
as the bytes of its UTF-8 encoding; reading fails on a sign without two digits, and on bytes that
are no UTF-8 encoding of one character.

## Main definitions

* `Encoding.Percent.encode`, `Encoding.Percent.decode`.

## Main results

* `Encoding.Percent.decode_encode` — decoding inverts encoding.
* `Encoding.Percent.isSafe_of_mem_encode` — the characters of an encoded text.
-/

namespace Encoding

namespace Percent

/-- The characters that are written as they are. -/
def isUnreserved (c : Char) : Bool :=
  c.isAlphanum || c = '-' || c = '_' || c = '.' || c = '!' || c = '~' || c = '*' ||
    c.toNat = 0x27 || c = '(' || c = ')'

/-- A hexadecimal digit in upper case. -/
def upperDigit (n : ℕ) : Char := Char.ofNat (if n < 10 then 0x30 + n else 0x41 + n - 10)

/-- A byte, written with two digits. -/
def escape (b : UInt8) : List Char := ['%', upperDigit (b.toNat / 16), upperDigit (b.toNat % 16)]

/-- One character. -/
def encodeChar (c : Char) : List Char :=
  if isUnreserved c then [c] else (String.utf8EncodeChar c).flatMap escape

/-- `encodeURIComponent(text)`. -/
def encode (text : List Char) : List Char := text.flatMap encodeChar

/-- A byte that is written with two digits, and what follows it. -/
def readOctet : List Char → Option (UInt8 × List Char)
  | '%' :: a :: b :: rest => do
    let high ← hexValue a.toNat
    let low ← hexValue b.toNat
    return (.ofNat (high * 16 + low), rest)
  | _ => none

/-- Several of them. -/
def readOctets : ℕ → List Char → Option (Bytes × List Char)
  | 0, s => some ([], s)
  | n + 1, s => do
    let (b, rest) ← readOctet s
    let (bytes, rest) ← readOctets n rest
    return (b :: bytes, rest)

/-- The character that bytes are the UTF-8 encoding of. -/
def charOfBytes (bytes : Bytes) : Option Char :=
  match Utf8.decode bytes with
  | [c] => if String.utf8EncodeChar c = bytes then some c else none
  | _ => none

/-- How many bytes follow the first one of a character. -/
def following (b : ℕ) : Option ℕ :=
  if b < 0x80 then some 0
  else if b < 0xC0 then none
  else if b < 0xE0 then some 1
  else if b < 0xF0 then some 2
  else if b < 0xF8 then some 3
  else none

/-- One character of a text, and what follows it. -/
def readChar : List Char → Option (Char × List Char)
  | [] => none
  | c :: s =>
    if c = '%' then do
      let (b, rest) ← readOctet (c :: s)
      let n ← following b.toNat
      let (bytes, rest) ← readOctets n rest
      let char ← charOfBytes (b :: bytes)
      return (char, rest)
    else some (c, s)

/-- The text, read character by character; each is at least one character long. -/
def decodeWithin : ℕ → List Char → Option (List Char)
  | _, [] => some []
  | 0, _ :: _ => none
  | fuel + 1, c :: s => do
    let (char, rest) ← readChar (c :: s)
    let text ← decodeWithin fuel rest
    return char :: text

/-- `decodeURIComponent(text)`, unless it throws. -/
def decode (text : List Char) : Option (List Char) := decodeWithin text.length text

/-! ## Round trip -/

/-- A digit is read. -/
lemma hexValue_upperDigit {n : ℕ} (h : n < 16) : hexValue (upperDigit n).toNat = some n := by
  revert h n
  decide

/-- A byte is read. -/
lemma readOctet_escape (b : UInt8) (rest : List Char) :
    readOctet (escape b ++ rest) = some (b, rest) := by
  have hhigh : b.toNat / 16 < 16 := by
    have := b.toNat_lt
    omega
  have hlow : b.toNat % 16 < 16 := Nat.mod_lt _ (by decide)
  have hbyte : UInt8.ofNat (b.toNat / 16 * 16 + b.toNat % 16) = b := by
    rw [Nat.div_add_mod', UInt8.ofNat_toNat]
  rw [escape, List.cons_append, List.cons_append, List.cons_append, List.nil_append, readOctet,
    hexValue_upperDigit hhigh, hexValue_upperDigit hlow]
  exact congrArg (fun b => some (b, rest)) hbyte

/-- Bytes are read. -/
lemma readOctets_escape (bytes : Bytes) (rest : List Char) :
    readOctets bytes.length (bytes.flatMap escape ++ rest) = some (bytes, rest) := by
  induction bytes with
  | nil => rfl
  | cons b bytes ih =>
    rw [List.flatMap_cons, List.append_assoc, List.length_cons, readOctets, readOctet_escape]
    simp [ih]

/-- The bytes of a character are read as that character. -/
lemma charOfBytes_encodeChar (c : Char) : charOfBytes (String.utf8EncodeChar c) = some c := by
  have hdecode : Utf8.decode (String.utf8EncodeChar c) = [c] := by
    have := Utf8.decode_encode [c]
    rwa [Utf8.encode, List.flatMap_cons, List.flatMap_nil, List.append_nil] at this
  rw [charOfBytes, hdecode]
  exact if_pos rfl

/-- The first byte of a character says how many follow. -/
lemma exists_following (c : Char) :
    ∃ b bytes, String.utf8EncodeChar c = b :: bytes ∧ following b.toNat = some bytes.length := by
  have hvalid : c.toNat < 0x110000 := by
    have := c.valid
    rcases this with h | h
    · exact h.trans (by decide)
    · exact h.2
  unfold String.utf8EncodeChar
  have hval : c.val.toNat = c.toNat := rfl
  rw [hval]
  generalize c.toNat = v at hvalid
  dsimp only
  split_ifs with h1 h2 h3
  · refine ⟨_, _, rfl, ?_⟩
    rw [Utf8.toNat_byte (by omega), following, if_pos (by omega)]
    rfl
  · refine ⟨_, _, rfl, ?_⟩
    rw [Utf8.toNat_byte (by omega), following, if_neg (by omega), if_neg (by omega),
      if_pos (by omega)]
    rfl
  · refine ⟨_, _, rfl, ?_⟩
    rw [Utf8.toNat_byte (by omega), following, if_neg (by omega), if_neg (by omega),
      if_neg (by omega), if_pos (by omega)]
    rfl
  · refine ⟨_, _, rfl, ?_⟩
    rw [Utf8.toNat_byte (by omega), following, if_neg (by omega), if_neg (by omega),
      if_neg (by omega), if_neg (by omega), if_pos (by omega)]
    rfl

/-- An encoded character is read. -/
lemma readChar_encodeChar (c : Char) (rest : List Char) :
    readChar (encodeChar c ++ rest) = some (c, rest) := by
  unfold encodeChar
  split_ifs with hc
  · have hne : c ≠ '%' := by
      rintro rfl
      revert hc
      decide
    rw [List.singleton_append, readChar, if_neg hne]
  · obtain ⟨b, bytes, hbytes, hfollowing⟩ := exists_following c
    have hread := readOctet_escape b (bytes.flatMap escape ++ rest)
    rw [hbytes, List.flatMap_cons, List.append_assoc]
    rw [escape, List.cons_append] at hread ⊢
    rw [readChar, if_pos rfl, hread]
    simp [hfollowing, readOctets_escape, ← hbytes, charOfBytes_encodeChar]

/-- A character is written with at least one. -/
lemma encodeChar_ne_nil (c : Char) : encodeChar c ≠ [] := by
  unfold encodeChar
  split_ifs with hc
  · exact List.cons_ne_nil _ _
  · obtain ⟨b, bytes, hbytes, -⟩ := exists_following c
    rw [hbytes, List.flatMap_cons, escape]
    exact List.cons_ne_nil _ _

/-- An encoded text is read, given enough steps. -/
lemma decodeWithin_encode (text : List Char) {fuel : ℕ} (h : (encode text).length ≤ fuel) :
    decodeWithin fuel (encode text) = some text := by
  induction text generalizing fuel with
  | nil => cases fuel <;> rfl
  | cons c text ih =>
    have hread := readChar_encodeChar c (encode text)
    rw [encode, List.flatMap_cons] at h ⊢
    obtain ⟨d, ds, hd⟩ := List.exists_cons_of_ne_nil (encodeChar_ne_nil c)
    rw [hd, List.cons_append] at h hread ⊢
    cases fuel with
    | zero => simp at h
    | succ fuel =>
      have hle : (encode text).length ≤ fuel := by
        rw [List.length_cons, List.length_append] at h
        rw [encode]
        omega
      rw [decodeWithin]
      change (readChar (d :: (ds ++ encode text))).bind _ = _
      rw [hread]
      simp [ih hle]

/-- **Decoding inverts encoding.** -/
theorem decode_encode (text : List Char) : decode (encode text) = some text :=
  decodeWithin_encode text le_rfl

/-- A character that may occur in an encoded text. -/
def isSafe (c : Char) : Bool := c = '%' || isUnreserved c

/-- It is a visible character of ASCII and no semicolon. -/
lemma toNat_of_isSafe {c : Char} (h : isSafe c = true) :
    0x21 ≤ c.toNat ∧ c.toNat ≤ 0x7E ∧ c.toNat ≠ 0x3B := by
  have hval : c.val.toNat = c.toNat := rfl
  simp only [isSafe, isUnreserved, Char.isAlphanum, Char.isAlpha, Char.isUpper, Char.isLower,
    Char.isDigit, Bool.or_eq_true, Bool.and_eq_true, decide_eq_true_eq, UInt32.le_iff_toNat_le,
    ge_iff_le, Char.reduceVal, UInt32.reduceToNat, hval] at h
  rcases h with rfl | ((((((((halnum | rfl) | rfl) | rfl) | rfl) | rfl) | rfl) |
    hquote) | rfl) | rfl
  any_goals decide
  · omega
  · omega

/-- **The characters of an encoded text.** -/
theorem isSafe_of_mem_encode {text : List Char} {c : Char} (h : c ∈ encode text) :
    isSafe c = true := by
  have hdigit : ∀ n < 16, isSafe (upperDigit n) = true := by decide
  obtain ⟨d, -, hd⟩ := List.mem_flatMap.1 h
  unfold encodeChar at hd
  split_ifs at hd with hunreserved
  · obtain rfl := List.mem_singleton.1 hd
    simp [isSafe, hunreserved]
  · obtain ⟨b, -, hb⟩ := List.mem_flatMap.1 hd
    simp only [escape, List.mem_cons, List.not_mem_nil, or_false] at hb
    rcases hb with rfl | rfl | rfl
    · rfl
    · have hlt := b.toNat_lt
      exact hdigit _ (by omega)
    · exact hdigit _ (Nat.mod_lt _ (by decide))

end Percent

end Encoding
