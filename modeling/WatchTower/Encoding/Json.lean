import Mathlib.Data.List.Basic
import Mathlib.Data.Rat.Defs
import Mathlib.Tactic.Common
import WatchTower.Encoding.Unicode

set_option relaxedAutoImplicit false
set_option autoImplicit false

/-!
# JSON

Values with strings of arbitrary code units, and what `JSON.stringify` and `JSON.parse` do to
them. A text is a list of characters: `stringify` escapes the surrogates that have no partner, so
what it returns is one. Numbers are exact; how they are written is a parameter.

## Main definitions

* `Encoding.Json` — values. The members of an object are in the order of its properties.
* `Encoding.Json.stringify`, `Encoding.Json.parse`.
* `Encoding.Json.record` — an object that holds strings.

## Main results

* `Encoding.Json.parseString_quote` — a quoted string is read back, whatever its code units.
* `Encoding.Json.parse_stringify_record` — so is an object that holds strings.
-/

namespace Encoding

/-- The value of a hexadecimal digit, given by its code, in either case. -/
def hexValue (n : ℕ) : Option ℕ :=
  if 0x30 ≤ n ∧ n ≤ 0x39 then some (n - 0x30)
  else if 0x61 ≤ n ∧ n ≤ 0x66 then some (n - 0x61 + 10)
  else if 0x41 ≤ n ∧ n ≤ 0x46 then some (n - 0x41 + 10)
  else none

/-- A JSON value. -/
inductive Json
  | null
  | bool (b : Bool)
  | num (q : ℚ)
  | str (s : Units)
  | arr (elements : List Json)
  | obj (members : List (Units × Json))

namespace Json

/-! ## Writing -/

/-- A hexadecimal digit. -/
def hexDigit (n : ℕ) : Char := Nat.digitChar n

/-- A code unit, escaped by its number. -/
def escapeNumber (u : UInt16) : List Char :=
  ['\\', 'u', hexDigit (u.toNat / 4096), hexDigit (u.toNat / 256 % 16),
    hexDigit (u.toNat / 16 % 16), hexDigit (u.toNat % 16)]

/-- A code unit that is no part of a surrogate pair. -/
def quoteUnit (u : UInt16) : List Char :=
  if u = 0x22 then ['\\', '"']
  else if u = 0x5C then ['\\', '\\']
  else if u = 0x8 then ['\\', 'b']
  else if u = 0xC then ['\\', 'f']
  else if u = 0xA then ['\\', 'n']
  else if u = 0xD then ['\\', 'r']
  else if u = 0x9 then ['\\', 't']
  else if u.toNat < 0x20 || isHigh u || isLow u then escapeNumber u
  else [charOf u]

/-- The code units of a string, quoted. -/
def quoteUnits : Units → List Char
  | [] => []
  | [u] => quoteUnit u
  | hi :: lo :: s =>
    if isHigh hi && isLow lo then pairChar hi lo :: quoteUnits s
    else quoteUnit hi ++ quoteUnits (lo :: s)

/-- A string in quotes. -/
def quote (s : Units) : List Char := '"' :: (quoteUnits s ++ ['"'])

variable (number : ℚ → List Char)

mutual

/-- `JSON.stringify(value)`, without white space. -/
def stringify : Json → List Char
  | .null => "null".toList
  | .bool true => "true".toList
  | .bool false => "false".toList
  | .num q => number q
  | .str s => quote s
  | .arr elements => '[' :: (stringifyElements elements ++ [']'])
  | .obj members => '{' :: (stringifyMembers members ++ ['}'])

/-- The elements of an array. -/
def stringifyElements : List Json → List Char
  | [] => []
  | [v] => stringify v
  | v :: elements => stringify v ++ ',' :: stringifyElements elements

/-- One member of an object. -/
def stringifyMember : Units × Json → List Char
  | (key, v) => quote key ++ ':' :: stringify v

/-- The members of an object. -/
def stringifyMembers : List (Units × Json) → List Char
  | [] => []
  | [m] => stringifyMember m
  | m :: members => stringifyMember m ++ ',' :: stringifyMembers members

end

/-! ## Reading -/

/-- The code unit of an escape with a letter. -/
def escapeValue (c : Char) : Option UInt16 :=
  if c = '"' then some 0x22
  else if c = '\\' then some 0x5C
  else if c = '/' then some 0x2F
  else if c = 'b' then some 0x8
  else if c = 'f' then some 0xC
  else if c = 'n' then some 0xA
  else if c = 'r' then some 0xD
  else if c = 't' then some 0x9
  else none

/-- The rest of a string, after its opening quote, and what follows it. -/
def parseString : List Char → Option (Units × List Char)
  | [] => none
  | '"' :: s => some ([], s)
  | '\\' :: 'u' :: a :: b :: c :: d :: s => do
    let a ← hexValue a.toNat
    let b ← hexValue b.toNat
    let c ← hexValue c.toNat
    let d ← hexValue d.toNat
    let (units, s) ← parseString s
    return (.ofNat (a * 4096 + b * 256 + c * 16 + d) :: units, s)
  | '\\' :: c :: s => do
    let u ← escapeValue c
    let (units, s) ← parseString s
    return (u :: units, s)
  | c :: s =>
    if c.toNat < 0x20 ∨ c = '\\' then none
    else do
      let (units, s) ← parseString s
      return (unitsOf c ++ units, s)

/-- White space. -/
def isSpace (c : Char) : Bool := c = ' ' || c = '\t' || c = '\n' || c = '\r'

/-- What follows the white space at the start. -/
def skip (s : List Char) : List Char := s.dropWhile isSpace

/-- A keyword, of which the first character has been read. -/
def parseKeyword (word : List Char) (v : Json) (s : List Char) : Option (Json × List Char) :=
  if word.isPrefixOf s then some (v, s.drop word.length) else none

/-- The number that decimal digits denote. -/
def decimal (digits : List Char) : ℕ := digits.foldl (fun n c => n * 10 + (c.toNat - 0x30)) 0

/-- The fraction of a number, if it has one. -/
def parseFraction : List Char → Option (List Char × List Char)
  | '.' :: s =>
    let (digits, s) := s.span Char.isDigit
    if digits = [] then none else some (digits, s)
  | s => some ([], s)

/-- The sign of an exponent. -/
def parseSign : List Char → Bool × List Char
  | '-' :: s => (true, s)
  | '+' :: s => (false, s)
  | s => (false, s)

/-- The exponent of a number, if it has one. -/
def parseExponent : List Char → Option (ℤ × List Char)
  | c :: s =>
    if c = 'e' ∨ c = 'E' then
      let (negative, s) := parseSign s
      let (digits, s) := s.span Char.isDigit
      if digits = [] then none
      else some (if negative then -(decimal digits : ℤ) else decimal digits, s)
    else some (0, c :: s)
  | [] => some (0, [])

/-- A number. -/
def parseNumber (s : List Char) : Option (Json × List Char) := do
  let (negative, s) := match s with
    | '-' :: s => (true, s)
    | s => (false, s)
  let (whole, s) := s.span Char.isDigit
  if whole = [] ∨ whole.head? = some '0' ∧ whole.length ≠ 1 then none
  else
    let (fraction, s) ← parseFraction s
    let (exponent, s) ← parseExponent s
    let q : ℚ := decimal (whole ++ fraction) * (10 : ℚ) ^ (exponent - fraction.length)
    return (.num (if negative then -q else q), s)

/-- Set a property of an object: a new one comes last. -/
def setMember (members : List (Units × Json)) (key : Units) (v : Json) : List (Units × Json) :=
  if members.any fun m => m.1 = key then
    members.map fun m => if m.1 = key then (key, v) else m
  else members ++ [(key, v)]

mutual

/-- A value, and what follows it. -/
def parseValue : ℕ → List Char → Option (Json × List Char)
  | 0, _ => none
  | fuel + 1, s =>
    match skip s with
    | 'n' :: s => parseKeyword "ull".toList .null s
    | 't' :: s => parseKeyword "rue".toList (.bool true) s
    | 'f' :: s => parseKeyword "alse".toList (.bool false) s
    | '"' :: s => do
      let (units, s) ← parseString s
      return (.str units, s)
    | '[' :: s =>
      match skip s with
      | ']' :: s => some (.arr [], s)
      | s => parseElements fuel [] s
    | '{' :: s =>
      match skip s with
      | '}' :: s => some (.obj [], s)
      | s => parseMembers fuel [] s
    | s => parseNumber s

/-- The rest of an array, from an element on. -/
def parseElements : ℕ → List Json → List Char → Option (Json × List Char)
  | 0, _, _ => none
  | fuel + 1, elements, s => do
    let (v, s) ← parseValue fuel s
    match skip s with
    | ',' :: s => parseElements fuel (elements ++ [v]) s
    | ']' :: s => some (.arr (elements ++ [v]), s)
    | _ => none

/-- The rest of an object, from a member on. -/
def parseMembers : ℕ → List (Units × Json) → List Char → Option (Json × List Char)
  | 0, _, _ => none
  | fuel + 1, members, s =>
    match skip s with
    | '"' :: s => do
      let (key, s) ← parseString s
      match skip s with
      | ':' :: s => do
        let (v, s) ← parseValue fuel s
        match skip s with
        | ',' :: s => parseMembers fuel (setMember members key v) s
        | '}' :: s => some (.obj (setMember members key v), s)
        | _ => none
      | _ => none
    | _ => none

end

/-- `JSON.parse(text)`, `none` for a syntax error. Every call reads a character or opens a nested
value that does, so the fuel is enough. -/
def parse (s : List Char) : Option Json :=
  match parseValue (2 * s.length + 1) s with
  | some (v, s) => if skip s = [] then some v else none
  | none => none

/-! ## Strings -/

/-- A hexadecimal digit is read back. -/
lemma hexValue_hexDigit {n : ℕ} (h : n < 16) : hexValue (hexDigit n).toNat = some n := by
  have hall : ∀ n < 16, hexValue (hexDigit n).toNat = some n := by decide
  exact hall n h

/-- A character that needs no escape is read as its code units. -/
lemma parseString_char {c : Char} {s r : List Char} {us : Units} (hquote : c ≠ '"')
    (hslash : c ≠ '\\') (hspace : 0x20 ≤ c.toNat) (h : parseString s = some (us, r)) :
    parseString (c :: s) = some (unitsOf c ++ us, r) := by
  have hplain : ¬(c.toNat < 0x20 ∨ c = '\\') := by
    rintro (hlt | hc)
    · omega
    · exact hslash hc
  rw [parseString]
  · rw [if_neg hplain, h]
    rfl
  · exact hquote
  · exact fun _ _ _ _ _ hc => absurd hc hslash
  · exact fun _ _ hc => absurd hc hslash

/-- An escape with a letter is read. -/
lemma parseString_escape {c : Char} {u : UInt16} {s r : List Char} {us : Units} (hc : c ≠ 'u')
    (hu : escapeValue c = some u) (h : parseString s = some (us, r)) :
    parseString ('\\' :: c :: s) = some (u :: us, r) := by
  rw [parseString]
  · rw [hu, h]
    rfl
  · exact fun _ _ _ _ _ hcu => absurd hcu hc

/-- An escape with a number is read. -/
lemma parseString_escapeNumber (u : UInt16) {s r : List Char} {us : Units}
    (h : parseString s = some (us, r)) : parseString (escapeNumber u ++ s) = some (u :: us, r) := by
  have hu := u.toNat_lt
  have hnum : u.toNat / 4096 * 4096 + u.toNat / 256 % 16 * 256 + u.toNat / 16 % 16 * 16 +
      u.toNat % 16 = u.toNat := by omega
  simp only [escapeNumber, List.cons_append, List.nil_append]
  rw [parseString, hexValue_hexDigit (by omega), hexValue_hexDigit (by omega),
    hexValue_hexDigit (by omega), hexValue_hexDigit (by omega), h]
  simp only [Option.bind_eq_bind, Option.bind_some, hnum, UInt16.ofNat_toNat, pure]

/-- A code unit is read back. -/
lemma parseString_quoteUnit {u : UInt16} {s r : List Char} {us : Units}
    (h : parseString s = some (us, r)) : parseString (quoteUnit u ++ s) = some (u :: us, r) := by
  unfold quoteUnit
  split_ifs with hquote hslash hb hf hn hr ht hnumber
  · exact parseString_escape (by decide) (hquote ▸ rfl) h
  · exact parseString_escape (by decide) (hslash ▸ rfl) h
  · exact parseString_escape (by decide) (hb ▸ rfl) h
  · exact parseString_escape (by decide) (hf ▸ rfl) h
  · exact parseString_escape (by decide) (hn ▸ rfl) h
  · exact parseString_escape (by decide) (hr ▸ rfl) h
  · exact parseString_escape (by decide) (ht ▸ rfl) h
  · exact parseString_escapeNumber u h
  · simp only [Bool.or_eq_true, not_or, Bool.not_eq_true, decide_eq_true_eq, not_lt] at hnumber
    have hchar := toNat_charOf hnumber.1.2 hnumber.2
    have hne : ∀ {c : Char}, u ≠ .ofNat c.toNat → charOf u ≠ c := by
      rintro c hu rfl
      rw [hchar, UInt16.ofNat_toNat] at hu
      exact hu rfl
    rw [List.singleton_append, parseString_char (hne hquote) (hne hslash) (by omega) h,
      unitsOf_charOf hnumber.1.2 hnumber.2]
    rfl

/-- **A quoted string is read back**, whatever its code units. -/
theorem parseString_quote (s : Units) (r : List Char) :
    parseString (quoteUnits s ++ '"' :: r) = some (s, r) := by
  induction s using quoteUnits.induct with
  | case1 => rfl
  | case2 u => exact parseString_quoteUnit rfl
  | case3 hi lo s hpair ih =>
    rw [Bool.and_eq_true] at hpair
    have hchar := toNat_pairChar hpair.1 hpair.2
    rw [quoteUnits, if_pos (by simp [hpair]), List.cons_append,
      parseString_char ?_ ?_ (by omega) ih, unitsOf_pairChar hpair.1 hpair.2]
    · rfl
    · intro hc
      rw [hc] at hchar
      have h34 : '"'.toNat = 34 := rfl
      omega
    · intro hc
      rw [hc] at hchar
      have h92 : '\\'.toNat = 92 := rfl
      omega
  | case4 hi lo s hpair ih =>
    rw [quoteUnits, if_neg hpair, List.append_assoc]
    exact parseString_quoteUnit ih

/-! ## Objects that hold strings -/

/-- The members of an object that holds strings. -/
def recordMembers (m : List (Units × Units)) : List (Units × Json) :=
  m.map fun entry => (entry.1, .str entry.2)

/-- An object that holds strings. -/
def record (m : List (Units × Units)) : Json := .obj (recordMembers m)

/-- It determines its members. -/
lemma record_injective : Function.Injective record := by
  intro m m' h
  refine List.map_injective_iff.2 ?_ (obj.inj h)
  rintro ⟨key, v⟩ ⟨key', v'⟩ hentry
  obtain ⟨hkey, hvalue⟩ := Prod.mk.inj hentry
  exact Prod.ext hkey (str.inj hvalue)

/-- A new property comes last. -/
lemma setMember_of_not_mem {members : List (Units × Json)} {key : Units}
    (h : key ∉ members.map Prod.fst) (v : Json) :
    setMember members key v = members ++ [(key, v)] := by
  refine if_neg fun hany => h ?_
  obtain ⟨m, hm, hkey⟩ := List.any_eq_true.1 hany
  exact List.mem_map.2 ⟨m, hm, of_decide_eq_true hkey⟩

/-- One member is read, and what follows it decides how to go on. -/
lemma parseMembers_member (fuel : ℕ) (members : List (Units × Json)) (key v : Units)
    (s : List Char) :
    parseMembers (fuel + 2) members (stringifyMember number (key, .str v) ++ s) =
      match skip s with
      | ',' :: s => parseMembers (fuel + 1) (setMember members key (.str v)) s
      | '}' :: s => some (.obj (setMember members key (.str v)), s)
      | _ => none := by
  have hskip : ∀ s, skip ('"' :: s) = '"' :: s := fun _ => rfl
  have hcolon : ∀ s, skip (':' :: s) = ':' :: s := fun _ => rfl
  have hvalue : parseValue (fuel + 1) ('"' :: (quoteUnits v ++ '"' :: s)) = some (.str v, s) := by
    rw [parseValue, hskip]
    simp [parseString_quote]
  have htext : stringifyMember number (key, .str v) ++ s =
      '"' :: (quoteUnits key ++ '"' :: ':' :: '"' :: (quoteUnits v ++ '"' :: s)) := by
    simp [stringifyMember, stringify, quote]
  rw [htext, parseMembers, hskip]
  simp only [parseString_quote, hcolon, hvalue, Option.bind_eq_bind, Option.bind_some]

/-- **The members of an object that holds strings** are read back. -/
lemma parseMembers_record {m : List (Units × Units)} (hm : m ≠ []) {fuel : ℕ}
    (hfuel : m.length < fuel) {members : List (Units × Json)}
    (hkeys : (members.map Prod.fst ++ m.map Prod.fst).Nodup) (r : List Char) :
    parseMembers fuel members (stringifyMembers number (recordMembers m) ++ '}' :: r) =
      some (.obj (members ++ recordMembers m), r) := by
  induction m generalizing fuel members with
  | nil => exact absurd rfl hm
  | cons entry m ih =>
    obtain ⟨key, v⟩ := entry
    obtain ⟨fuel, rfl⟩ : ∃ k, fuel = k + 2 := ⟨fuel - 2, by rw [List.length_cons] at hfuel; omega⟩
    have hnew : key ∉ members.map Prod.fst := by
      intro hmem
      exact (List.nodup_append.1 hkeys).2.2 key hmem key (by simp) rfl
    cases m with
    | nil =>
      have hbrace : skip ('}' :: r) = '}' :: r := rfl
      have htext : stringifyMembers number (recordMembers [(key, v)]) =
          stringifyMember number (key, .str v) := by
        rw [recordMembers, List.map_singleton, stringifyMembers]
      rw [htext, parseMembers_member, hbrace, setMember_of_not_mem hnew]
      rfl
    | cons entry' m =>
      have htext : stringifyMembers number (recordMembers ((key, v) :: entry' :: m)) ++ '}' :: r =
          stringifyMember number (key, .str v) ++
            ',' :: (stringifyMembers number (recordMembers (entry' :: m)) ++ '}' :: r) := by
        simp [recordMembers, stringifyMembers]
      have hcomma : ∀ s, skip (',' :: s) = ',' :: s := fun _ => rfl
      have hkeys' : ((members ++ [(key, Json.str v)]).map Prod.fst ++
          (entry' :: m).map Prod.fst).Nodup := by
        simpa using hkeys
      rw [htext, parseMembers_member, hcomma, setMember_of_not_mem hnew]
      refine Eq.trans (ih (by simp) (by simp only [List.length_cons] at hfuel ⊢; omega) hkeys') ?_
      simp [recordMembers]

/-- The text of an object is longer than the number of its members. -/
lemma length_le_stringifyMembers (members : List (Units × Json)) :
    members.length ≤ (stringifyMembers number members).length := by
  induction members with
  | nil => exact Nat.zero_le _
  | cons m members ih =>
    have hmember : 1 ≤ (stringifyMember number m).length := by
      obtain ⟨key, v⟩ := m
      simp [stringifyMember, quote]
    cases members with
    | nil => simpa [stringifyMembers] using hmember
    | cons m' members =>
      simp only [stringifyMembers, List.length_append, List.length_cons] at ih ⊢
      omega

/-- **An object that holds strings is read back.** -/
theorem parse_stringify_record {m : List (Units × Units)} (hkeys : (m.map Prod.fst).Nodup) :
    parse (stringify number (record m)) = some (record m) := by
  have hbrace : ∀ s, skip ('{' :: s) = '{' :: s := fun _ => rfl
  have htext : stringify number (record m) =
      '{' :: (stringifyMembers number (recordMembers m) ++ ['}']) := by
    rw [record, stringify]
  have hlength : m.length ≤ (stringifyMembers number (recordMembers m)).length := by
    simpa [recordMembers] using length_le_stringifyMembers number (recordMembers m)
  have hvalue : parseValue (2 * (stringify number (record m)).length + 1)
      (stringify number (record m)) = some (record m, []) := by
    rw [htext, parseValue, hbrace]
    cases m with
    | nil => rfl
    | cons entry m =>
      have hquote : ∃ s, stringifyMembers number (recordMembers (entry :: m)) = '"' :: s := by
        cases m <;> simp [recordMembers, stringifyMembers, stringifyMember, quote]
      have hfuel : (entry :: m).length < 2 * ('{' :: (stringifyMembers number
          (recordMembers (entry :: m)) ++ ['}'])).length := by
        simp only [List.length_cons, List.length_append] at hlength ⊢
        omega
      have hmembers := parseMembers_record number (List.cons_ne_nil entry m) hfuel
        (show (List.map Prod.fst [] ++ (entry :: m).map Prod.fst).Nodup from hkeys) []
      obtain ⟨s, hs⟩ := hquote
      rw [hs] at hmembers ⊢
      exact hmembers
  rw [parse, hvalue]
  rfl

end Json

end Encoding
