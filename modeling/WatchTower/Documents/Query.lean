import Mathlib.Tactic.Common

set_option relaxedAutoImplicit false
set_option autoImplicit false

/-!
# Queries on documents

The filters of a document store. A filter is an object: a list of entries, all of which have to
hold. An entry is a condition on a path, or one of the logical operators over further filters.

## Main definitions

* `Documents.Bson`, `Documents.Doc` — field values and documents.
* `Documents.Operand`, `Documents.Entry`, `Documents.Filter` — the syntax of filters.
* `Documents.Meaning` — what the conditions on a path mean.
* `Documents.Filter.holds` — when a filter matches a document.
* `Documents.Filter.conj` — the intersection of two filters as one object.

## Main results

* `Documents.Filter.holds_append` — the entries of two filters side by side.
* `Documents.Filter.holds_conj` — the intersection matches what both match.
-/

namespace Documents

/-- A field value: an object id, or any other value. -/
inductive Bson (V : Type)
  | objectId (id : ℕ)
  | value (v : V)
  deriving DecidableEq

/-- A document, as the values at its paths. -/
abbrev Doc (V : Type) : Type := String → Option (Bson V)

/-- A condition on a path. -/
inductive Operand (V O : Type)
  /-- The path equals this value. -/
  | eq (v : Bson V)
  /-- The path equals one of these values, `$in`. -/
  | isIn (vs : List (Bson V))
  /-- Any other condition. -/
  | other (o : O)

/-- An entry of a filter. -/
inductive Entry (V O : Type)
  /-- A condition on a path. -/
  | field (path : String) (operand : Operand V O)
  /-- `$and`. -/
  | and (clauses : List (List (Entry V O)))
  /-- `$or`. -/
  | or (clauses : List (List (Entry V O)))
  /-- `$nor`. -/
  | nor (clauses : List (List (Entry V O)))

/-- A filter. -/
abbrev Filter (V O : Type) : Type := List (Entry V O)

variable {V O : Type}

/-- The key of an entry. -/
def Entry.key : Entry V O → String
  | .field path _ => path
  | .and _ => "$and"
  | .or _ => "$or"
  | .nor _ => "$nor"

/-- What the conditions on a path mean. -/
structure Meaning (V O : Type) where
  /-- Whether what is at a path equals a value. An array may equal its elements, and a missing
  path a null value. -/
  equals : Option (Bson V) → Bson V → Bool
  /-- An object id equals itself and no other. -/
  equals_objectId : ∀ id id', equals (some (.objectId id)) (.objectId id') = decide (id = id')
  /-- Any other condition, on a path of a document. -/
  other : String → O → Doc V → Bool

section Semantics

variable (sem : Meaning V O)

/-- Whether a condition holds of a path of a document. -/
def Operand.holds (path : String) (d : Doc V) : Operand V O → Bool
  | .eq v => sem.equals (d path) v
  | .isIn vs => vs.any (sem.equals (d path))
  | .other o => sem.other path o d

mutual

/-- Whether an entry holds of a document. -/
def Entry.holds (d : Doc V) : Entry V O → Bool
  | .field path operand => operand.holds sem path d
  | .and clauses => allHold d clauses
  | .or clauses => anyHolds d clauses
  | .nor clauses => !anyHolds d clauses

/-- Whether a filter matches a document: all its entries hold. -/
def Filter.holds (d : Doc V) : List (Entry V O) → Bool
  | [] => true
  | e :: f => e.holds d && Filter.holds d f

/-- Whether all of several filters match. -/
def allHold (d : Doc V) : List (List (Entry V O)) → Bool
  | [] => true
  | f :: fs => Filter.holds d f && allHold d fs

/-- Whether one of several filters matches. -/
def anyHolds (d : Doc V) : List (List (Entry V O)) → Bool
  | [] => false
  | f :: fs => Filter.holds d f || anyHolds d fs

end

variable {sem} (d : Doc V) (f g : Filter V O)

/-- **Entries side by side**: both filters have to match. -/
theorem Filter.holds_append : Filter.holds sem d (f ++ g) =
    (Filter.holds sem d f && Filter.holds sem d g) := by
  induction f with
  | nil => simp [Filter.holds]
  | cons e f ih => simp [Filter.holds, ih, Bool.and_assoc]

end Semantics

/-- The intersection of two filters as one object: their entries side by side, unless they have a
key in common, which a single object cannot hold twice. -/
def Filter.conj (f g : Filter V O) : Filter V O :=
  if g.any fun e => (f.map Entry.key).contains e.key then [.and [f, g]] else f ++ g

/-- **The intersection matches what both match.** -/
theorem Filter.holds_conj {sem : Meaning V O} (d : Doc V) (f g : Filter V O) :
    Filter.holds sem d (f.conj g) = (Filter.holds sem d f && Filter.holds sem d g) := by
  unfold Filter.conj
  split_ifs
  · simp [Filter.holds, Entry.holds, allHold]
  · exact Filter.holds_append d f g

end Documents
