/-!
# Keyed tables

A table holds at most one entry under each key and keeps its entries in the order in which the keys
were first inserted. Inserting under a key that is present replaces the entry where it stands.
-/

set_option autoImplicit false

namespace AspectWeaver

/-- Entries under keys, in the order in which the keys came. -/
structure Table (κ α : Type) where
  entries : List (κ × α)
deriving Inhabited, Repr

namespace Table

variable {κ α : Type} [DecidableEq κ]

def empty : Table κ α := ⟨[]⟩

/-- The entry under a key among a list of entries. -/
def find (key : κ) : List (κ × α) → Option α
  | [] => none
  | (k, a) :: rest => if k = key then some a else find key rest

/-- The entries with one put under a key, in the place of an older one or at the end. -/
def put (key : κ) (value : α) : List (κ × α) → List (κ × α)
  | [] => [(key, value)]
  | (k, a) :: rest => if k = key then (key, value) :: rest else (k, a) :: put key value rest

def get? (t : Table κ α) (key : κ) : Option α := find key t.entries

def contains (t : Table κ α) (key : κ) : Bool := (t.get? key).isSome

def insert (t : Table κ α) (key : κ) (value : α) : Table κ α := ⟨put key value t.entries⟩

def size (t : Table κ α) : Nat := t.entries.length

/-- The keys, in the order in which they came. -/
def keys (t : Table κ α) : List κ := t.entries.map Prod.fst

/-- The entries without their keys, in the order of the keys. -/
def values (t : Table κ α) : List α := t.entries.map Prod.snd

/-- After an entry is put under a key it is found there, and nothing else is found otherwise than before. -/
theorem find_put (key key' : κ) (value : α) (entries : List (κ × α)) :
    find key' (put key value entries) = if key = key' then some value else find key' entries := by
  induction entries with
  | nil => simp [put, find]
  | cons entry rest ih =>
    obtain ⟨k, a⟩ := entry
    by_cases hk : k = key
    · subst hk
      by_cases h : k = key' <;> simp [put, find, h]
    · by_cases h : k = key'
      · subst h
        simp [put, find, hk, Ne.symm hk]
      · simp [put, find, hk, h, ih]

/-- What is found after an insertion: the new entry under its key, all else as before. -/
@[simp] theorem get?_insert (t : Table κ α) (key key' : κ) (value : α) :
    (t.insert key value).get? key' = if key = key' then some value else t.get? key' :=
  find_put key key' value t.entries

/-- Nothing is found exactly under what is no key. -/
theorem get?_eq_none_iff (t : Table κ α) (key : κ) : t.get? key = none ↔ key ∉ t.keys := by
  unfold get? keys
  induction t.entries with
  | nil => simp [find]
  | cons entry rest ih =>
    by_cases hk : entry.1 = key
    · simp [find, hk]
    · simp [find, hk, Ne.symm hk, ih]

/-- Something is found exactly under the keys. -/
theorem mem_keys_iff (t : Table κ α) (key : κ) : key ∈ t.keys ↔ ∃ value, t.get? key = some value := by
  rw [← Option.ne_none_iff_exists', ne_eq, get?_eq_none_iff, Decidable.not_not]

/-- A new key comes last, and one that is present stays where it stands. -/
theorem keys_insert (t : Table κ α) (key : κ) (value : α) :
    (t.insert key value).keys = if key ∈ t.keys then t.keys else t.keys ++ [key] := by
  unfold insert keys
  induction t.entries with
  | nil => rfl
  | cons entry rest ih =>
    obtain ⟨k, a⟩ := entry
    by_cases hk : k = key
    · simp [put, hk]
    · simp only [put, hk, if_false, List.map_cons, ih, List.mem_cons, Ne.symm hk, false_or]
      split <;> rfl

/-- An entry under a new key comes last. -/
theorem values_insert_of_get?_eq_none {t : Table κ α} {key : κ} (h : t.get? key = none) (value : α) :
    (t.insert key value).values = t.values ++ [value] := by
  revert h
  unfold get? insert values
  induction t.entries with
  | nil =>
    intro _
    rfl
  | cons entry rest ih =>
    obtain ⟨k, a⟩ := entry
    by_cases hk : k = key
    · simp [find, hk]
    · intro h
      rw [find, if_neg hk] at h
      simp [put, hk, ih h]

/-- Nothing is found in the empty table. -/
@[simp] theorem get?_empty (key : κ) : (empty : Table κ α).get? key = none := rfl

end Table

end AspectWeaver
