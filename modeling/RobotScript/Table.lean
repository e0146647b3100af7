/-!
# Tables

A table maps keys to values and remembers the order in which its keys came, the newest first.
Writing to a known key replaces its value in place, so no key stands in a table twice. `get?_insert`
and `get?_erase` say what reading gives after a change.
-/

namespace RobotScript

/-- A table from keys to values, as a list of its entries. -/
structure Table (κ α : Type) where
  entries : List (κ × α) := []
deriving DecidableEq, Repr, Inhabited

namespace Table

variable {κ α : Type}

/-- The table without entries. -/
def empty : Table κ α := ⟨[]⟩

variable [DecidableEq κ]

/-- The entries with a new value in the place of the first one for `key`. -/
def replace (key : κ) (value : α) : List (κ × α) → List (κ × α)
  | [] => []
  | entry :: rest => if entry.1 = key then (key, value) :: rest else entry :: replace key value rest

/-- The value of the first entry for `key`. -/
def find? (key : κ) : List (κ × α) → Option α
  | [] => none
  | entry :: rest => if entry.1 = key then some entry.2 else find? key rest

/-- The value of a key. -/
def get? (table : Table κ α) (key : κ) : Option α :=
  find? key table.entries

/-- The table with a value for a key. -/
def insert (table : Table κ α) (key : κ) (value : α) : Table κ α :=
  match table.get? key with
  | some _ => ⟨replace key value table.entries⟩
  | none => ⟨(key, value) :: table.entries⟩

/-- The table without a key. -/
def erase (table : Table κ α) (key : κ) : Table κ α :=
  ⟨table.entries.filter fun entry => entry.1 ≠ key⟩

@[simp] theorem get?_empty (key : κ) : (empty : Table κ α).get? key = none := rfl

theorem find?_replace {key : κ} {old : α} {entries : List (κ × α)}
    (found : find? key entries = some old) (other : κ) (value : α) :
    find? other (replace key value entries) = if other = key then some value else
      find? other entries := by
  induction entries with
  | nil => exact nomatch found
  | cons entry rest ih => grind [replace, find?]

theorem find?_filter_ne (key other : κ) (entries : List (κ × α)) :
    find? other (entries.filter fun entry => entry.1 ≠ key) =
      if other = key then none else find? other entries := by
  induction entries with
  | nil => grind [find?]
  | cons entry rest ih => grind [find?]

/-- After a write, its key has the new value and every other key the old one. -/
theorem get?_insert (table : Table κ α) (key other : κ) (value : α) :
    (table.insert key value).get? other = if other = key then some value else table.get? other := by
  simp only [insert]
  split
  · rename_i old found
    exact find?_replace found other value
  · grind [get?, find?]

/-- After an erasure, its key has no value and every other key the old one. -/
theorem get?_erase (table : Table κ α) (key other : κ) :
    (table.erase key).get? other = if other = key then none else table.get? other :=
  find?_filter_ne key other table.entries

end Table

end RobotScript
