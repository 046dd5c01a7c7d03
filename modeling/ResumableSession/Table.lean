/-!
Finite maps as lists of pairs in the order of their keys.

A map that is built by `insert`, `modify` and `erase` has one representation, so two maps with
the same bindings are equal.
-/

namespace ResumableSession

abbrev Table (κ α : Type) := List (κ × α)

namespace Table

variable {κ α : Type} [DecidableEq κ]

def find? (key : κ) : Table κ α → Option α
  | [] => none
  | (k, value) :: rest => if k = key then some value else find? key rest

/-- Binds the key at its place in the order.  An earlier binding is replaced. -/
def insert [LT κ] [DecidableLT κ] (key : κ) (value : α) : Table κ α → Table κ α
  | [] => [(key, value)]
  | (k, v) :: rest =>
      if key < k then (key, value) :: (k, v) :: rest
      else if k = key then (key, value) :: rest
      else (k, v) :: insert key value rest

def modify (key : κ) (change : α → α) : Table κ α → Table κ α
  | [] => []
  | (k, value) :: rest => (k, if k = key then change value else value) :: modify key change rest

def erase (key : κ) : Table κ α → Table κ α
  | [] => []
  | (k, value) :: rest => if k = key then erase key rest else (k, value) :: erase key rest

/-- The pairs in the order of their keys.  Of two pairs with one key the later one counts. -/
def ofPairs [LT κ] [DecidableLT κ] (pairs : List (κ × α)) : Table κ α :=
  pairs.foldl (fun table (key, value) => insert key value table) []

theorem find?_insert_self [LT κ] [DecidableLT κ] (key : κ) (value : α) (table : Table κ α) :
    find? key (insert key value table) = some value := by
  induction table with
  | nil => simp [insert, find?]
  | cons entry rest ih =>
      unfold insert
      split
      · simp [find?]
      · split
        · simp [find?]
        · next hk => simp [find?, hk, ih]

theorem find?_insert_ne [LT κ] [DecidableLT κ] {key other : κ} (h : other ≠ key) (value : α)
    (table : Table κ α) : find? other (insert key value table) = find? other table := by
  induction table with
  | nil => simp [insert, find?, h.symm]
  | cons entry rest ih =>
      unfold insert
      split
      · simp [find?, h.symm]
      · split
        · next hk => simp [find?, h.symm, hk]
        · simp [find?, ih]

theorem length_insert [LT κ] [DecidableLT κ] {key : κ} {table : Table κ α}
    (h : find? key table = none) (value : α) :
    (insert key value table).length = table.length + 1 := by
  induction table with
  | nil => rfl
  | cons entry rest ih =>
      by_cases hk : entry.1 = key
      · simp [find?, hk] at h
      · have hrest : find? key rest = none := by simpa [find?, hk] using h
        simp only [insert, hk, if_false]
        split
        · rfl
        · simp [ih hrest]

theorem length_modify (key : κ) (change : α → α) (table : Table κ α) :
    (modify key change table).length = table.length := by
  induction table with
  | nil => rfl
  | cons entry rest ih => simp [modify, ih]

theorem find?_modify_self (key : κ) (change : α → α) (table : Table κ α) :
    find? key (modify key change table) = (find? key table).map change := by
  induction table with
  | nil => rfl
  | cons entry rest ih => by_cases h : entry.1 = key <;> simp [find?, modify, h, ih]

theorem find?_modify_ne {key other : κ} (h : other ≠ key) (change : α → α) (table : Table κ α) :
    find? other (modify key change table) = find? other table := by
  induction table with
  | nil => rfl
  | cons entry rest ih =>
      by_cases hk : entry.1 = key
      · simp [find?, modify, hk, h.symm, ih]
      · simp [find?, modify, hk, ih]

theorem find?_erase_self (key : κ) (table : Table κ α) : find? key (erase key table) = none := by
  induction table with
  | nil => rfl
  | cons entry rest ih => by_cases h : entry.1 = key <;> simp [find?, erase, h, ih]

theorem find?_erase_ne {key other : κ} (h : other ≠ key) (table : Table κ α) :
    find? other (erase key table) = find? other table := by
  induction table with
  | nil => rfl
  | cons entry rest ih =>
      by_cases hk : entry.1 = key
      · simp [find?, erase, hk, h.symm, ih]
      · simp [find?, erase, hk, ih]

end Table

end ResumableSession
