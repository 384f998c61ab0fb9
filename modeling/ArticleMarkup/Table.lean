/-!
# Finite tables

A table assigns values to texts. The entries are kept in the order of their keys, so two tables
built in different orders print alike.

## Main statements

- `Table.find?_insert` — inserting changes the value at one key and nowhere else
-/

namespace ArticleMarkup

/-- Entries of a table, in the order of their keys. -/
abbrev Table (α : Type) := List (String × α)

namespace Table

variable {α : Type}

/-- The value stored under `key`, if there is one. -/
def find? (key : String) : Table α → Option α
  | [] => none
  | (k, v) :: rest => if k = key then some v else find? key rest

/-- Some value is stored under `key`. -/
def has (key : String) (t : Table α) : Bool :=
  (t.find? key).isSome

/-- Store `value` under `key`, in place of what was there. -/
def insert (key : String) (value : α) : Table α → Table α
  | [] => [(key, value)]
  | (k, v) :: rest =>
    if k = key then (key, value) :: rest
    else if key < k then (key, value) :: (k, v) :: rest
    else (k, v) :: insert key value rest

/-- Change the value under `key` by `f`, starting from `fallback` when there is none. -/
def alter (key : String) (fallback : α) (f : α → α) (t : Table α) : Table α :=
  t.insert key (f ((t.find? key).getD fallback))

/-- The table of the given entries; of two entries with one key the later one stands. -/
def ofList (entries : List (String × α)) : Table α :=
  entries.foldl (fun t e => t.insert e.1 e.2) []

@[simp]
theorem find?_nil (key : String) : find? key ([] : Table α) = none := rfl

/-- Inserting sets the value at the key and keeps all others. -/
theorem find?_insert (key other : String) (value : α) (t : Table α) :
    (insert key value t).find? other = if key = other then some value else t.find? other := by
  induction t with
  | nil => simp [insert, find?]
  | cons e rest ih =>
    obtain ⟨k, v⟩ := e
    unfold insert
    split
    · next hk => subst hk; by_cases ho : k = other <;> simp [find?, ho]
    · next hk =>
      split
      · by_cases ho : key = other <;> simp [find?, ho]
      · by_cases ho : key = other
        · subst ho
          simp [find?, hk, ih]
        · by_cases hko : k = other <;> simp [find?, ho, hko, ih]

end Table

/-- The texts in order, each once. -/
def sortedDistinct (texts : List String) : List String :=
  (Table.ofList (texts.map fun t => (t, ()))).map Prod.fst

end ArticleMarkup
