/-!
Tables: lists of keys and values in the order in which the keys came first.
-/

namespace ClientForge.Table

variable {κ α : Type} [DecidableEq κ]

/-- Puts a value under a key: in the place of the old value if there is one, else at the end. -/
def insert (key : κ) (value : α) : List (κ × α) → List (κ × α)
  | [] => [(key, value)]
  | (k, v) :: rest => if k = key then (k, value) :: rest else (k, v) :: insert key value rest

/-- The table of the given rows; of rows with one key the last counts. -/
def ofRows (rows : List (κ × α)) : List (κ × α) :=
  rows.foldl (fun table (k, v) => insert k v table) []

theorem lookup_insert [BEq κ] [LawfulBEq κ] (key : κ) (value : α) (table : List (κ × α)) (k : κ) :
    (insert key value table).lookup k = if k = key then some value else table.lookup k := by
  induction table with
  | nil => grind [insert]
  | cons row rest ih =>
    obtain ⟨k', v'⟩ := row
    grind [insert]

/-- A key without rows keeps its value. -/
theorem lookup_foldl_insert [BEq κ] [LawfulBEq κ] (rows table : List (κ × α)) (k : κ) :
    (rows.foldl (fun table (k, v) => insert k v table) table).lookup k =
      (rows.reverse.lookup k).or (table.lookup k) := by
  induction rows generalizing table with
  | nil => rfl
  | cons row rows ih =>
    obtain ⟨k', v'⟩ := row
    rw [List.foldl_cons, ih, lookup_insert, List.reverse_cons, List.lookup_append, Option.or_assoc]
    congr 1
    by_cases hk : k = k'
    · simp [hk]
    · have hbeq : (k == k') = false := by simpa using hk
      simp [List.lookup_cons, hk, hbeq]

/-- Of rows with one key the last counts. -/
theorem lookup_ofRows [BEq κ] [LawfulBEq κ] (rows : List (κ × α)) (k : κ) :
    (ofRows rows).lookup k = rows.reverse.lookup k := by
  rw [ofRows, lookup_foldl_insert, List.lookup_nil, Option.or_none]

theorem keys_insert (key : κ) (value : α) (table : List (κ × α)) :
    (insert key value table).map Prod.fst =
      if key ∈ table.map Prod.fst then table.map Prod.fst else table.map Prod.fst ++ [key] := by
  induction table with
  | nil => rfl
  | cons row rest ih => grind [insert]

/-- Rows with the same keys, put into tables with the same keys. -/
theorem keys_foldl_insert {rows rows' table table' : List (κ × α)}
    (hrows : rows.map Prod.fst = rows'.map Prod.fst)
    (htable : table.map Prod.fst = table'.map Prod.fst) :
    (rows.foldl (fun table (k, v) => insert k v table) table).map Prod.fst =
      (rows'.foldl (fun table (k, v) => insert k v table) table').map Prod.fst := by
  induction rows generalizing rows' table table' with
  | nil =>
    obtain rfl : rows' = [] := by simpa using hrows.symm
    exact htable
  | cons row rows ih =>
    cases rows' with
    | nil => cases hrows
    | cons row' rows' =>
      obtain ⟨hkey, hrest⟩ := List.cons_eq_cons.mp hrows
      have hinsert : (insert row.1 row.2 table).map Prod.fst =
          (insert row'.1 row'.2 table').map Prod.fst := by
        rw [keys_insert, keys_insert, htable, hkey]
      exact (ih hrest hinsert :)

theorem lookup_eq_filter [BEq κ] [LawfulBEq κ] (rows : List (κ × α)) (k : κ) :
    rows.lookup k = (rows.filter (·.1 = k)).head?.map Prod.snd := by
  induction rows with
  | nil => rfl
  | cons row rows ih =>
    obtain ⟨k', v⟩ := row
    by_cases hk : k' = k
    · simp [hk]
    · have hbeq : (k == k') = false := by simpa using fun h => hk h.symm
      rw [List.lookup_cons, hbeq, ih]
      simp [hk]

theorem lookup_reverse (rows : List (κ × α)) [BEq κ] [LawfulBEq κ] (k : κ) :
    rows.reverse.lookup k = (rows.filter (·.1 = k)).getLast?.map Prod.snd := by
  rw [lookup_eq_filter, List.filter_reverse, List.head?_reverse]

omit [DecidableEq κ] in
theorem lookup_map {β : Type} [BEq κ] (f : α → β) (rows : List (κ × α)) (k : κ) :
    (rows.map fun (k, a) => (k, f a)).lookup k = (rows.lookup k).map f := by
  induction rows with
  | nil => rfl
  | cons row rows ih =>
    rw [List.map_cons, List.lookup_cons, List.lookup_cons]
    cases k == row.1
    · exact ih
    · rfl

end ClientForge.Table
