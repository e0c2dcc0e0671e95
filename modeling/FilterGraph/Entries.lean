/-!
# Entries in order of insertion

Options, environment variables and named values are lists of entries with a key. `put` gives a
value to a key: a new key goes to the end, a key that is there keeps its place and takes the new
value.
-/

set_option autoImplicit false

namespace FilterGraph

/-- Values under text keys, in order of insertion. -/
abbrev Entries (α : Type) := List (String × α)

namespace Entries

variable {α : Type}

/-- The value of a key. -/
def find? (key : String) : Entries α → Option α
  | [] => none
  | (k, v) :: rest => if k = key then some v else find? key rest

/-- Give a key a value, at its old place or else at the end. -/
def put (key : String) (value : α) : Entries α → Entries α
  | [] => [(key, value)]
  | (k, v) :: rest => if k = key then (k, value) :: rest else (k, v) :: put key value rest

/-- Take a key out. -/
def erase (key : String) (entries : Entries α) : Entries α := entries.filter fun e => e.1 ≠ key

/-- Put some pairs one after the other. -/
def ofPairs (pairs : List (String × α)) : Entries α :=
  pairs.foldl (fun entries e => put e.1 e.2 entries) []

/-- A key has the value that has just been put there. -/
theorem find?_put_self (key : String) (value : α) (entries : Entries α) :
    find? key (put key value entries) = some value := by
  induction entries with
  | nil => simp [put, find?]
  | cons e rest ih =>
    obtain ⟨k, v⟩ := e
    by_cases h : k = key <;> simp [put, find?, h, ih]

/-- Putting a value under one key changes no other key. -/
theorem find?_put_ne {key other : String} (h : other ≠ key) (value : α) (entries : Entries α) :
    find? other (put key value entries) = find? other entries := by
  induction entries with
  | nil => simp [put, find?, Ne.symm h]
  | cons e rest ih =>
    obtain ⟨k, v⟩ := e
    by_cases hk : k = key
    · simp [put, find?, hk, Ne.symm h]
    · simp [put, find?, hk, ih]

/-- The value that is found for a key stands in an entry with that key. -/
theorem mem_of_find?_eq_some {key : String} {value : α} {entries : Entries α}
    (h : find? key entries = some value) : (key, value) ∈ entries := by
  induction entries with
  | nil => exact nomatch h
  | cons e rest ih =>
    obtain ⟨k, v⟩ := e
    rw [find?] at h
    split at h
    · rename_i hkey
      obtain rfl := Option.some.inj h
      rw [hkey]
      exact List.mem_cons_self
    · exact List.mem_cons_of_mem _ (ih h)

/-- Putting brings in the new value only. -/
theorem eq_or_mem_of_mem_put {key : String} {value : α} {entries : Entries α} {e : String × α}
    (h : e ∈ put key value entries) : e.2 = value ∨ e ∈ entries := by
  induction entries with
  | nil =>
    rw [List.mem_singleton.1 h]
    exact .inl rfl
  | cons first rest ih =>
    obtain ⟨k, v⟩ := first
    rw [put] at h
    split at h
    · rcases List.mem_cons.1 h with rfl | h
      · exact .inl rfl
      · exact .inr (List.mem_cons_of_mem _ h)
    · rcases List.mem_cons.1 h with rfl | h
      · exact .inr List.mem_cons_self
      · exact (ih h).imp_right (List.mem_cons_of_mem _)

/-- Looking up a key in changed entries is changing what is found under the key. -/
theorem find?_map {β : Type} (key : String) (f : α → β) (entries : Entries α) :
    find? key (List.map (fun e => (e.1, f e.2)) entries) = (find? key entries).map f := by
  induction entries with
  | nil => rfl
  | cons e rest ih =>
    obtain ⟨k, v⟩ := e
    by_cases hk : k = key <;> simp [find?, hk, ih]

/-- Leaving out entries with other keys does not change what is found for a key. -/
theorem find?_filter {key : String} {keys : List String} (h : key ∈ keys) (entries : Entries α) :
    find? key (List.filter (·.1 ∈ keys) entries) = find? key entries := by
  induction entries with
  | nil => rfl
  | cons e rest ih =>
    obtain ⟨k, v⟩ := e
    by_cases hk : k = key
    · subst hk
      simp [find?, h]
    · by_cases hmem : k ∈ keys <;> simp [find?, hk, hmem, ih]

end Entries

end FilterGraph
