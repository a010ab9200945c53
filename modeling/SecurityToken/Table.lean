/-!
Tables: associations from texts to values in the order of first insertion, each key once.
Main statement: what a look-up finds after an insertion.
-/

namespace SecurityToken

/-- Values under distinct text keys, in the order in which the keys first came. -/
structure Table (α : Type) where
  entries : List (String × α)
  nodup : (entries.map Prod.fst).Nodup

namespace Table

variable {α β : Type}

def empty : Table α := ⟨[], by simp⟩

instance : EmptyCollection (Table α) := ⟨empty⟩

instance : Inhabited (Table α) := ⟨empty⟩

instance [BEq α] : BEq (Table α) := ⟨fun left right => left.entries == right.entries⟩

def keys (table : Table α) : List String :=
  table.entries.map Prod.fst

def size (table : Table α) : Nat :=
  table.entries.length

def get? (table : Table α) (key : String) : Option α :=
  table.entries.lookup key

def contains (table : Table α) (key : String) : Bool :=
  table.keys.contains key

def replace (key : String) (value : α) (entries : List (String × α)) : List (String × α) :=
  entries.map fun entry => if entry.1 = key then (entry.1, value) else entry

theorem map_fst_replace (key : String) (value : α) (entries : List (String × α)) :
    (replace key value entries).map Prod.fst = entries.map Prod.fst := by
  simp only [replace, List.map_map]
  apply List.map_congr_left
  intro entry _
  by_cases heq : entry.1 = key <;> simp [heq]

/-- Puts a value under a key. A known key keeps its position, a new one goes last. -/
def insert (table : Table α) (key : String) (value : α) : Table α :=
  if h : key ∈ table.keys then
    ⟨replace key value table.entries, by rw [map_fst_replace]; exact table.nodup⟩
  else
    ⟨table.entries ++ [(key, value)], by
      have := table.nodup
      rw [List.map_append, List.nodup_append]
      refine ⟨this, by simp, ?_⟩
      intro left hleft right hright
      simp only [List.map_cons, List.map_nil, List.mem_singleton] at hright
      rintro rfl
      exact h (hright ▸ hleft)⟩

def filter (table : Table α) (keep : String → α → Bool) : Table α :=
  ⟨table.entries.filter fun entry => keep entry.1 entry.2,
    List.Nodup.sublist (List.Sublist.map _ List.filter_sublist) table.nodup⟩

def erase (table : Table α) (key : String) : Table α :=
  table.filter fun other _ => other != key

/-- Inserts the entries one after another, so that a repeated key keeps its first position and
takes its last value. -/
def ofList (entries : List (String × α)) : Table α :=
  entries.foldl (fun table entry => table.insert entry.1 entry.2) empty

theorem lookup_replace (key other : String) (value : α) (entries : List (String × α))
    (hmem : key ∈ entries.map Prod.fst) :
    (replace key value entries).lookup other =
      if other = key then some value else entries.lookup other := by
  induction entries with
  | nil => simp at hmem
  | cons entry rest ih =>
      obtain ⟨name, content⟩ := entry
      by_cases hname : name = key
      · subst hname
        by_cases hother : other = name
        · simp [replace, hother]
        · have hrest : (replace name value rest).lookup other = rest.lookup other := by
            by_cases hin : name ∈ rest.map Prod.fst
            · rw [ih hin, if_neg hother]
            · have : replace name value rest = rest := by
                refine (List.map_congr_left fun entry hentry => ?_).trans (List.map_id rest)
                have : entry.1 ≠ name := fun heq => hin (heq ▸ List.mem_map_of_mem hentry)
                simp [this]
              rw [this]
          have hbeq : (other == name) = false := by simpa using hother
          simpa [replace, List.lookup_cons, hbeq, hother] using hrest
      · have hin : key ∈ rest.map Prod.fst := by
          simpa [Ne.symm hname, eq_comm] using hmem
        have hrest := ih hin
        by_cases hother : other = name
        · subst hother
          simp [replace, hname]
        · have hbeq : (other == name) = false := by simpa using hother
          simpa [replace, List.lookup_cons, hname, hbeq] using hrest

theorem lookup_append_singleton (key other : String) (value : α) (entries : List (String × α))
    (hmem : key ∉ entries.map Prod.fst) :
    (entries ++ [(key, value)]).lookup other =
      if other = key then some value else entries.lookup other := by
  induction entries with
  | nil =>
      by_cases hother : other = key
      · simp [hother]
      · have hbeq : (other == key) = false := by simpa using hother
        simp [List.lookup_cons, hbeq, hother]
  | cons entry rest ih =>
      obtain ⟨name, content⟩ := entry
      simp only [List.map_cons, List.mem_cons, not_or] at hmem
      have hrest := ih hmem.2
      by_cases hother : other = name
      · subst hother
        simp [Ne.symm hmem.1]
      · have hbeq : (other == name) = false := by simpa using hother
        simpa [List.lookup_cons, hbeq] using hrest

theorem get?_insert (table : Table α) (key other : String) (value : α) :
    (table.insert key value).get? other =
      if other = key then some value else table.get? other := by
  unfold insert get?
  split
  next h => exact lookup_replace key other value table.entries h
  next h => exact lookup_append_singleton key other value table.entries h

end Table

end SecurityToken
