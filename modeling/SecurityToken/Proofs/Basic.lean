import SecurityToken.Table

/-!
# Fallible steps and tables

A chain of fallible steps succeeds when each of them does. A table is its entries, so that putting
in what is there already changes nothing, and what is dropped from it is no longer found.
-/

namespace SecurityToken

variable {ε α β : Type}

theorem except_bind_eq_ok {step : Except ε α} {next : α → Except ε β} {result : β} :
    step >>= next = .ok result ↔ ∃ value, step = .ok value ∧ next value = .ok result := by
  cases step with
  | error fault =>
      constructor
      · intro h
        exact nomatch h
      · rintro ⟨_, h, _⟩
        exact nomatch h
  | ok value =>
      constructor
      · intro h
        exact ⟨value, rfl, h⟩
      · rintro ⟨_, h, hnext⟩
        obtain rfl := Except.ok.inj h
        exact hnext

theorem except_mapError_eq_ok {ε' : Type} {change : ε → ε'} {answer : Except ε α} {value : α} :
    answer.mapError change = .ok value ↔ answer = .ok value := by
  cases answer with
  | error fault =>
      constructor
      · intro h
        cases h
      · intro h
        cases h
  | ok found =>
      constructor
      · intro h
        exact congrArg Except.ok (Except.ok.inj h)
      · intro h
        exact congrArg Except.ok (Except.ok.inj h)

theorem except_toOption_eq_some {answer : Except ε α} {value : α} :
    answer.toOption = some value ↔ answer = .ok value := by
  cases answer with
  | error fault => simp [Except.toOption]
  | ok found => simp [Except.toOption]

theorem not_isEmpty_of_mem {items : List α} {item : α} (hmem : item ∈ items) :
    ¬items.isEmpty = true := by
  rw [List.isEmpty_iff]
  exact List.ne_nil_of_mem hmem

namespace Table

theorem ext_entries {left right : Table α} (hentries : left.entries = right.entries) :
    left = right := by
  cases left
  cases right
  simp only at hentries
  subst hentries
  rfl

/-- Entries whose names are all new are put behind those that are there. -/
theorem entries_foldl_insert (table : Table α) (entries : List (String × α))
    (hnodup : (table.keys ++ entries.map Prod.fst).Nodup) :
    (entries.foldl (fun table entry => table.insert entry.1 entry.2) table).entries =
      table.entries ++ entries := by
  induction entries generalizing table with
  | nil => simp
  | cons entry rest ih =>
      have hnew : entry.1 ∉ table.keys := by
        intro hmem
        rw [List.nodup_append] at hnodup
        exact hnodup.2.2 _ hmem _ (by simp) rfl
      have hentries : (table.insert entry.1 entry.2).entries = table.entries ++ [entry] := by
        unfold insert
        rw [dif_neg hnew]
      have hkeys : (table.insert entry.1 entry.2).keys = table.keys ++ [entry.1] := by
        rw [keys, hentries, List.map_append]
        rfl
      rw [List.foldl_cons, ih, hentries, List.append_assoc, List.singleton_append]
      rw [hkeys, List.append_assoc, List.singleton_append]
      exact hnodup

theorem ofList_entries (table : Table α) : ofList table.entries = table :=
  ext_entries (entries_foldl_insert empty table.entries table.nodup)

theorem get?_eq_some {table : Table α} {key : String} {value : α} :
    table.get? key = some value ↔ (key, value) ∈ table.entries := by
  obtain ⟨entries, hnodup⟩ := table
  simp only [get?]
  induction entries with
  | nil => simp
  | cons entry rest ih =>
      obtain ⟨name, content⟩ := entry
      rw [List.map_cons, List.nodup_cons] at hnodup
      by_cases hname : key = name
      · subst hname
        have hrest : (key, value) ∉ rest := by
          intro hmem
          have hkey : key ∈ rest.map Prod.fst := List.mem_map_of_mem hmem
          exact hnodup.1 hkey
        simp [hrest, eq_comm]
      · have hbeq : (key == name) = false := by simpa using hname
        simpa [List.lookup_cons, hbeq, hname] using ih hnodup.2

theorem insert_eq_self {table : Table α} {key : String} {value : α}
    (hfound : table.get? key = some value) : table.insert key value = table := by
  have hkey : key ∈ table.keys := List.mem_map_of_mem (get?_eq_some.1 hfound)
  apply ext_entries
  unfold insert
  rw [dif_pos hkey]
  refine (List.map_congr_left fun entry hentry => ?_).trans (List.map_id table.entries)
  obtain ⟨name, content⟩ := entry
  by_cases hname : name = key
  · subst hname
    have hcontent : table.get? name = some content := get?_eq_some.2 hentry
    rw [hfound] at hcontent
    obtain rfl := Option.some.inj hcontent
    simp
  · simp [hname]

/-- What holds of the values of a table and of a further one holds after its insertion. -/
theorem forall_insert {holds : α → Prop} {table : Table α}
    (htable : ∀ entry ∈ table.entries, holds entry.2) (key : String) {value : α}
    (hvalue : holds value) : ∀ entry ∈ (table.insert key value).entries, holds entry.2 := by
  intro entry hentry
  unfold insert at hentry
  split at hentry
  · obtain ⟨old, hold, rfl⟩ := List.mem_map.1 hentry
    by_cases hkey : old.1 = key
    · rw [if_pos hkey]
      exact hvalue
    · rw [if_neg hkey]
      exact htable old hold
  · rcases List.mem_append.1 hentry with hold | hnew
    · exact htable entry hold
    · obtain rfl := List.mem_singleton.1 hnew
      exact hvalue

theorem forall_foldl_insert {holds : α → Prop} {table : Table α} {entries : List (String × α)}
    (htable : ∀ entry ∈ table.entries, holds entry.2) (hentries : ∀ entry ∈ entries, holds entry.2) :
    ∀ entry ∈ (entries.foldl (fun table entry => table.insert entry.1 entry.2) table).entries,
      holds entry.2 := by
  refine List.foldlRecOn (motive := fun table : Table α => ∀ entry ∈ table.entries, holds entry.2)
    entries _ htable ?_
  exact fun table htable entry hentry => forall_insert htable entry.1 (hentries entry hentry)

theorem get?_filter (table : Table α) (keep : String → α → Bool) (key : String) :
    (table.filter keep).get? key = (table.get? key).filter (keep key) := by
  ext value
  rw [Option.filter_eq_some_iff, get?_eq_some, get?_eq_some]
  exact List.mem_filter

end Table

end SecurityToken
