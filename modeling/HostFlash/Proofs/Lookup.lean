import Mathlib.Data.List.Nodup

/-!
# Values under distinct keys

What is found under a key in a list of keys with values. With distinct keys it is the value that
stands with the key, wherever that is, and keys that a filter drops are those that are not found
any more.
-/

namespace HostFlash

variable {κ α : Type} [BEq κ] [LawfulBEq κ] {entries entries' : List (κ × α)}

theorem lookup_eq_some_iff_mem (hdistinct : (entries.map Prod.fst).Nodup) {key : κ} {value : α} :
    entries.lookup key = some value ↔ (key, value) ∈ entries := by
  induction entries with
  | nil => simp
  | cons e entries ih =>
      obtain ⟨key', value'⟩ := e
      rw [List.map_cons, List.nodup_cons] at hdistinct
      by_cases hkey : key = key'
      · subst hkey
        have hother : (key, value) ∉ entries := fun hmem =>
          hdistinct.1 (List.mem_map.mpr ⟨(key, value), hmem, rfl⟩)
        rw [List.lookup_cons_self, List.mem_cons]
        simp [hother, eq_comm]
      · have hne : (key == key') = false := by simpa using hkey
        rw [List.lookup_cons, hne, List.mem_cons]
        simp [hkey, ih hdistinct.2]

/-- With distinct keys the value under a key does not depend on the order. -/
theorem lookup_perm (hperm : entries'.Perm entries) (hdistinct : (entries.map Prod.fst).Nodup)
    (key : κ) : entries'.lookup key = entries.lookup key := by
  have hdistinct' : (entries'.map Prod.fst).Nodup := (hperm.map Prod.fst).nodup_iff.mpr hdistinct
  apply Option.ext
  intro value
  rw [lookup_eq_some_iff_mem hdistinct, lookup_eq_some_iff_mem hdistinct', hperm.mem_iff]

/-- A value that is found stands with its key. -/
theorem mem_of_lookup {key : κ} {value : α} (h : entries.lookup key = some value) :
    (key, value) ∈ entries := by
  obtain ⟨front, rest, rfl, _⟩ := List.lookup_eq_some_iff.mp h
  exact List.mem_append_right front List.mem_cons_self

theorem lookup_eq_none_of_not_mem {key : κ} (h : key ∉ entries.map Prod.fst) :
    entries.lookup key = none := by
  rw [List.lookup_eq_none_iff]
  intro e he
  rw [bne_iff_ne]
  rintro rfl
  exact h (List.mem_map_of_mem he)

/-- A key is found by its first entry, so a filter by keys decides it for good. -/
theorem lookup_filter (p : κ → Bool) (key : κ) :
    (entries.filter fun e => p e.1).lookup key = if p key then entries.lookup key else none := by
  induction entries with
  | nil => simp
  | cons e entries ih =>
      obtain ⟨key', value'⟩ := e
      by_cases hkey : key = key'
      · subst hkey
        by_cases hp : p key = true
        · simp [hp]
        · simp [hp, ih]
      · have hne : (key == key') = false := by simpa using hkey
        by_cases hp : p key' = true
        · simp [hp, List.lookup_cons, hne, ih]
        · simp [hp, List.lookup_cons, hne, ih]

end HostFlash
