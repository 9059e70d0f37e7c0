import RelationalApi.Json.Basic

/-!
# Entries of objects

Giving a key a value changes what is found under that key alone.  The keys of an object stay as they
are and in order when the key is one of them, and otherwise the key comes last.
-/

namespace RelationalApi
namespace JsonEntries

theorem lookup_set
    (entries : JsonEntries)
    (key other : String)
    (value : Json) :
    (entries.set key value).lookup other =
      if other = key then some value else entries.lookup other := by
  induction entries with
  | nil =>
      rw [set_nil, List.lookup_cons]
      by_cases same : other = key
      · simp [same]
      · simp [same, beq_eq_false_iff_ne.2 same]
  | cons entry entries inductionHypothesis =>
      obtain ⟨first, stored⟩ := entry
      rw [set]
      by_cases here : first = key
      · subst here
        rw [if_pos rfl]
        by_cases same : other = first
        · simp [same]
        · simp [List.lookup_cons, same, beq_eq_false_iff_ne.2 same]
      · rw [if_neg here, List.lookup_cons, List.lookup_cons, inductionHypothesis]
        by_cases same : other = first
        · simp [same, here]
        · simp [beq_eq_false_iff_ne.2 same]

/-- A value is found under exactly the keys of the entries. -/
theorem isSome_lookup_iff (entries : JsonEntries) (key : String) :
    (entries.lookup key).isSome = true ↔ key ∈ entries.keys := by
  induction entries with
  | nil => simp [keys]
  | cons entry entries inductionHypothesis =>
      obtain ⟨first, stored⟩ := entry
      rw [keys, List.map_cons, List.mem_cons, List.lookup_cons]
      by_cases same : key = first
      · simp [same]
      · rw [beq_eq_false_iff_ne.2 same, ← keys, inductionHypothesis]
        simp [same]

theorem keys_set
    (entries : JsonEntries)
    (key : String)
    (value : Json) :
    (entries.set key value).keys =
      if key ∈ entries.keys then entries.keys else entries.keys ++ [key] := by
  induction entries with
  | nil => rfl
  | cons entry entries inductionHypothesis =>
      obtain ⟨first, stored⟩ := entry
      rw [set]
      by_cases here : first = key
      · simp [here, keys]
      · rw [if_neg here]
        change first :: keys (set key value entries) =
          if key ∈ first :: keys entries then first :: keys entries
          else first :: keys entries ++ [key]
        rw [inductionHypothesis]
        by_cases later : key ∈ keys entries
        · simp [later]
        · simp [later, Ne.symm here]

/-- Giving a key that is not looked for a value does not change what is looked for first. -/
theorem find?_set
    (entries : JsonEntries)
    {key : String}
    (value : Json)
    {wanted : String -> Bool}
    (isOther : wanted key = false) :
    (entries.set key value).find? (fun entry => wanted entry.1) =
      entries.find? fun entry => wanted entry.1 := by
  induction entries with
  | nil => rw [set_nil, List.find?_cons, isOther]
  | cons entry entries inductionHypothesis =>
      rw [set]
      split
      · rename_i same
        rw [List.find?_cons, List.find?_cons, same, isOther]
      · rw [List.find?_cons, List.find?_cons, inductionHypothesis]

/-- A key that is given a value comes behind the distinct keys that were seen, if it is new. -/
theorem keys_set_eraseDups
    {entries : JsonEntries}
    {seen : List String}
    (same : entries.keys = seen.eraseDups)
    (key : String)
    (value : Json) :
    (entries.set key value).keys = (seen ++ [key]).eraseDups := by
  rw [keys_set, same, List.eraseDups_append]
  by_cases present : key ∈ seen <;> simp [List.removeAll, List.eraseDups_cons, present]

/-- Collapsed entries have each key once, at its first place. -/
theorem keys_collapse (entries : JsonEntries) :
    (collapse entries).keys = entries.keys.eraseDups := by
  suffices keysAfter : ∀ (collapsed : JsonEntries) (seen : List String),
      collapsed.keys = seen.eraseDups ->
        (entries.foldl (fun collapsed entry => collapsed.set entry.1 entry.2) collapsed).keys =
          (seen ++ entries.keys).eraseDups from keysAfter [] [] rfl
  induction entries with
  | nil =>
      intro collapsed seen same
      rw [List.foldl_nil, same, keys, List.map_nil, List.append_nil]
  | cons entry entries inductionHypothesis =>
      intro collapsed seen same
      rw [List.foldl_cons, inductionHypothesis _ _ (keys_set_eraseDups same entry.1 entry.2),
        List.append_assoc]
      rfl

/-- Collapsed entries give each key its last value. -/
theorem lookup_collapse (entries : JsonEntries) (key : String) :
    (collapse entries).lookup key = List.lookup key entries.reverse := by
  suffices lookupAfter : ∀ collapsed : JsonEntries,
      (entries.foldl (fun collapsed entry => collapsed.set entry.1 entry.2) collapsed).lookup key =
        (List.lookup key entries.reverse).or (collapsed.lookup key) by
    rw [collapse, lookupAfter]
    exact Option.or_none
  induction entries with
  | nil =>
      intro collapsed
      rfl
  | cons entry entries inductionHypothesis =>
      intro collapsed
      rw [List.foldl_cons, inductionHypothesis, lookup_set, List.reverse_cons, List.lookup_append,
        Option.or_assoc, List.lookup_cons]
      by_cases same : key = entry.1
      · simp [same]
      · simp [same, beq_eq_false_iff_ne.2 same]

end JsonEntries
end RelationalApi
