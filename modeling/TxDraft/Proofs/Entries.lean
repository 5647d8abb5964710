import Mathlib.Data.List.Induction
import TxDraft.Entries

/-!
# The keys of ordered maps

A key that is new is put at the end (`put_of_not_mem`), and one that is there stays where it is, so
that the keys of a map that was built by putting are distinct (`nodup_keys_put`) and no entry is
ever lost by putting another.
-/

namespace TxDraft.Entries

variable {κ ν : Type} [DecidableEq κ]

/-- The keys in order. -/
def keys (entries : Entries κ ν) : List κ :=
  List.map Prod.fst entries

omit [DecidableEq κ] in
@[simp] theorem keys_nil : keys ([] : Entries κ ν) = [] := rfl

omit [DecidableEq κ] in
@[simp] theorem keys_cons (e : κ × ν) (rest : Entries κ ν) :
    keys (e :: rest) = e.1 :: keys rest := rfl

theorem get?_eq_none_iff {k : κ} {entries : Entries κ ν} :
    get? k entries = none ↔ k ∉ keys entries := by
  induction entries with
  | nil => simp
  | cons e rest ih =>
    obtain ⟨k', v⟩ := e
    by_cases h : k' = k
    · simp [get?, h]
    · simp [get?, h, ih, Ne.symm h]

theorem get?_cons (k k' : κ) (v : ν) (rest : Entries κ ν) :
    get? k ((k', v) :: rest) = if k' = k then some v else get? k rest := rfl

theorem get?_append (k : κ) (a b : Entries κ ν) : get? k (a ++ b) = (get? k a).or (get? k b) := by
  induction a with
  | nil => rfl
  | cons e rest ih =>
    rw [List.cons_append, get?_cons, get?_cons, ih]
    split <;> rfl

/-- If the keys are distinct, what is read under a key is the entry with that key. -/
theorem mem_iff_get?_eq_some {k : κ} {v : ν} {entries : Entries κ ν} (h : (keys entries).Nodup) :
    (k, v) ∈ entries ↔ get? k entries = some v := by
  induction entries with
  | nil => simp
  | cons e rest ih =>
    obtain ⟨k', v'⟩ := e
    obtain ⟨hnew, hrest⟩ := List.nodup_cons.mp h
    rw [get?_cons, List.mem_cons, Prod.mk.injEq, ih hrest]
    by_cases hk : k' = k
    · subst hk
      simp [get?_eq_none_iff.mpr hnew, eq_comm]
    · simp [hk, Ne.symm hk]

theorem has_iff_mem_keys {k : κ} {entries : Entries κ ν} :
    entries.has k = true ↔ k ∈ keys entries := by
  rw [has, Option.isSome_iff_ne_none, ne_eq, get?_eq_none_iff, Decidable.not_not]

theorem has_iff_exists {k : κ} {entries : Entries κ ν} :
    entries.has k = true ↔ ∃ e ∈ entries, e.1 = k := by
  rw [has_iff_mem_keys, keys]
  exact List.mem_map

/-! ### Putting -/

theorem put_ne_nil (k : κ) (v : ν) (entries : Entries κ ν) : put k v entries ≠ [] := by
  cases entries with
  | nil => simp [put]
  | cons e rest =>
    obtain ⟨k', v'⟩ := e
    by_cases h : k' = k <;> simp [put, h]

/-- A new key goes to the end. -/
theorem put_of_not_mem {k : κ} {entries : Entries κ ν} (h : k ∉ keys entries) (v : ν) :
    put k v entries = entries ++ [(k, v)] := by
  induction entries with
  | nil => rfl
  | cons e rest ih =>
    obtain ⟨k', v'⟩ := e
    simp only [keys_cons, List.mem_cons, not_or] at h
    simp [put, Ne.symm h.1, ih h.2]

theorem mem_keys_put {k k' : κ} {v : ν} {entries : Entries κ ν} :
    k' ∈ keys (put k v entries) ↔ k' = k ∨ k' ∈ keys entries := by
  induction entries with
  | nil => simp [put]
  | cons e rest ih =>
    obtain ⟨a, w⟩ := e
    by_cases h : a = k
    · simp [put, h]
    · simp only [put, h, if_false, keys_cons, List.mem_cons, ih]
      exact or_left_comm

theorem mem_of_mem_put {k : κ} {v : ν} {entries : Entries κ ν} {e : κ × ν}
    (h : e ∈ put k v entries) : e = (k, v) ∨ e ∈ entries := by
  induction entries with
  | nil => exact .inl (List.mem_singleton.mp h)
  | cons e' rest ih =>
    obtain ⟨a, w⟩ := e'
    rw [put] at h
    split at h
    · exact (List.mem_cons.mp h).imp_right (List.mem_cons_of_mem _)
    · rcases List.mem_cons.mp h with rfl | h
      · exact .inr List.mem_cons_self
      · exact (ih h).imp_right (List.mem_cons_of_mem _)

/-- Putting keeps the keys distinct. -/
theorem nodup_keys_put (k : κ) (v : ν) {entries : Entries κ ν} (h : (keys entries).Nodup) :
    (keys (put k v entries)).Nodup := by
  induction entries with
  | nil => simp [put]
  | cons e rest ih =>
    obtain ⟨a, w⟩ := e
    simp only [keys_cons, List.nodup_cons] at h
    by_cases ha : a = k
    · subst ha
      simpa [put] using h
    · simp only [put, ha, if_false, keys_cons, List.nodup_cons, mem_keys_put, not_or]
      exact ⟨⟨not_false, h.1⟩, ih h.2⟩

/-! ### Maps of pairs -/

theorem ofPairs_concat (pairs : List (κ × ν)) (e : κ × ν) :
    ofPairs (pairs ++ [e]) = put e.1 e.2 (ofPairs pairs) := by
  simp [ofPairs]

theorem ofPairs_eq_nil_iff {pairs : List (κ × ν)} : ofPairs pairs = [] ↔ pairs = [] := by
  -- once there is an entry there will always be one
  have hfold : ∀ (rest : List (κ × ν)) (entries : Entries κ ν), entries ≠ [] →
      rest.foldl (fun entries e => entries.put e.1 e.2) entries ≠ [] := by
    intro rest
    induction rest with
    | nil => exact fun entries h => h
    | cons e rest ih => exact fun entries _ => ih _ (put_ne_nil e.1 e.2 entries)
  constructor
  · intro h
    cases pairs with
    | nil => rfl
    | cons e rest => exact absurd h (hfold rest _ (put_ne_nil e.1 e.2 []))
  · rintro rfl
    rfl

/-- A map of pairs has the keys of the pairs, each once. -/
theorem nodup_keys_ofPairs (pairs : List (κ × ν)) :
    (keys (ofPairs pairs)).Nodup ∧ ∀ k, k ∈ keys (ofPairs pairs) ↔ k ∈ keys pairs := by
  induction pairs using List.reverseRecOn with
  | nil => exact ⟨List.nodup_nil, fun _ => Iff.rfl⟩
  | append_singleton rest e ih =>
    obtain ⟨hnodup, hkeys⟩ := ih
    rw [ofPairs_concat]
    refine ⟨nodup_keys_put _ _ hnodup, fun k => ?_⟩
    rw [mem_keys_put, hkeys]
    simp [keys, or_comm]

theorem mem_of_mem_ofPairs {pairs : List (κ × ν)} {e : κ × ν} (h : e ∈ ofPairs pairs) :
    e ∈ pairs := by
  induction pairs using List.reverseRecOn with
  | nil => exact h
  | append_singleton rest e' ih =>
    rw [ofPairs_concat] at h
    rcases mem_of_mem_put h with rfl | h
    · exact List.mem_append_right _ List.mem_cons_self
    · exact List.mem_append_left _ (ih h)

/-- Pairs with distinct keys are a map as they are. -/
theorem ofPairs_eq_self {pairs : List (κ × ν)} (h : (keys pairs).Nodup) :
    ofPairs pairs = pairs := by
  induction pairs using List.reverseRecOn with
  | nil => rfl
  | append_singleton rest e ih =>
    rw [keys, List.map_append, List.nodup_append] at h
    obtain ⟨hrest, -, hapart⟩ := h
    have hnew : e.1 ∉ keys rest := fun hmem => hapart e.1 hmem e.1 List.mem_cons_self rfl
    rw [ofPairs_concat, ih hrest, put_of_not_mem hnew]

/-- The last value that pairs give for a key. -/
def lastUnder (k : κ) (pairs : List (κ × ν)) : Option ν :=
  ((pairs.filter fun e => e.1 = k).getLast?).map Prod.snd

/-- The last value given for a key wins. -/
theorem get?_ofPairs (k : κ) (pairs : List (κ × ν)) :
    (ofPairs pairs).get? k = lastUnder k pairs := by
  induction pairs using List.reverseRecOn with
  | nil => rfl
  | append_singleton rest e ih =>
    rw [ofPairs_concat, get?_put, ih, lastUnder, lastUnder, List.filter_append]
    by_cases h : e.1 = k
    · simp [h]
    · simp [h]

theorem lastUnder_eq_none_iff {k : κ} {pairs : List (κ × ν)} :
    lastUnder k pairs = none ↔ k ∉ keys pairs := by
  rw [← get?_ofPairs, get?_eq_none_iff, (nodup_keys_ofPairs pairs).2]

end TxDraft.Entries
