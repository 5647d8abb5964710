/-!
# Entries in order

A finite map that remembers the order in which its keys first came: a list of pairs.  `put` replaces
the value of a key where it stands, or appends a new entry, and `ofPairs` puts one pair after the
other, so that the last value given for a key wins at the place of the first.
-/

namespace TxDraft

/-- A finite map with its entries in order. -/
abbrev Entries (κ ν : Type) := List (κ × ν)

namespace Entries

variable {κ ν μ : Type} [DecidableEq κ]

/-- The value under a key. -/
def get? (k : κ) : Entries κ ν → Option ν
  | [] => none
  | (k', v) :: rest => if k' = k then some v else get? k rest

/-- The entries with one value put under a key. -/
def put (k : κ) (v : ν) : Entries κ ν → Entries κ ν
  | [] => [(k, v)]
  | (k', v') :: rest => if k' = k then (k, v) :: rest else (k', v') :: put k v rest

/-- Is there an entry under the key? -/
def has (k : κ) (entries : Entries κ ν) : Bool :=
  (entries.get? k).isSome

/-- The map that is left after putting all the pairs in order. -/
def ofPairs (pairs : List (κ × ν)) : Entries κ ν :=
  pairs.foldl (fun entries e => entries.put e.1 e.2) []

/-- The entries with every value replaced. -/
def mapValues (f : ν → μ) (entries : Entries κ ν) : Entries κ μ :=
  entries.map fun e => (e.1, f e.2)

/-! ### What `put` and `get?` say of each other -/

@[simp] theorem get?_nil (k : κ) : get? k ([] : Entries κ ν) = none := rfl

/-- After putting a value under a key, that key reads it and all others read as before. -/
theorem get?_put (k k' : κ) (v : ν) (entries : Entries κ ν) :
    get? k' (put k v entries) = if k = k' then some v else get? k' entries := by
  induction entries with
  | nil => simp [put, get?]
  | cons e rest ih =>
    obtain ⟨a, w⟩ := e
    by_cases h : a = k
    · subst h
      by_cases hk : a = k' <;> simp [put, get?, hk]
    · by_cases ha : a = k'
      · subst ha
        have hk : k ≠ a := fun hk => h hk.symm
        simp [put, get?, h, hk]
      · simp [put, get?, h, ha, ih]

end Entries

end TxDraft
