import Mathlib.Algebra.Group.Int.Defs
import TxDraft.Metadatum

/-!
# What is a metadatum

`WellFormed` builds the metadata of a transaction up from integers and short texts; a string with a
surrogate is no text.  A look through
a value finds no fault exactly if the value is well formed (`fault?_eq_none_iff`), whatever path the
value is said to stand at.
-/

namespace TxDraft.Metadatum

/-- A string that is a text of at most 64 bytes. -/
inductive ShortText : Json.Str → Prop
  | plain {s : String} (short : s.utf8ByteSize ≤ 64) : ShortText s

/-- A value that may stand in metadata. -/
inductive WellFormed : Json → Prop
  | int {n : Int} (low : -2 ^ 64 < n) (high : n < 2 ^ 64) : WellFormed (.int n)
  | str {s : Json.Str} (short : ShortText s) : WellFormed (.str s)
  | arr {items : List Json} (each : ∀ v ∈ items, WellFormed v) : WellFormed (.arr items)
  | obj {fields : List (Json.Str × Json)} (keys : ∀ e ∈ fields, ShortText e.1)
      (values : ∀ e ∈ fields, WellFormed e.2) : WellFormed (.obj fields)

theorem fits_iff (s : String) : fits s = true ↔ s.utf8ByteSize ≤ 64 := by
  rw [fits, decide_eq_true_iff]; rfl

theorem stringFault?_eq_none_iff (s : Json.Str) : stringFault? s = none ↔ ShortText s := by
  cases s with
  | plain s =>
    have hfits : stringFault? (.plain s) = none ↔ fits s = true := by simp [stringFault?]
    rw [hfits, fits_iff]
    constructor
    · exact .plain
    · rintro ⟨short⟩
      exact short
  | stray before first rest => exact iff_of_false nofun nofun

theorem wellFormed_arr_cons {v : Json} {rest : List Json} :
    WellFormed (.arr (v :: rest)) ↔ WellFormed v ∧ WellFormed (.arr rest) := by
  constructor
  · rintro ⟨⟩
    rename_i each
    exact ⟨each v (by simp), .arr fun w hw => each w (by simp [hw])⟩
  · rintro ⟨hv, ⟨⟩⟩
    rename_i each
    refine .arr fun w hw => ?_
    rcases List.mem_cons.mp hw with rfl | hw
    · exact hv
    · exact each w hw

theorem wellFormed_obj_cons {k : Json.Str} {v : Json} {rest : List (Json.Str × Json)} :
    WellFormed (.obj ((k, v) :: rest)) ↔
      ShortText k ∧ WellFormed v ∧ WellFormed (.obj rest) := by
  constructor
  · rintro ⟨⟩
    rename_i keys values
    exact ⟨keys (k, v) (by simp), values (k, v) (by simp),
      .obj (fun e he => keys e (by simp [he])) fun e he => values e (by simp [he])⟩
  · rintro ⟨hk, hv, ⟨⟩⟩
    rename_i keys values
    refine .obj (fun e he => ?_) fun e he => ?_
    · rcases List.mem_cons.mp he with rfl | he
      · exact hk
      · exact keys e he
    · rcases List.mem_cons.mp he with rfl | he
      · exact hv
      · exact values e he

mutual

-- The three statements follow the three functions: a value, the items of a list, the fields of a
-- map; the empty list and the empty map are well formed.

/-- No fault is found in a value exactly if it is well formed. -/
theorem fault?_eq_none_iff (path : String) : ∀ v : Json, fault? path v = none ↔ WellFormed v
  | .arr items => itemsFault?_eq_none_iff path 0 items
  | .obj fields => fieldsFault?_eq_none_iff path fields
  | .int n => by
    have hleaf : fault? path (.int n) = none ↔ -intBound < n ∧ n < intBound := by
      simp [fault?, leafFault?]
    rw [hleaf]
    constructor
    · rintro ⟨low, high⟩
      exact .int low high
    · rintro ⟨⟩
      exact ⟨‹_›, ‹_›⟩
  | .str s => by
    have hleaf : fault? path (.str s) = none ↔ stringFault? s = none := by
      simp [fault?, leafFault?]
    rw [hleaf, stringFault?_eq_none_iff]
    constructor
    · exact .str
    · rintro ⟨⟩
      assumption
  | .null | .bool _ | .float _ => by
    constructor
    · intro h
      simp [fault?, leafFault?] at h
    · rintro ⟨⟩

theorem itemsFault?_eq_none_iff (path : String) (n : Nat) :
    ∀ items : List Json, itemsFault? path n items = none ↔ WellFormed (.arr items)
  | [] => ⟨fun _ => .arr (by simp), fun _ => rfl⟩
  | v :: rest => by
    rw [itemsFault?, Option.or_eq_none_iff, fault?_eq_none_iff _ v,
      itemsFault?_eq_none_iff path (n + 1) rest, wellFormed_arr_cons]

theorem fieldsFault?_eq_none_iff (path : String) :
    ∀ fields : List (Json.Str × Json), fieldsFault? path fields = none ↔ WellFormed (.obj fields)
  | [] => ⟨fun _ => .obj (by simp) (by simp), fun _ => rfl⟩
  | (k, v) :: rest => by
    rw [fieldsFault?, wellFormed_obj_cons, ← stringFault?_eq_none_iff k]
    cases hk : stringFault? k with
    | none =>
      simp only [Option.or_eq_none_iff, fault?_eq_none_iff _ v, fieldsFault?_eq_none_iff path rest,
        true_and]
    | some fault => simp

end

end TxDraft.Metadatum
