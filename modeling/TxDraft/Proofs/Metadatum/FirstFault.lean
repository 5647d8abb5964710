import Mathlib.Data.List.Lex
import TxDraft.Action.Validation
import TxDraft.Proofs.Metadatum

/-!
# The first fault in document order

A part of a value stands at a place: the numbers of the turns that lead down to it (`Stands`).  The
items of a list are numbered as they come; in a map the key of the field number `n` has the number
`2 * n` and its value the number after that.  So the lexical order of places is the order in which a
document is written, with a key before its value and everything before what is inside it.

A part is unfit by itself if it is neither a list nor a map and no metadatum (`Unfit`); a value is
well formed exactly if none of its parts is.  What `fault?` reports is the first unfit part in
document order, and what is said about it begins with its path, unless it is a string with a
surrogate, about which only the encoder speaks (`fault?_eq_first`).
-/

namespace TxDraft

/-- A property of all values, by what is inside lists and maps. -/
@[elab_as_elim]
theorem Json.inductionOn {P : Json → Prop}
    (arr : ∀ items, (∀ w ∈ items, P w) → P (.arr items))
    (obj : ∀ fields, (∀ e ∈ fields, P e.2) → P (.obj fields))
    (leaf : ∀ v, (∀ items, v ≠ .arr items) → (∀ fields, v ≠ .obj fields) → P v) (v : Json) :
    P v :=
  @Json.rec P (fun items => ∀ w ∈ items, P w) (fun fields => ∀ e ∈ fields, P e.2) (fun e => P e.2)
    (leaf _ nofun nofun) (fun _ => leaf _ nofun nofun) (fun _ => leaf _ nofun nofun)
    (fun _ => leaf _ nofun nofun) (fun _ => leaf _ nofun nofun) arr obj nofun
    (fun _ _ hv hrest => List.forall_mem_cons.mpr ⟨hv, hrest⟩) nofun
    (fun _ _ he hrest => List.forall_mem_cons.mpr ⟨he, hrest⟩) (fun _ _ hv => hv) v

namespace Metadatum

/-! ### Places -/

/-- The numbers of the turns on the way down to a part. -/
abbrev Place := List Nat

/-- At a place in a value that is known by a path stands a part that is known by another. -/
inductive Stands : (path : String) → Json → Place → (path' : String) → Json → Prop
  | here (path : String) (v : Json) : Stands path v [] path v
  | item {path path' : String} {items : List Json} {n : Nat} {w part : Json} {place : Place}
    (hitem : items[n]? = some w) (inside : Stands s!"{path}[{n}]" w place path' part) :
    Stands path (.arr items) (n :: place) path' part
  | key {path : String} {fields : List (Json.Str × Json)} {n turn : Nat} {e : Json.Str × Json}
    (hfield : fields[n]? = some e) (hturn : turn = 2 * n) :
    Stands path (.obj fields) [turn] (path ++ " key " ++ e.1.quoted) (.str e.1)
  | value {path path' : String} {fields : List (Json.Str × Json)} {n turn : Nat}
    {e : Json.Str × Json} {part : Json} {place : Place} (hfield : fields[n]? = some e)
    (hturn : turn = 2 * n + 1) (inside : Stands s!"{path}.{e.1.string}" e.2 place path' part) :
    Stands path (.obj fields) (turn :: place) path' part

/-- No two parts stand at one place. -/
theorem Stands.unique {path p p' : String} {v part part' : Json} {place : Place}
    (h : Stands path v place p part) (h' : Stands path v place p' part') :
    p = p' ∧ part = part' := by
  induction h with
  | here =>
    cases h'
    exact ⟨rfl, rfl⟩
  | item hitem _ ih =>
    cases h' with
    | item hitem' inside' =>
      rw [hitem] at hitem'
      cases hitem'
      exact ih inside'
  | key hfield hturn =>
    cases h' with
    | key hfield' hturn' =>
      obtain rfl := Nat.eq_of_mul_eq_mul_left (by decide) (hturn ▸ hturn')
      rw [hfield] at hfield'
      cases hfield'
      exact ⟨rfl, rfl⟩
    | value _ hturn' => omega
  | @value _ _ _ n _ _ _ _ hfield hturn _ ih =>
    cases h' with
    | key _ hturn' => omega
    | @value _ _ _ n' _ _ _ _ hfield' hturn' inside' =>
      obtain rfl : n = n' := by omega
      rw [hfield] at hfield'
      cases hfield'
      exact ih inside'

/-! ### Unfit parts -/

/-- What is wrong with a part by itself. -/
inductive Unfit : Json → Fault → Prop
  | longText {s : String} (long : 64 < s.utf8ByteSize) : Unfit (.str s) .longText
  /-- A surrogate stands behind some characters, and in front of some more surrogates. -/
  | unencodable {before : String} {first : Json.Surrogate} {rest : List Json.Point} :
    Unfit (.str (.stray before first rest))
      (.unencodable before.length first (rest.takeWhile Json.Point.isSurrogate).length)
  | outOfRange {n : Int} (out : n ≤ -2 ^ 64 ∨ 2 ^ 64 ≤ n) : Unfit (.int n) .intOutOfRange
  | null : Unfit .null (.wrongKind "NoneType")
  | bool (b : Bool) : Unfit (.bool b) (.wrongKind "bool")
  | float (x : Binary64) : Unfit (.float x) (.wrongKind "float")

theorem leafFault?_eq_some_iff {v : Json} {fault : Fault} :
    leafFault? v = some fault ↔ Unfit v fault := by
  constructor
  · intro h
    cases v with
    | null | bool | float =>
      obtain rfl := Option.some.inj h
      constructor
    | int n =>
      by_cases hn : -intBound < n ∧ n < intBound
      · simp [leafFault?, hn] at h
      · obtain rfl : Fault.intOutOfRange = fault := by simpa [leafFault?, hn] using h
        have hbound : intBound = 2 ^ 64 := rfl
        exact .outOfRange (by omega)
    | str s =>
      cases s with
      | plain s =>
        by_cases hs : fits s = true
        · simp [leafFault?, stringFault?, hs] at h
        · obtain rfl : Fault.longText = fault := by simpa [leafFault?, stringFault?, hs] using h
          exact .longText (Nat.lt_of_not_le (mt (fits_iff s).mpr hs))
      | stray before first rest =>
        obtain rfl := Option.some.inj h
        exact .unencodable
    | arr | obj => cases h
  · rintro (long | _ | out | _ | _ | _)
    · have hs : fits _ = false := Bool.eq_false_iff.mpr (mt (fits_iff _).mp (Nat.not_le.mpr long))
      simp [leafFault?, stringFault?, hs]
    · rfl
    · have hbound : intBound = 2 ^ 64 := rfl
      rw [leafFault?, if_neg (by simp only [Bool.and_eq_true, decide_eq_true_iff]; omega)]
    all_goals rfl

theorem Unfit.unique {v : Json} {fault fault' : Fault} (h : Unfit v fault) (h' : Unfit v fault') :
    fault = fault' := by
  rw [← leafFault?_eq_some_iff] at h h'
  exact Option.some.inj (h.symm.trans h')

theorem WellFormed.not_unfit {v : Json} {fault : Fault} (h : WellFormed v) : ¬ Unfit v fault := by
  rintro (long | _ | out | _ | _ | _)
  · rcases h with _ | ⟨⟨short⟩⟩
    exact absurd short (Nat.not_le.mpr long)
  · rcases h with _ | ⟨⟨⟩⟩
  · cases h with
    | int low high => omega
  all_goals cases h

/-- What stands in a well-formed value is well formed. -/
theorem WellFormed.of_stands {path p : String} {v part : Json} {place : Place}
    (h : WellFormed v) (hstands : Stands path v place p part) : WellFormed part := by
  induction hstands with
  | here => exact h
  | item hitem _ ih =>
    cases h with
    | arr each => exact ih (each _ (List.mem_of_getElem? hitem))
  | key hfield _ =>
    cases h with
    | obj keys _ => exact .str (keys _ (List.mem_of_getElem? hfield))
  | value hfield _ _ ih =>
    cases h with
    | obj _ values => exact ih (values _ (List.mem_of_getElem? hfield))

/-! ### The first of them -/

/-- Of the unfit parts of a value the first in document order is known by the path `p`, and this is
what is wrong with it. -/
def First (path : String) (v : Json) (p : String) (fault : Fault) : Prop :=
  ∃ place part, Stands path v place p part ∧ Unfit part fault ∧
    ∀ place' p' part' fault', Stands path v place' p' part' → Unfit part' fault' →
      ¬ place' < place

theorem First.unique {path p p' : String} {v : Json} {fault fault' : Fault}
    (h : First path v p fault) (h' : First path v p' fault') : p = p' ∧ fault = fault' := by
  obtain ⟨place, part, hstands, hunfit, hleast⟩ := h
  obtain ⟨place', part', hstands', hunfit', hleast'⟩ := h'
  obtain rfl : place = place' :=
    le_antisymm (not_lt.mp (hleast _ _ _ _ hstands' hunfit'))
      (not_lt.mp (hleast' _ _ _ _ hstands hunfit))
  obtain ⟨rfl, rfl⟩ := hstands.unique hstands'
  exact ⟨rfl, hunfit.unique hunfit'⟩

/-- A fault among items is one of the first item that is not well formed. -/
theorem exists_of_itemsFault? {path : String} {n : Nat} {items : List Json} {found : String × Fault}
    (h : itemsFault? path n items = some found) :
    ∃ i w, items[i]? = some w ∧ fault? s!"{path}[{n + i}]" w = some found ∧
      ∀ j < i, ∀ u, items[j]? = some u → WellFormed u := by
  induction items generalizing n with
  | nil => cases h
  | cons v rest ih =>
    rw [itemsFault?, Option.or_eq_some_iff] at h
    rcases h with hfirst | ⟨hnone, hrest⟩
    · exact ⟨0, v, rfl, hfirst, nofun⟩
    · obtain ⟨i, w, hitem, hfault, hbefore⟩ := ih hrest
      refine ⟨i + 1, w, hitem, ?_, fun j hj u hu => ?_⟩
      · rwa [Nat.add_right_comm, Nat.add_assoc] at hfault
      · cases j with
        | zero =>
          cases hu
          exact (fault?_eq_none_iff _ _).mp hnone
        | succ j => exact hbefore j (Nat.lt_of_succ_lt_succ hj) u hu

/-- A fault among fields is one of the first field that is not well formed, of its key if that is
unfit and else of its value. -/
theorem exists_of_fieldsFault? {path : String} {fields : List (Json.Str × Json)}
    {found : String × Fault} (h : fieldsFault? path fields = some found) :
    ∃ (i : Nat) (e : Json.Str × Json), fields[i]? = some e ∧
      ((∃ fault, Unfit (.str e.1) fault ∧ found = (path ++ " key " ++ e.1.quoted, fault)) ∨
        ShortText e.1 ∧ fault? s!"{path}.{e.1.string}" e.2 = some found) ∧
      ∀ j < i, ∀ e' : Json.Str × Json, fields[j]? = some e' →
        ShortText e'.1 ∧ WellFormed e'.2 := by
  induction fields with
  | nil => cases h
  | cons e rest ih =>
    obtain ⟨k, v⟩ := e
    rw [fieldsFault?] at h
    cases hk : stringFault? k with
    | none =>
      simp only [hk, Option.or_eq_some_iff] at h
      have hshort := (stringFault?_eq_none_iff k).mp hk
      rcases h with hfirst | ⟨hnone, hrest⟩
      · exact ⟨0, (k, v), rfl, .inr ⟨hshort, hfirst⟩, nofun⟩
      · obtain ⟨i, e, hfield, hfault, hbefore⟩ := ih hrest
        refine ⟨i + 1, e, hfield, hfault, fun j hj e' he' => ?_⟩
        cases j with
        | zero =>
          cases he'
          exact ⟨hshort, (fault?_eq_none_iff _ _).mp hnone⟩
        | succ j => exact hbefore j (Nat.lt_of_succ_lt_succ hj) e' he'
    | some fault =>
      simp only [hk] at h
      have hunfit : Unfit (.str k) fault := leafFault?_eq_some_iff.mp hk
      exact ⟨0, (k, v), rfl, .inl ⟨fault, hunfit, (Option.some.inj h).symm⟩, nofun⟩

theorem fault?_of_leaf {v : Json} (path : String) (harr : ∀ items, v ≠ .arr items)
    (hobj : ∀ fields, v ≠ .obj fields) :
    fault? path v = (leafFault? v).map fun fault => (path, fault) := by
  cases v with
  | arr items => exact absurd rfl (harr items)
  | obj fields => exact absurd rfl (hobj fields)
  | _ => rfl

/-- Before an index all fields are well formed, so an unfit part takes no turn before it. -/
theorem Stands.le_turn {path p : String} {fields : List (Json.Str × Json)} {place : Place}
    {part : Json} {fault : Fault} {i : Nat} (h : Stands path (.obj fields) place p part)
    (hunfit : Unfit part fault)
    (hbefore : ∀ j < i, ∀ e : Json.Str × Json, fields[j]? = some e →
      ShortText e.1 ∧ WellFormed e.2) :
    ∃ turn rest, place = turn :: rest ∧ 2 * i ≤ turn := by
  cases h with
  | here => cases hunfit
  | @key _ _ j turn e hfield hturn =>
    have hij : i ≤ j := Nat.le_of_not_lt fun hji =>
      (WellFormed.str (hbefore j hji e hfield).1).not_unfit hunfit
    exact ⟨turn, [], rfl, by omega⟩
  | @value _ _ _ j turn e _ rest hfield hturn inside =>
    have hij : i ≤ j := Nat.le_of_not_lt fun hji =>
      ((hbefore j hji e hfield).2.of_stands inside).not_unfit hunfit
    exact ⟨turn, rest, rfl, by omega⟩

/-- What is reported is the first unfit part. -/
theorem first_of_fault? {path p : String} {v : Json} {fault : Fault}
    (h : fault? path v = some (p, fault)) : First path v p fault := by
  -- the place of what is found inside is put behind the turn that leads there, and what stands
  -- at an earlier place was passed over, and so is well formed
  induction v using Json.inductionOn generalizing path with
  | leaf v harr hobj =>
    rw [fault?_of_leaf _ harr hobj, Option.map_eq_some_iff] at h
    obtain ⟨_, hleaf, heq⟩ := h
    cases heq
    exact ⟨[], v, .here _ v, leafFault?_eq_some_iff.mp hleaf,
      fun place' _ _ _ _ _ => List.not_lt_nil place'⟩
  | arr items ih =>
    obtain ⟨i, w, hitem, hfault, hbefore⟩ := exists_of_itemsFault? h
    rw [Nat.zero_add] at hfault
    obtain ⟨place, part, hstands, hunfit, hleast⟩ := ih w (List.mem_of_getElem? hitem) hfault
    refine ⟨i :: place, part, .item hitem hstands, hunfit, ?_⟩
    intro place' p' part' fault' hstands' hunfit' hlt
    cases hstands' with
    | here => cases hunfit'
    | @item _ _ _ j u _ rest hitem' inside' =>
      rcases List.cons_lt_cons_iff.mp hlt with hji | ⟨rfl, hrest⟩
      · exact ((hbefore j hji u hitem').of_stands inside').not_unfit hunfit'
      · rw [hitem] at hitem'
        cases hitem'
        exact hleast _ _ _ _ inside' hunfit' hrest
  | obj fields ih =>
    obtain ⟨i, e, hfield, ⟨_, hkey, hfound⟩ | ⟨hshort, hfault⟩, hbefore⟩ :=
      exists_of_fieldsFault? h
    · cases hfound
      refine ⟨[2 * i], .str e.1, .key hfield rfl, hkey, ?_⟩
      intro place' p' part' fault' hstands' hunfit' hlt
      obtain ⟨turn, rest, rfl, hturn⟩ := hstands'.le_turn hunfit' hbefore
      rcases List.cons_lt_cons_iff.mp hlt with hearly | ⟨-, hrest⟩
      · omega
      · exact List.not_lt_nil rest hrest
    · obtain ⟨place, part, hstands, hunfit, hleast⟩ := ih e (List.mem_of_getElem? hfield) hfault
      refine ⟨(2 * i + 1) :: place, part, .value hfield rfl hstands, hunfit, ?_⟩
      intro place' p' part' fault' hstands' hunfit' hlt
      obtain ⟨turn, rest, rfl, hturn⟩ := hstands'.le_turn hunfit' hbefore
      -- the only turn left before the value is the one to its own key
      cases hstands' with
      | @key _ _ j _ e' hfield' hturn' =>
        obtain rfl : j = i := by
          rcases List.cons_lt_cons_iff.mp hlt with hearly | ⟨hsame, -⟩ <;> omega
        rw [hfield] at hfield'
        cases hfield'
        exact (WellFormed.str hshort).not_unfit hunfit'
      | @value _ _ _ j _ e' _ _ hfield' hturn' inside' =>
        rcases List.cons_lt_cons_iff.mp hlt with hearly | ⟨hsame, hrest⟩
        · omega
        · obtain rfl : j = i := by omega
          rw [hfield] at hfield'
          cases hfield'
          exact hleast _ _ _ _ inside' hunfit' hrest

/-- A value is well formed exactly if no part of it is unfit. -/
theorem wellFormed_iff (path : String) (v : Json) :
    WellFormed v ↔ ∀ place p part fault, Stands path v place p part → ¬ Unfit part fault := by
  constructor
  · exact fun hwell place p part fault hstands => (hwell.of_stands hstands).not_unfit
  · intro hfit
    rw [← fault?_eq_none_iff path v, Option.eq_none_iff_forall_ne_some]
    rintro ⟨p, fault⟩ hfound
    obtain ⟨place, part, hstands, hunfit, -⟩ := first_of_fault? hfound
    exact hfit place p part fault hstands hunfit

/-! ### What is said about it -/

/-- What is said about a part at a path begins with the path. -/
def Tells (p : String) (fault : Fault) : Prop :=
  ∃ words, fault.message p = p ++ words

/-- The words of the encoder, which knows of no path. -/
inductive Fault.IsEncoders : Fault → Prop
  | unencodable (position : Nat) (first : Json.Surrogate) (more : Nat) :
    IsEncoders (.unencodable position first more)

theorem Stands.exists_path {path p : String} {v part : Json} {place : Place}
    (h : Stands path v place p part) : ∃ further, p = path ++ further := by
  induction h with
  | here path v => exact ⟨"", String.append_empty.symm⟩
  | @item path _ _ n _ _ _ _ _ ih =>
    obtain ⟨further, rfl⟩ := ih
    refine ⟨"[" ++ (toString n ++ ("]" ++ further)), ?_⟩
    simp only [toString, String.append_assoc]
  | @value path _ _ _ _ e _ _ _ _ _ ih =>
    obtain ⟨further, rfl⟩ := ih
    refine ⟨"." ++ (e.1.string ++ further), ?_⟩
    simp only [toString, String.append_assoc]
  | key _ _ => exact ⟨_, String.append_assoc ..⟩

theorem tells_of_not_isEncoders {fault : Fault} (h : ¬ fault.IsEncoders) (p : String) :
    Tells p fault := by
  cases fault with
  | longText | intOutOfRange | wrongKind =>
    simp only [Tells, Fault.message, toString, String.append_assoc]
    exact ⟨_, rfl⟩
  | unencodable position first more => exact absurd (.unencodable position first more) h

theorem Fault.IsEncoders.exists_message {fault : Fault} (h : fault.IsEncoders) (p : String) :
    ∃ words, fault.message p = "'utf-8' codec can't encode character" ++ words := by
  obtain ⟨position, first, more⟩ := h
  unfold Fault.message encoderWords
  exact ⟨_, String.append_assoc ..⟩

/-- Below metadata, what the encoder says does not begin with a path. -/
theorem tells_iff_not_isEncoders {v : Json} {p : String} {fault : Fault}
    (h : First "metadata" v p fault) : Tells p fault ↔ ¬ fault.IsEncoders := by
  refine ⟨fun ⟨words, htells⟩ hencoders => ?_, fun h => tells_of_not_isEncoders h p⟩
  obtain ⟨place, part, hstands, -, -⟩ := h
  obtain ⟨further, rfl⟩ := hstands.exists_path
  obtain ⟨rest, hmessage⟩ := hencoders.exists_message ("metadata" ++ further)
  have hhead : ("'utf-8' codec can't encode character" ++ rest).toList.head? =
      ("metadata" ++ further ++ words).toList.head? := by rw [← hmessage, htells]
  simp at hhead

/-- Nothing is reported exactly if the value is well formed, and else the first unfit part is.  What
is said begins with its path, unless the part is a string with a surrogate. -/
theorem fault?_eq_first (path : String) (v : Json) :
    (fault? path v = none ↔ WellFormed v) ∧
      (∀ p fault, fault? path v = some (p, fault) ↔ First path v p fault) ∧
      ∀ p fault, fault? "metadata" v = some (p, fault) → (Tells p fault ↔ ¬ fault.IsEncoders) := by
  refine ⟨fault?_eq_none_iff path v, fun p fault => ⟨first_of_fault?, fun hfirst => ?_⟩,
    fun p fault hfound => tells_iff_not_isEncoders (first_of_fault? hfound)⟩
  cases hfound : fault? path v with
  | none =>
    obtain ⟨place, part, hstands, hunfit, -⟩ := hfirst
    have hwell := (fault?_eq_none_iff path v).mp hfound
    exact absurd hunfit ((wellFormed_iff path v).mp hwell place p part fault hstands)
  | some found =>
    obtain ⟨p', fault'⟩ := found
    obtain ⟨rfl, rfl⟩ := hfirst.unique (first_of_fault? hfound)
    rfl

/-- Of two unfit parts the one inside the earlier field is reported. -/
example :
    fault? "metadata" (.obj [("a", .arr [.int 1, .null]), ("b", .int (2 ^ 64))]) =
      some ("metadata.a[1]", .wrongKind "NoneType") := by
  decide +kernel

/-- Metadata with a surrogate that stands alone. -/
def loneSurrogate : Json :=
  .obj [("a", .arr [.str "x", .str (.stray "" ⟨0⟩ [])])]

/-- The surrogate is what is reported, and its path is not told. -/
theorem fault?_eq_first_loneSurrogate :
    fault? "metadata" loneSurrogate = some ("metadata.a[1]", .unencodable 0 ⟨0⟩ 0) ∧
      First "metadata" loneSurrogate "metadata.a[1]" (.unencodable 0 ⟨0⟩ 0) ∧
      ¬ Tells "metadata.a[1]" (.unencodable 0 ⟨0⟩ 0) := by
  obtain ⟨-, hfirst, htells⟩ := fault?_eq_first "metadata" loneSurrogate
  have hfound : fault? "metadata" loneSurrogate =
      some ("metadata.a[1]", .unencodable 0 ⟨0⟩ 0) := by
    decide +kernel
  refine ⟨hfound, (hfirst _ _).mp hfound, fun h => ?_⟩
  exact (htells _ _ hfound).mp h (.unencodable 0 ⟨0⟩ 0)

/-- An action with these metadata is refused in the words of the encoder alone. -/
theorem loneSurrogate_without_path :
    First "metadata" loneSurrogate "metadata.a[1]" (.unencodable 0 ⟨0⟩ 0) ∧
      Action.validate none (.obj [("type", .str "metadata"), ("metadata", loneSurrogate)]) =
        .error (.invalid [⟨"metadata", "'utf-8' codec can't encode character '\\ud800' in " ++
          "position 0: surrogates not allowed", none⟩]) ∧
      ¬ Tells "metadata.a[1]" (.unencodable 0 ⟨0⟩ 0) := by
  have hfirst : First "metadata" loneSurrogate "metadata.a[1]" (.unencodable 0 ⟨0⟩ 0) :=
    first_of_fault? (by decide +kernel)
  refine ⟨hfirst, rfl, fun h => ?_⟩
  exact (tells_iff_not_isEncoders hfirst).mp h (.unencodable 0 ⟨0⟩ 0)

end Metadatum

end TxDraft
