import TxDraft.Proofs.Utxo.Accounts
import TxDraft.Proofs.Value.Shapes

/-!
# One unit for each token

A unit text denotes a token, and the token's own unit denotes it again: this is the one form that
all spellings of a unit come down to.  A value that was read has such units as its keys, and so it
has a key of its own for every token that it holds; whatever a record gives of the token, in
whatever spelling, is added up there (`gathered_under_units`).
-/

namespace TxDraft

/-- A text in lower case without a point, as a policy or a name is. -/
structure Token.IsPart (s : String) : Prop where
  undotted : '.' ∉ s.toList
  lower : Text.lowerChars s.toList = s.toList

namespace Value

/-- Each key is the unit of its token, no token has two keys, and none is ADA's; under the unit of a
token stands what the entries give of it, all of it added up. -/
structure Gathered (entries : List Entry) (assets : Entries String Int) : Prop where
  canonical : ∀ key ∈ Entries.keys assets, (Token.ofUnit key).unit = key
  native : ∀ key ∈ Entries.keys assets, Token.ofUnit key ≠ .ada
  apart : ∀ key ∈ Entries.keys assets, ∀ key' ∈ Entries.keys assets,
    Token.ofUnit key = Token.ofUnit key' → key = key'
  once : (Entries.keys assets).Nodup
  quantities : ∀ unit, Token.ofUnit unit ≠ .ada →
    assets.quantity (Token.ofUnit unit).unit =
      (entries.map (Entry.amountFor (Token.ofUnit unit))).sum

theorem Canonical.unit_ofUnit {assets : Entries String Int} (h : Canonical assets) {key : String}
    (hkey : key ∈ Entries.keys assets) :
    (Token.ofUnit key).unit = key ∧ Token.ofUnit key ≠ .ada := by
  obtain ⟨t, hplain, hada, rfl⟩ := h.denoted key hkey
  rw [Token.ofUnit_unit hplain]
  refine ⟨rfl, ?_⟩
  rintro rfl
  cases hada

theorem gathered_of_ofRecord {record : Json.Fields} {value : Value}
    (h : ofRecord record = .ok value) :
    Gathered ((entries record).map Entry.asTaken) value.assets where
  canonical _ hkey := ((canonical_of_ofRecord h).unit_ofUnit hkey).1
  native _ hkey := ((canonical_of_ofRecord h).unit_ofUnit hkey).2
  apart key hkey key' hkey' hsame := by
    have hcanonical := canonical_of_ofRecord h
    rw [← (hcanonical.unit_ofUnit hkey).1, hsame, (hcanonical.unit_ofUnit hkey').1]
  once := (canonical_of_ofRecord h).nodup
  quantities unit hada := quantity_of_ofRecord h (Token.plain_ofUnit unit) hada

/-- All spellings of a unit come down to one: a unit text denotes the same token as the unit of that
token; a policy of full length and a name are the same token with a point between them and run
together; and the value of a record has one key for each token, with all that the record gives of
it. -/
theorem gathered_under_units :
    (∀ unit, Token.ofUnit (Token.ofUnit unit).unit = Token.ofUnit unit) ∧
      (∀ policy name : String, policy.length = 56 → Token.IsPart policy → Token.IsPart name →
        Token.ofUnit (policy ++ "." ++ name) = ⟨policy, name⟩ ∧
          Token.ofUnit (policy ++ name) = ⟨policy, name⟩) ∧
      ∀ record value, ofRecord record = .ok value →
        Gathered ((entries record).map Entry.asTaken) value.assets := by
  refine ⟨fun unit => Token.ofUnit_unit (Token.plain_ofUnit unit), ?_,
    fun record value => gathered_of_ofRecord⟩
  intro policy name hlength hpolicy hname
  have hdigits : policy.toList.length = 56 := hlength
  have hlowered : ∀ c ∈ policy.toList ++ name.toList, Text.Lowered c := by
    rw [← hpolicy.lower, ← hname.lower]
    exact List.forall_mem_append.mpr
      ⟨Text.lowered_of_mem_lowerChars, Text.lowered_of_mem_lowerChars⟩
  have hnative : (Token.mk policy name).isAda = false := by
    rw [← Bool.not_eq_true, Token.isAda_iff]
    intro hada
    rw [(Token.mk.inj hada).1] at hdigits
    exact absurd hdigits (by decide)
  constructor
  · have hunit : (Token.mk policy name).unit = policy ++ "." ++ name := by
      rw [Token.unit, if_neg (by simp [hnative])]
    have hplain : (Token.mk policy name).Plain := ⟨hpolicy.undotted, hlowered⟩
    rw [← hunit, Token.ofUnit_unit hplain]
  · refine Token.ofUnit_append hdigits ?_ hlowered
    rw [List.mem_append, not_or]
    exact ⟨hpolicy.undotted, hname.undotted⟩

/-- A record that gives one token three times, in three spellings, and lovelace between them. -/
def respelledThrice : Json.Fields :=
  [("amount", .arr [.obj [("unit", .str (samePolicy 'A' ++ "CAFE")), ("quantity", .str "2")]]),
    ("assets", .obj [(samePolicy 'a' ++ "." ++ "cafe", .int 5), ("lovelace", .int 7),
      (samePolicy 'a' ++ "CaFe", .str "+1")])]

/-- Eight pieces of the token, under its unit. -/
def gatheredOnce : Value :=
  ⟨7, [(samePolicy 'a' ++ "." ++ "cafe", 8)]⟩

theorem isPart_samePolicy : Token.IsPart (samePolicy 'a') := by
  constructor <;> decide +kernel

theorem gathered_under_units_respelled :
    ((samePolicy 'a').length = 56 ∧ Token.IsPart (samePolicy 'a') ∧ Token.IsPart "cafe" ∧
      Token.ofUnit (samePolicy 'a' ++ "." ++ "cafe") = ⟨samePolicy 'a', "cafe"⟩ ∧
      Token.ofUnit (samePolicy 'a' ++ "cafe") = ⟨samePolicy 'a', "cafe"⟩) ∧
    ofRecord respelledThrice = .ok gatheredOnce ∧
      Gathered ((entries respelledThrice).map Entry.asTaken) gatheredOnce.assets := by
  obtain ⟨-, hforms, hgathered⟩ := gathered_under_units
  have hlength : (samePolicy 'a').length = 56 := by decide +kernel
  have hname : Token.IsPart "cafe" := by constructor <;> decide +kernel
  have hread : ofRecord respelledThrice = .ok gatheredOnce := by rfl
  obtain ⟨hdotted, hjoined⟩ := hforms (samePolicy 'a') "cafe" hlength isPart_samePolicy hname
  exact ⟨⟨hlength, isPart_samePolicy, hname, hdotted, hjoined⟩, hread, hgathered _ _ hread⟩

end Value

end TxDraft
