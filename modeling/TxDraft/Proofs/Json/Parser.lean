import TxDraft.Json.Parser

/-!
# Reading documents

A document is its first value, if only blanks come after it (`parse_ofList`).

A reader that bounds the digits of an integer reads what the unbounded reader reads, or it stops at
an integer that is too long (`agrees_parse`).  Nothing else in a reader depends on the limit, so
agreement is put together from the parts by one rule (`Agrees.bind`), by induction on the fuel.
-/

namespace TxDraft.Json

variable {α β : Type}

/-! ### Documents made of characters -/

theorem parse_ofList {limit : DigitLimit} {cs : List Char}
    (hmark : cs.head? ≠ some (Char.ofNat 0xFEFF)) :
    parse limit (String.ofList cs) =
      (readValue limit (cs.length + 1) (skipBlanks cs) >>= fun read =>
        match skipBlanks read.2 with
        | [] => pure read.1
        | rest => .error ⟨.extraData, rest.length⟩) := by
  unfold parse
  rw [String.toList_ofList]
  exact if_neg hmark

/-! ### The limit on digits -/

/-- What was read with a limit is what is read without, or the limit stopped the reader. -/
def Agrees (limited unlimited : Except Fault α) : Prop :=
  limited = unlimited ∨ ∃ fault, limited = .error fault ∧ fault.isLongNumber = true

theorem Agrees.refl (read : Except Fault α) : Agrees read read :=
  .inl rfl

theorem Agrees.bind {limited unlimited : Except Fault α} {next next' : α → Except Fault β}
    (h : Agrees limited unlimited) (hnext : ∀ a, Agrees (next a) (next' a)) :
    Agrees (limited >>= next) (unlimited >>= next') := by
  rcases h with rfl | ⟨fault, rfl, hfault⟩
  · cases limited with
    | error fault => exact .refl _
    | ok a => exact hnext a
  · exact .inr ⟨fault, rfl, hfault⟩

theorem agrees_readNumber (n : Nat) (negative : Bool) (cs : List Char) :
    Agrees (readNumber (some n) negative cs) (readNumber none negative cs) := by
  unfold readNumber
  dsimp only
  generalize (if cs.head? = some '0' then ['0'] else cs.takeWhile Text.isAsciiDigit) = whole
  split
  · rw [Option.any_some, Option.any_none, if_neg Bool.false_ne_true]
    split
    · exact .inr ⟨_, rfl, rfl⟩
    · exact .refl _
  · exact .refl _

theorem agrees_readers (n fuel : Nat) :
    (∀ cs, Agrees (readValue (some n) fuel cs) (readValue none fuel cs)) ∧
    (∀ cs, Agrees (readItems (some n) fuel cs) (readItems none fuel cs)) ∧
    ∀ cs, Agrees (readFields (some n) fuel cs) (readFields none fuel cs) := by
  -- the readers call each other with less fuel, so the three go together
  induction fuel with
  | zero => exact ⟨fun _ => .refl _, fun _ => .refl _, fun _ => .refl _⟩
  | succ fuel ih =>
    obtain ⟨hvalue, hitems, hfields⟩ := ih
    refine ⟨fun cs => ?_, fun cs => ?_, fun cs => ?_⟩
    · unfold readValue
      split
      · exact .refl _
      · split
        · exact .refl _
        · exact (hitems _).bind fun _ => .refl _
      · split
        · exact .refl _
        · exact (hfields _).bind fun _ => .refl _
      · split
        · exact .refl _
        · split
          split
          · exact agrees_readNumber n _ _
          · exact .refl _
    · unfold readItems
      refine (hvalue cs).bind fun ⟨v, rest⟩ => ?_
      dsimp only
      split
      · exact .refl _
      · exact (hitems _).bind fun _ => .refl _
      · exact .refl _
    · unfold readFields
      split
      · refine Agrees.bind (.refl _) fun ⟨name, rest⟩ => ?_
        dsimp only
        split
        · refine (hvalue _).bind fun ⟨v, rest⟩ => ?_
          dsimp only
          split
          · exact .refl _
          · exact (hfields _).bind fun _ => .refl _
          · exact .refl _
        · exact .refl _
      · exact .refl _

theorem agrees_parse (n : Nat) (document : String) :
    Agrees (parse (some n) document) (parse none document) := by
  unfold parse
  dsimp only
  split
  · exact .refl _
  · exact ((agrees_readers n _).1 _).bind fun _ => .refl _

end TxDraft.Json
