import TxDraft.Endpoint
import TxDraft.Proofs.Text.LowerCase

/-!
# Web addresses and what they name

A web address with a scheme, a host and perhaps a port number and a path (`WebAddress`) names a
site: a host, a port number, which is the usual one of the scheme if none is given, and whether the
connection is secured.  Letter case does not matter in the scheme and in the host.

The readers of addresses find the parts in the text again: the scheme (`spanScheme_chars`), the
authority (`spanAuthority_chars`), and in it the host and the digits of the port number
(`hostAndNumber_authority`), whatever the path holds.  So the text of an address leaves no doubt
about its site (`site_eq_of_text_eq`).
-/

namespace TxDraft

open Text

/-! ### Web addresses -/

namespace WebAddress

/-- The schemes of addresses for documents and for web sockets. -/
inductive Scheme where
  | http
  | https
  | ws
  | wss
  deriving DecidableEq

namespace Scheme

def name : Scheme → List Char
  | http => ['h', 't', 't', 'p']
  | https => ['h', 't', 't', 'p', 's']
  | ws => ['w', 's']
  | wss => ['w', 's', 's']

/-- Are the connections secured? -/
def isSecure : Scheme → Bool
  | https | wss => true
  | http | ws => false

/-- The port number that is meant when none is given. -/
def usualPortNumber (s : Scheme) : Nat :=
  if s.isSecure then 443 else 80

theorem name_injective {s t : Scheme} (h : s.name = t.name) : s = t := by
  cases s <;> cases t <;> first | rfl | cases h

theorem isLetter_of_mem_name (s : Scheme) : ∀ c ∈ s.name, Url.isLetter c = true := by
  apply List.all_eq_true.mp
  cases s <;> decide

end Scheme

/-- Does the character stay in a text that is taken apart? -/
def isKept (c : Char) : Bool :=
  c ≠ '\t' && c ≠ '\n' && c ≠ '\r'

/-- May the character stand in the part of an address that says where the server is? -/
def isInside (c : Char) : Bool :=
  isKept c && !(['/', '?', '#', '@'].contains c) && !Endpoint.disguisedMarks.contains c.toNat

/-- May the character stand in a host, which brackets can surround? -/
def isPlain (c : Char) : Bool :=
  isInside c && c ≠ '[' && c ≠ ']'

/-- A name with a zone behind it. -/
def withZone (name : List Char) (zone : Option (List Char)) : List Char :=
  name ++ zone.elim [] ('%' :: ·)

/-- A host: a name, or an address between brackets, either perhaps with a zone.  What the brackets
hold is of a form that can be read, and a name holds no colon. -/
structure Host where
  name : List Char
  zone : Option (List Char)
  /-- Do brackets stand around it? -/
  bracketed : Bool
  name_ne_nil : name ≠ []
  percent_not_mem : '%' ∉ name
  plain : ∀ c ∈ withZone name zone, isPlain c = true
  sound : if bracketed then Endpoint.isBracketed (withZone name zone) = true
    else ':' ∉ withZone name zone

namespace Host

/-- The host without brackets. -/
def inside (h : Host) : List Char :=
  withZone h.name h.zone

/-- The host as it is written. -/
def chars (h : Host) : List Char :=
  if h.bracketed then '[' :: (h.inside ++ [']']) else h.inside

/-- The host that is meant, in lower case but for its zone. -/
def text (h : Host) : String :=
  lower (String.ofList h.name) ++ (h.zone.map fun z => String.ofList ('%' :: z)).getD ""

end Host

/-- What stands behind the colon of a host: a port number, or nothing. -/
structure Port where
  digits : List Char
  isAsciiDigit : digits.all isAsciiDigit = true
  short : digits.length ≤ Quantity.maxDigits
  small : decimalValue digits ≤ 65535

/-- A place and whether connections to it are secured. -/
structure Site where
  host : String
  portNumber : Nat
  secure : Bool
  deriving DecidableEq

end WebAddress

/-- A web address with a scheme in any letter case, a host and perhaps a port number and a path. -/
structure WebAddress where
  scheme : WebAddress.Scheme
  /-- The scheme as it is written. -/
  written : List Char
  host : WebAddress.Host
  port : Option WebAddress.Port
  path : List Char
  written_lower : written.map Char.toLower = scheme.name
  path_slash : path = [] ∨ ∃ rest, path = '/' :: rest

namespace WebAddress

/-- The digits of the port number; there may be none. -/
def digits (a : WebAddress) : List Char :=
  a.port.elim [] Port.digits

/-- The port number that is given. -/
def number? (a : WebAddress) : Option Nat :=
  if a.digits.isEmpty then none else some (decimalValue a.digits)

/-- What is written behind the host. -/
def behindHost (a : WebAddress) : List Char :=
  a.port.elim [] fun port => ':' :: port.digits

/-- The host and the port number as they are written. -/
def authority (a : WebAddress) : List Char :=
  a.host.chars ++ a.behindHost

def chars (a : WebAddress) : List Char :=
  a.written ++ ':' :: '/' :: '/' :: (a.authority ++ a.path)

/-- The text of the address. -/
def text (a : WebAddress) : String :=
  String.ofList a.chars

/-- The site that the address names. -/
def site (a : WebAddress) : Site :=
  ⟨a.host.text, a.number?.getD a.scheme.usualPortNumber, a.scheme.isSecure⟩

/-- The address without the characters that are passed over. -/
def trim (a : WebAddress) : WebAddress :=
  { a with
    path := a.path.filter isKept
    path_slash := by
      obtain hpath | ⟨rest, hpath⟩ := a.path_slash
      · exact .inl (by rw [hpath]; rfl)
      · exact .inr ⟨rest.filter isKept, by rw [hpath]; rfl⟩ }

/-! ### The characters of the parts -/

theorem isInside_iff {c : Char} :
    isInside c = true ↔ isKept c = true ∧ (c ≠ '/' ∧ c ≠ '?' ∧ c ≠ '#' ∧ c ≠ '@') ∧
      c.toNat ∉ Endpoint.disguisedMarks := by
  simp [isInside, and_assoc]

theorem isPlain_iff {c : Char} : isPlain c = true ↔ isInside c = true ∧ c ≠ '[' ∧ c ≠ ']' := by
  simp [isPlain, and_assoc]

theorem toNat_lt_of_isLetter {c : Char} (h : Url.isLetter c = true) : c.toNat < 0x80 := by
  simp only [Url.isLetter, Char.le_def, UInt32.le_iff_toNat_le, Bool.or_eq_true, Bool.and_eq_true,
    decide_eq_true_eq] at h
  show c.val.toNat < 0x80
  have hz : 'z'.val.toNat = 0x7A := rfl
  have hZ : 'Z'.val.toNat = 0x5A := rfl
  omega

theorem isKept_of_isLetter {c : Char} (h : Url.isLetter c = true) :
    isKept c = true ∧ 0x20 < c.toNat :=
  of_ascii (P := fun c => Url.isLetter c = true → isKept c = true ∧ 0x20 < c.toNat)
    (by decide +kernel) (toNat_lt_of_isLetter h) h

theorem isPlain_of_isAsciiDigit {c : Char} (h : isAsciiDigit c = true) : isPlain c = true := by
  have hascii : c.toNat < 0x80 := by
    simp only [isAsciiDigit, Bool.and_eq_true, decide_eq_true_eq] at h
    omega
  exact of_ascii (P := fun c => isAsciiDigit c = true → isPlain c = true) (by decide +kernel)
    hascii h

theorem isLetter_of_toLower {c : Char} (h : Url.isLetter c.toLower = true) :
    Url.isLetter c = true := by
  unfold Char.toLower at h
  split at h
  · next hupper =>
    have hletter : (decide ('A' ≤ c) && decide (c ≤ 'Z')) = true := by
      rw [Bool.and_eq_true, decide_eq_true_iff, decide_eq_true_iff]
      exact hupper
    rw [Url.isLetter, hletter, Bool.or_true]
  · exact h

section Parts

variable (a : WebAddress)

theorem isLetter_of_mem_written : ∀ c ∈ a.written, Url.isLetter c = true := by
  intro c hc
  have hlower : c.toLower ∈ a.scheme.name := a.written_lower ▸ List.mem_map_of_mem hc
  exact isLetter_of_toLower (a.scheme.isLetter_of_mem_name _ hlower)

theorem written_ne_nil : a.written ≠ [] := by
  intro hnil
  have hname := a.written_lower
  rw [hnil] at hname
  cases hscheme : a.scheme <;> rw [hscheme] at hname <;> cases hname

theorem lower_written : lower (String.ofList a.written) = String.ofList a.scheme.name := by
  rw [lower, String.toList_ofList, lowerChars, lowerFrom_of_ascii, a.written_lower]
  exact fun c hc => toNat_lt_of_isLetter (a.isLetter_of_mem_written c hc)

theorem Host.isPlain_of_mem_inside (h : Host) : ∀ c ∈ h.inside, isPlain c = true :=
  h.plain

theorem Host.isInside_of_mem_chars (h : Host) : ∀ c ∈ h.chars, isInside c = true := by
  have hinside : ∀ c ∈ h.inside, isInside c = true := fun c hc =>
    (isPlain_iff.mp (h.isPlain_of_mem_inside c hc)).1
  unfold Host.chars
  split
  · have hopen : isInside '[' = true := by decide
    have hclose : isInside ']' = true := by decide
    rw [List.forall_mem_cons, List.forall_mem_append, List.forall_mem_singleton]
    exact ⟨hopen, hinside, hclose⟩
  · exact hinside

theorem isPlain_of_mem_behindHost : ∀ c ∈ a.behindHost, isPlain c = true := by
  unfold behindHost
  cases a.port with
  | none => exact List.forall_mem_nil _
  | some port =>
    have hcolon : isPlain ':' = true := by decide
    rw [Option.elim_some, List.forall_mem_cons]
    exact ⟨hcolon, fun c hc => isPlain_of_isAsciiDigit (List.all_eq_true.mp port.isAsciiDigit c hc)⟩

theorem isInside_of_mem_authority : ∀ c ∈ a.authority, isInside c = true := by
  unfold authority
  rw [List.forall_mem_append]
  exact ⟨a.host.isInside_of_mem_chars,
    fun c hc => (isPlain_iff.mp (a.isPlain_of_mem_behindHost c hc)).1⟩

end Parts

/-! ### Taking an address apart -/

/-- A scheme in front is read up to its colon. -/
theorem spanScheme_append {written rest : List Char} (hne : written ≠ [])
    (h : ∀ c ∈ written, Url.isLetter c = true) :
    Url.spanScheme (written ++ ':' :: rest) = (written, rest) := by
  have hin : ∀ c ∈ written, (!Url.inScheme c) = false := by
    intro c hc
    rw [Url.inScheme, h c hc]
    rfl
  have hcut : cut (!Url.inScheme ·) (written ++ ':' :: rest) = (written, some rest) :=
    cut_append_cons hin (by decide) rest
  have hcolon : (written ++ ':' :: rest)[written.length]? = some ':' := by
    rw [List.getElem?_append_right (Nat.le_refl _), Nat.sub_self]
    rfl
  cases written with
  | nil => exact absurd rfl hne
  | cons c scheme =>
    rw [Url.spanScheme, hcut]
    simp only [hcolon, h c List.mem_cons_self]
    rfl

/-- What stands behind two slashes goes as far as its characters may stand there. -/
theorem spanAuthority_append {authority path : List Char}
    (h : ∀ c ∈ authority, isInside c = true) (hpath : path = [] ∨ ∃ rest, path = '/' :: rest) :
    Url.spanAuthority ('/' :: '/' :: (authority ++ path)) = (authority, path) := by
  have hinside : ∀ c ∈ authority, (decide (c ≠ '/') && decide (c ≠ '?') && decide (c ≠ '#')) := by
    intro c hc
    obtain ⟨-, ⟨hslash, hquestion, hhash, -⟩, -⟩ := isInside_iff.mp (h c hc)
    simp [hslash, hquestion, hhash]
  rw [Url.spanAuthority, List.takeWhile_append_of_pos hinside,
    List.dropWhile_append_of_pos hinside]
  obtain rfl | ⟨rest, rfl⟩ := hpath
  · simp
  · simp

section Parts

variable (a : WebAddress)

theorem spanScheme_chars :
    Url.spanScheme a.chars = (a.written, '/' :: '/' :: (a.authority ++ a.path)) :=
  spanScheme_append a.written_ne_nil a.isLetter_of_mem_written

theorem spanAuthority_chars :
    Url.spanAuthority ('/' :: '/' :: (a.authority ++ a.path)) = (a.authority, a.path) :=
  spanAuthority_append a.isInside_of_mem_authority a.path_slash

/-- Nothing but the path holds characters that are passed over. -/
theorem trimmed_chars : Endpoint.trimmed a.chars = a.trim.chars := by
  have hwritten : ∀ c ∈ a.written, isKept c = true := fun c hc =>
    (isKept_of_isLetter (a.isLetter_of_mem_written c hc)).1
  have hauthority : ∀ c ∈ a.authority, isKept c = true := fun c hc =>
    (isInside_iff.mp (a.isInside_of_mem_authority c hc)).1
  have hfront : a.chars.dropWhile (fun c => c.toNat ≤ 0x20) = a.chars := by
    obtain ⟨c, rest, hc⟩ := List.exists_cons_of_ne_nil a.written_ne_nil
    have hblank := (isKept_of_isLetter (a.isLetter_of_mem_written c (hc ▸ List.mem_cons_self))).2
    rw [chars, hc, List.cons_append, List.dropWhile_cons_of_neg]
    simpa using hblank
  show (a.chars.dropWhile fun c => c.toNat ≤ 0x20).filter isKept = _
  rw [hfront, chars, List.filter_append, List.filter_eq_self.mpr hwritten]
  show a.written ++ ':' :: '/' :: '/' :: (a.authority ++ a.path).filter isKept = _
  rw [List.filter_append, List.filter_eq_self.mpr hauthority]
  rfl

end Parts

/-- No plain character is a bracket. -/
theorem ne_bracket_of_isPlain {cs : List Char} (h : ∀ c ∈ cs, isPlain c = true) :
    (∀ c ∈ cs, decide (c = '[') = false) ∧ ∀ c ∈ cs, decide (c = ']') = false :=
  ⟨fun c hc => decide_eq_false (isPlain_iff.mp (h c hc)).2.1,
    fun c hc => decide_eq_false (isPlain_iff.mp (h c hc)).2.2⟩

section Parts

variable (a : WebAddress)

theorem cut_behindHost : ((cut (· = ':') a.behindHost).2).getD [] = a.digits := by
  unfold behindHost digits
  cases a.port <;> rfl

theorem cut_bracket {authority rest : List Char} (h : authority = '[' :: rest) :
    cut (· = '[') authority = ([], some rest) := by
  rw [h]
  rfl

/-- A closing bracket behind the host ends it. -/
theorem Host.cut_inside (h : Host) (after : List Char) :
    cut (· = ']') (h.inside ++ ']' :: after) = (h.inside, some after) :=
  cut_append_cons (ne_bracket_of_isPlain h.isPlain_of_mem_inside).2 (decide_eq_true rfl) after

/-- Around the host there are brackets, or there are none in the whole authority. -/
theorem authority_cases :
    (Endpoint.isBracketed a.host.inside = true ∧
      a.authority = '[' :: (a.host.inside ++ ']' :: a.behindHost)) ∨
    (':' ∉ a.host.inside ∧ a.authority = a.host.inside ++ a.behindHost ∧
      ∀ c ∈ a.authority, isPlain c = true) := by
  have hsound := a.host.sound
  by_cases hbracketed : a.host.bracketed = true
  · rw [if_pos hbracketed] at hsound
    refine .inl ⟨hsound, ?_⟩
    rw [authority, Host.chars, if_pos hbracketed, List.cons_append, List.append_assoc]
    rfl
  · rw [if_neg hbracketed] at hsound
    have hauthority : a.authority = a.host.inside ++ a.behindHost := by
      rw [authority, Host.chars, if_neg hbracketed]
    refine .inr ⟨hsound, hauthority, ?_⟩
    rw [hauthority, List.forall_mem_append]
    exact ⟨a.host.isPlain_of_mem_inside, a.isPlain_of_mem_behindHost⟩

theorem hasBrackets_authority : Endpoint.hasBrackets a.authority = true := by
  rcases a.authority_cases with ⟨hbracketed, hauthority⟩ | ⟨-, -, hplain⟩
  · have hopened : a.authority.contains '[' = true := by
      rw [hauthority, List.contains_cons]
      rfl
    have hclosed : a.authority.contains ']' = true := by
      rw [hauthority]
      simp
    rw [Endpoint.hasBrackets, hopened, hclosed]
    show Endpoint.isBracketed (cut (· = ']') (((cut (· = '[') a.authority).2).getD [])).1 = true
    rw [cut_bracket hauthority, Option.getD_some, Host.cut_inside]
    exact hbracketed
  · have hnone (bracket : Char) (hbracket : isPlain bracket = false) :
        a.authority.contains bracket = false := by
      rw [List.contains_eq_mem, decide_eq_false_iff_not]
      intro hmem
      rw [hplain _ hmem] at hbracket
      cases hbracket
    rw [Endpoint.hasBrackets, hnone '[' (by decide), hnone ']' (by decide)]

theorem isSound_authority : Endpoint.isSound a.authority = true := by
  have hmarks : (a.authority.any fun c => Endpoint.disguisedMarks.contains c.toNat) = false := by
    rw [List.any_eq_false]
    intro c hc
    have hmark := (isInside_iff.mp (a.isInside_of_mem_authority c hc)).2.2
    simpa using hmark
  rw [Endpoint.isSound, a.hasBrackets_authority, hmarks]
  rfl

theorem hostAndNumber_authority :
    Endpoint.hostAndNumber a.authority = (a.host.inside, a.digits) := by
  have huser : cutLast (· = '@') a.authority = (none, a.authority) := by
    refine cutLast_of_forall fun c hc => decide_eq_false ?_
    exact (isInside_iff.mp (a.isInside_of_mem_authority c hc)).2.1.2.2.2
  rcases a.authority_cases with ⟨-, hauthority⟩ | ⟨hcolon, hauthority, hplain⟩
  · rw [Endpoint.hostAndNumber, huser]
    simp only [cut_bracket hauthority, Host.cut_inside, Option.getD_some, a.cut_behindHost]
  · have hcut : cut (· = '[') a.authority = (a.authority, none) :=
      cut_of_forall (ne_bracket_of_isPlain hplain).1
    have hhost : ∀ c ∈ a.host.inside, decide (c = ':') = false := fun c hc =>
      decide_eq_false fun hc' => hcolon (hc' ▸ hc)
    have hparts : cut (· = ':') a.authority = (a.host.inside, a.port.map Port.digits) := by
      rw [hauthority, behindHost]
      cases a.port with
      | none =>
        rw [Option.elim_none, List.append_nil]
        exact cut_of_forall hhost
      | some port => exact cut_append_cons hhost (decide_eq_true rfl) _
    rw [Endpoint.hostAndNumber, huser]
    simp only [hcut, hparts, digits]
    cases a.port <;> rfl

theorem portNumber?_digits : Endpoint.portNumber? a.digits = some a.number? := by
  unfold Endpoint.portNumber? number? digits
  cases a.port with
  | none => rfl
  | some port =>
    rw [Option.elim_some, port.isAsciiDigit, decide_eq_true port.short, decide_eq_true port.small]
    cases port.digits.isEmpty <;> rfl

theorem hostText_inside : Endpoint.hostText a.host.inside = a.host.text := by
  have hname : ∀ c ∈ a.host.name, decide (c = '%') = false := fun c hc =>
    decide_eq_false fun hc' => a.host.percent_not_mem (hc' ▸ hc)
  have hcut : cut (· = '%') a.host.inside = (a.host.name, a.host.zone) := by
    rw [Host.inside, withZone]
    cases a.host.zone with
    | none =>
      rw [Option.elim_none, List.append_nil]
      exact cut_of_forall hname
    | some zone => exact cut_append_cons hname (decide_eq_true rfl) _
  rw [Endpoint.hostText, hcut]
  rfl

theorem inside_ne_nil : a.host.inside ≠ [] := by
  intro hnil
  exact a.host.name_ne_nil (List.append_eq_nil_iff.mp hnil).1

end Parts

/-- The text of an address leaves no doubt about its scheme and its site. -/
theorem site_eq_of_text_eq {a b : WebAddress} (h : a.text = b.text) :
    a.scheme = b.scheme ∧ a.site = b.site := by
  have hchars : a.chars = b.chars := String.ofList_inj.mp h
  -- each reader finds its part in both texts, which are one text
  have hscheme := a.spanScheme_chars
  rw [hchars, b.spanScheme_chars, Prod.mk.injEq] at hscheme
  obtain ⟨hwritten, hrest⟩ := hscheme
  have hspan := a.spanAuthority_chars
  rw [← hrest, b.spanAuthority_chars, Prod.mk.injEq] at hspan
  have hserver := a.hostAndNumber_authority
  rw [← hspan.1, b.hostAndNumber_authority, Prod.mk.injEq] at hserver
  obtain ⟨hinside, hdigits⟩ := hserver
  have hscheme : a.scheme = b.scheme := by
    apply Scheme.name_injective
    rw [← a.written_lower, ← b.written_lower, hwritten]
  refine ⟨hscheme, ?_⟩
  rw [site, site, ← a.hostText_inside, ← b.hostText_inside, number?, number?, hinside, hdigits,
    hscheme]

end WebAddress

end TxDraft
