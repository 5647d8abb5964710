import TxDraft.Ogmios
import TxDraft.Proofs.WebAddress

/-!
# Where the node is

The node is found in two ways.  Questions go to the web socket in the same place, which has an
address of its own (`socketUrl_text`); the builder takes the address apart (`ofUrl_text`).  The two
sites are the same exactly if the address gives a port number other than zero, or none and the
connection is secured: without one the builder turns to the port of a node that says nothing else.
The address of the web socket has a scheme for web sockets unless a scheme for documents is not
written in lower case (`Endpoint.site_eq_iff`).
-/

namespace TxDraft

open Text

namespace WebAddress

/-! ### The web socket in the same place -/

namespace Scheme

/-- Is it a scheme for web sockets? -/
def isSocket : Scheme → Bool
  | ws | wss => true
  | http | https => false

/-- The scheme for web sockets in the same place. -/
def socket : Scheme → Scheme
  | http | ws => ws
  | https | wss => wss

@[simp] theorem isSecure_socket (s : Scheme) : s.socket.isSecure = s.isSecure := by
  cases s <;> rfl

@[simp] theorem isSocket_socket (s : Scheme) : s.socket.isSocket = true := by
  cases s <;> rfl

end Scheme

/-- Is the scheme written in lower case? -/
def isLowerCase (a : WebAddress) : Bool :=
  a.written = a.scheme.name

/-- The address of the web socket in the same place; a scheme that is not written in lower case is
left as it is. -/
def socket (a : WebAddress) : WebAddress :=
  if a.isLowerCase then
    { a with
      scheme := a.scheme.socket
      written := a.scheme.socket.name
      written_lower := by cases a.scheme <;> rfl }
  else a

/-- A text that begins with a scheme in lower case and its colon is that of an address with this
scheme, written so. -/
theorem scheme_of_chars_eq {a : WebAddress} {s : Scheme} {rest : List Char}
    (h : a.chars = s.name ++ ':' :: rest) : a.scheme = s ∧ a.isLowerCase = true := by
  have hne : s.name ≠ [] := by cases s <;> exact List.cons_ne_nil _ _
  have hspan := a.spanScheme_chars
  rw [h, spanScheme_append hne s.isLetter_of_mem_name, Prod.mk.injEq] at hspan
  have hlower := a.written_lower
  rw [← hspan.1] at hlower
  have hname : s.name.map Char.toLower = s.name := by cases s <;> decide
  rw [hname] at hlower
  have hscheme : a.scheme = s := (Scheme.name_injective hlower).symm
  refine ⟨hscheme, ?_⟩
  rw [isLowerCase, hscheme, ← hspan.1]
  exact decide_eq_true rfl

theorem chars_socket (a : WebAddress) (h : a.isLowerCase = true) :
    a.socket.chars = a.scheme.socket.name ++ ':' :: '/' :: '/' :: (a.authority ++ a.path) := by
  rw [socket, if_pos h]
  rfl

/-- Questions go to the web socket in the same place. -/
theorem socketUrl_text (a : WebAddress) : Ogmios.socketUrl a.text = a.socket.text := by
  -- letter case matters here: only a scheme that is written as its name is found in front
  have hafter (s : Scheme) : after? (s.name ++ [':', '/', '/']) a.text.toList =
      if a.isLowerCase ∧ a.scheme = s then some (a.authority ++ a.path) else none := by
    rw [text, String.toList_ofList]
    split
    · next h =>
      rw [after?_eq_some_iff, chars, of_decide_eq_true h.1, h.2, List.append_assoc]
      rfl
    · next h =>
      cases hrest : after? (s.name ++ [':', '/', '/']) a.chars with
      | none => rfl
      | some rest =>
        rw [after?_eq_some_iff, List.append_assoc] at hrest
        obtain ⟨hscheme, hlower⟩ := scheme_of_chars_eq hrest
        exact absurd ⟨hlower, hscheme⟩ h
  have hsecured : "https://".toList = Scheme.https.name ++ [':', '/', '/'] := by decide
  have hplain : "http://".toList = Scheme.http.name ++ [':', '/', '/'] := by decide
  have hsocket : ("wss://" : String) = String.ofList (Scheme.wss.name ++ [':', '/', '/']) ∧
      ("ws://" : String) = String.ofList (Scheme.ws.name ++ [':', '/', '/']) := ⟨rfl, rfl⟩
  rw [Ogmios.socketUrl, hsecured, hplain, hafter, hafter, hsocket.1, hsocket.2]
  cases hlower : a.isLowerCase with
  | false => simp [socket, hlower]
  | true =>
    have hwritten : a.written = a.scheme.name := of_decide_eq_true hlower
    rw [text, text, a.chars_socket hlower, chars, hwritten]
    cases a.scheme <;> simp [Scheme.socket, ← String.ofList_append]

theorem site_socket (a : WebAddress) : a.socket.site = a.site := by
  rw [socket]
  split
  · rw [site, site, Scheme.usualPortNumber, Scheme.usualPortNumber, Scheme.isSecure_socket]
    rfl
  · rfl

theorem isSocket_socket_iff (a : WebAddress) : a.socket.scheme.isSocket = true ↔
    a.isLowerCase = true ∨ a.scheme.isSocket = true := by
  rw [socket]
  split
  · next h => exact iff_of_true a.scheme.isSocket_socket (.inl h)
  · next h => exact (or_iff_right h).symm

/-! ### The endpoint of the builder -/

theorem endpoint_spanScheme_chars (a : WebAddress) :
    Endpoint.spanScheme a.chars =
      (String.ofList a.scheme.name, '/' :: '/' :: (a.authority ++ a.path)) := by
  rw [Endpoint.spanScheme, a.spanScheme_chars, ← a.lower_written]
  obtain ⟨c, rest, hc⟩ := List.exists_cons_of_ne_nil a.written_ne_nil
  simp only [hc]

/-- The builder takes the address apart: a port number of zero, or none, is the usual one for
secured connections, or that of a node. -/
theorem ofUrl_text (a : WebAddress) :
    ∃ path, Endpoint.ofUrl a.text = .ok ⟨a.host.text,
      (a.number?.filter (· ≠ 0)).getD
        (if a.scheme.isSecure then Endpoint.securePortNumber else Endpoint.nodePortNumber),
      path, a.scheme.isSecure⟩ := by
  have hhost : a.host.inside.isEmpty = false := List.isEmpty_eq_false_iff.mpr a.inside_ne_nil
  have hsecure : (String.ofList a.scheme.name = "https" || String.ofList a.scheme.name = "wss") =
      a.scheme.isSecure := by
    cases a.scheme <;> decide
  -- the characters that are passed over stand in the path only, so the parts are those of `a`
  have hspan := a.trim.endpoint_spanScheme_chars
  have hauthority := a.trim.spanAuthority_chars
  have hserver : Endpoint.hostAndNumber a.trim.authority = (a.host.inside, a.digits) :=
    a.trim.hostAndNumber_authority
  have hsound := a.trim.isSound_authority
  refine ⟨Endpoint.withoutSlashes (cut (· = '?') (cut (· = '#') a.trim.path).1).1, ?_⟩
  rw [Endpoint.ofUrl, text, String.toList_ofList, a.trimmed_chars]
  simp only [hspan, hauthority, hserver, hsound, a.portNumber?_digits, hhost, a.hostText_inside]
  rw [← hsecure]
  rfl

/-- Does the builder mean the port that the address means?  There is a port number other than zero,
or none and the connection is secured. -/
def sharesPort (a : WebAddress) : Bool :=
  match a.number? with
  | some n => n ≠ 0
  | none => a.scheme.isSecure

theorem portNumber_eq_iff (a : WebAddress) :
    (a.number?.filter (· ≠ 0)).getD
        (if a.scheme.isSecure then Endpoint.securePortNumber else Endpoint.nodePortNumber) =
      a.number?.getD a.scheme.usualPortNumber ↔ a.sharesPort = true := by
  rw [sharesPort, Scheme.usualPortNumber, Endpoint.securePortNumber, Endpoint.nodePortNumber]
  cases a.number? with
  | none => cases a.scheme.isSecure <;> decide
  | some n =>
    by_cases hn : n = 0
    · subst hn
      cases a.scheme.isSecure <;> decide
    · simp [Option.filter, hn]

end WebAddress

/-! ### Two ways to the node -/

namespace Endpoint

open WebAddress

/-- The site of an endpoint. -/
def site (e : Endpoint) : Site :=
  ⟨e.host, e.portNumber, e.secure⟩

/-- Whatever address the settings give, the builder finds an endpoint there, and the questions go to
the web socket in the same place.  The two sites differ in the port at most, and they are the same
exactly if the builder means the port that the address means; without a port number a connection
that is not secured is built on the port of a node.  The text to which the questions go has a scheme
for web sockets exactly if the address has one, or its scheme is written in lower case. -/
theorem site_eq_iff {s : Settings} {a : WebAddress} (h : s.ogmiosUrl = a.text) :
    ∃ e, ofUrl s.ogmiosUrl = .ok e ∧
      (Ogmios.Server.ofSettings s).url = a.socket.text ∧
      (∀ b : WebAddress, b.text = (Ogmios.Server.ofSettings s).url →
        e.site = { b.site with portNumber := e.portNumber } ∧
        (e.site = b.site ↔ a.sharesPort = true) ∧
        (b.scheme.isSocket = true ↔ a.isLowerCase = true ∨ a.scheme.isSocket = true)) ∧
      (a.number? = none → a.scheme.isSecure = false →
        e.portNumber = nodePortNumber) := by
  obtain ⟨path, hurl⟩ := a.ofUrl_text
  have hsocket : (Ogmios.Server.ofSettings s).url = a.socket.text := by
    rw [Ogmios.Server.ofSettings, Ogmios.Server.ofUrl, h]
    exact a.socketUrl_text
  refine ⟨_, h ▸ hurl, hsocket, fun b hb => ?_, fun hnumber hsecure => ?_⟩
  · obtain ⟨hscheme, hsite⟩ := site_eq_of_text_eq (hb.trans hsocket)
    rw [hscheme, hsite, a.site_socket]
    refine ⟨rfl, ?_, a.isSocket_socket_iff⟩
    rw [← a.portNumber_eq_iff, site, WebAddress.site, Site.mk.injEq]
    exact ⟨fun hsame => hsame.2.1, fun hport => ⟨rfl, hport, rfl⟩⟩
  · rw [hnumber, hsecure]
    rfl

end Endpoint

/-! ### Addresses with and without a port number -/

namespace WebAddress

/-- May the character stand in a host that is a name? -/
def isNaming (c : Char) : Bool :=
  isPlain c && c ≠ ':' && c ≠ '%'

theorem isNaming_iff {c : Char} :
    isNaming c = true ↔ isPlain c = true ∧ c ≠ ':' ∧ c ≠ '%' := by
  simp [isNaming, and_assoc]

/-- A host that is a name. -/
def Host.ofName (name : List Char) (hne : name ≠ []) (h : name.all isNaming = true) : Host :=
  have hnaming : ∀ c ∈ name, isPlain c = true ∧ c ≠ ':' ∧ c ≠ '%' := fun c hc =>
    isNaming_iff.mp (List.all_eq_true.mp h c hc)
  have hinside : withZone name none = name := List.append_nil name
  { name
    zone := none
    bracketed := false
    name_ne_nil := hne
    percent_not_mem := fun hmem => (hnaming _ hmem).2.2 rfl
    plain := by
      rw [hinside]
      exact fun c hc => (hnaming c hc).1
    sound := by
      rw [hinside]
      exact fun hmem => (hnaming _ hmem).2.1 rfl }

/-- The address of a node on this machine. -/
def localNode : WebAddress where
  scheme := .http
  written := ['h', 't', 't', 'p']
  host := .ofName ['l', 'o', 'c', 'a', 'l', 'h', 'o', 's', 't'] (List.cons_ne_nil _ _)
    (by decide)
  port := some ⟨['1', '3', '3', '7'], by decide, by decide, by decide⟩
  path := []
  written_lower := by decide
  path_slash := .inl rfl

/-- An address that says nothing of a port. -/
def withoutPort : WebAddress where
  scheme := .http
  written := ['h', 't', 't', 'p']
  host := .ofName ['o', 'g', 'm', 'i', 'o', 's', '.', 't', 'e', 's', 't'] (List.cons_ne_nil _ _)
    (by decide)
  port := none
  path := []
  written_lower := by decide
  path_slash := .inl rfl

end WebAddress

namespace Endpoint

open WebAddress

theorem site_eq_iff_default :
    Settings.default.ogmiosUrl = localNode.text ∧
      ∃ e, ofUrl Settings.default.ogmiosUrl = .ok e ∧
        (Ogmios.Server.ofSettings Settings.default).url = localNode.socket.text ∧
        e.site = localNode.socket.site ∧ localNode.socket.scheme.isSocket = true := by
  have htext : Settings.default.ogmiosUrl = localNode.text := rfl
  obtain ⟨e, hurl, hsocket, hsites, -⟩ := site_eq_iff htext
  obtain ⟨-, hsite, hscheme⟩ := hsites _ hsocket.symm
  exact ⟨htext, e, hurl, hsocket, hsite.mpr (by decide), hscheme.mpr (.inl (by decide))⟩

/-- Without a port number the builder turns to the port of a node, and the questions go to the usual
port of the scheme. -/
theorem withoutPort_apart :
    withoutPort.text = "http://ogmios.test" ∧ withoutPort.socket.text = "ws://ogmios.test" ∧
      Ogmios.socketUrl "http://ogmios.test" = "ws://ogmios.test" ∧
      ∃ e, ofUrl "http://ogmios.test" = .ok e ∧ e.portNumber = 1337 ∧
        withoutPort.socket.site.portNumber = 80 ∧ e.site ≠ withoutPort.socket.site := by
  have htext : withoutPort.text = "http://ogmios.test" := rfl
  have hsocket : withoutPort.socket.text = "ws://ogmios.test" := rfl
  obtain ⟨path, hurl⟩ := withoutPort.ofUrl_text
  rw [htext] at hurl
  refine ⟨htext, hsocket, ?_, _, hurl, rfl, by decide, ?_⟩
  · rw [← htext, socketUrl_text, hsocket]
  · intro hsite
    cases congrArg Site.portNumber hsite

end Endpoint

end TxDraft
