import WolkConnect.Download.Model
import Mathlib.Data.List.Infix

/-!
# The parts of a URL

A URL that is composed of a scheme, a host, a port and a path, and what `download` makes
of it. The three functions take both prefixes out of the URL, wherever they are.
-/

namespace WolkConnect

inductive UrlScheme
  | http | https
  deriving DecidableEq

namespace UrlScheme

def text : UrlScheme → List Char
  | .http => httpPathPrefix
  | .https => httpsPathPrefix

def other : UrlScheme → UrlScheme
  | .http => .https
  | .https => .http

def defaultPort : UrlScheme → Nat
  | .http => 80
  | .https => 443

end UrlScheme

/-- The parts of a URL. The port is the text of its digits. -/
structure UrlParts where
  scheme : UrlScheme
  host : List Char
  port : Option (List Char)
  path : List Char
  host_ne_nil : host ≠ []
  host_plain : ':' ∉ host ∧ '/' ∉ host ∧ '?' ∉ host
  port_ne_nil : ∀ digits ∈ port, digits ≠ []
  port_digits : ∀ digits ∈ port, ∀ c ∈ digits, c.isDigit = true
  port_range : ∀ digits ∈ port,
    1 ≤ Nat.ofDigitChars 10 digits 0 ∧ Nat.ofDigitChars 10 digits 0 ≤ 65535
  path_slash : path = [] ∨ path.head? = some '/'

namespace UrlParts

variable (u : UrlParts)

/-- The host, with the port when there is one. -/
def authority : List Char := u.host ++ u.port.elim [] (':' :: ·)

def url : String := String.ofList (u.scheme.text ++ (u.authority ++ u.path))

def portNumber (absent : Nat) : Nat := u.port.elim absent fun digits => Nat.ofDigitChars 10 digits 0

/-- The functions find the parts again, and a session is opened to the host and the port. -/
structure Decomposed : Prop where
  host : extractHost u.url = u.host
  uri : extractUri u.url = if u.path = [] then ['/'] else u.path
  port : extractPort u.url = some (UInt16.ofNat (u.portNumber 80))
  session : ∀ (x : HTTPFileDownloader) (download : Download), download.url = u.url →
    ∃ session, (x.openSession download).session = some session ∧ session.host = u.host ∧
      session.port = UInt16.ofNat (u.portNumber u.scheme.defaultPort)

/-- The prefix of the other scheme is not in the path, a path with a colon stands behind a port, and
a port of `https` is the default one. -/
structure Plain : Prop where
  prefixes : contains u.scheme.other.text u.path = false
  colon : u.port = none → ':' ∉ u.path
  secure : u.scheme = .https → u.portNumber 443 = 443

end UrlParts

/-! ## Taking out a prefix -/

section Erase

variable {pattern text : List Char}

theorem contains_cons (pattern : List Char) (c : Char) (text : List Char) :
    contains pattern (c :: text) = (pattern.isPrefixOf (c :: text) || contains pattern text) := by
  simp [contains]

theorem eraseFirst_append (hpattern : pattern ≠ []) (rest : List Char) :
    eraseFirst pattern (pattern ++ rest) = rest := by
  obtain ⟨c, pattern', rfl⟩ := List.exists_cons_of_ne_nil hpattern
  have hprefix : (c :: pattern').isPrefixOf (c :: (pattern' ++ rest)) = true :=
    List.isPrefixOf_iff_prefix.mpr ⟨rest, rfl⟩
  rw [List.cons_append, eraseFirst, if_pos hprefix]
  simp

theorem contains_prefix (pattern rest : List Char) : contains pattern (pattern ++ rest) = true := by
  have hprefix : pattern.isPrefixOf (pattern ++ rest) = true :=
    List.isPrefixOf_iff_prefix.mpr ⟨rest, rfl⟩
  exact List.any_eq_true.mpr ⟨pattern ++ rest, (List.mem_tails _ _).mpr List.suffix_rfl, hprefix⟩

theorem eraseFirst_of_not_contains (h : contains pattern text = false) :
    eraseFirst pattern text = text := by
  induction text with
  | nil => rfl
  | cons c text ih =>
    rw [contains_cons, Bool.or_eq_false_iff] at h
    rw [eraseFirst, if_neg (by simp [h.1]), ih h.2]

theorem length_eraseFirst (hpattern : pattern ≠ []) (h : contains pattern text = true) :
    (eraseFirst pattern text).length < text.length := by
  induction text with
  | nil => simp [contains, hpattern] at h
  | cons c text ih =>
    unfold eraseFirst
    split_ifs with hprefix
    · have hpos := List.length_pos_iff.mpr hpattern
      rw [List.length_drop, List.length_cons]
      omega
    · rw [contains_cons, Bool.or_eq_true] at h
      exact Nat.succ_lt_succ (ih (h.resolve_left hprefix))

end Erase

/-- What a path looks like, also after a prefix was taken out of it. -/
def AtSlash (path : List Char) : Prop := path = [] ∨ path.head? = some '/'

theorem takeWhile_atSlash {authority path : List Char} (hslash : '/' ∉ authority)
    (hpath : AtSlash path) : (authority ++ path).takeWhile (· ≠ '/') = authority := by
  have hnone : path.takeWhile (· ≠ '/') = [] := by
    rcases hpath with rfl | hhead
    · rfl
    · obtain ⟨rest, rfl⟩ := List.head?_eq_some_iff.mp hhead
      simp
  have hall : ∀ c ∈ authority, decide (c ≠ '/') = true := fun c hc =>
    decide_eq_true fun heq => hslash (heq ▸ hc)
  rw [List.takeWhile_append_of_pos hall, hnone, List.append_nil]

theorem dropWhile_atSlash {authority path : List Char} (hslash : '/' ∉ authority)
    (hpath : AtSlash path) : (authority ++ path).dropWhile (· ≠ '/') = path := by
  have hsplit := List.takeWhile_append_dropWhile (p := (· ≠ '/')) (l := authority ++ path)
  rw [takeWhile_atSlash hslash hpath] at hsplit
  exact List.append_cancel_left hsplit

namespace UrlScheme

variable (s : UrlScheme) {authority path : List Char}

theorem text_ne_nil : s.text ≠ [] := by cases s <;> decide

/-- Up to its first slash, a prefix ends with a colon. -/
theorem not_prefix_authority (hne : authority ≠ []) (hslash : '/' ∉ authority)
    (hlast : authority.getLast? ≠ some ':') (hpath : AtSlash path) :
    s.text.isPrefixOf (authority ++ path) = false := by
  rw [Bool.eq_false_iff]
  intro hprefix
  obtain ⟨rest, hrest⟩ := List.isPrefixOf_iff_prefix.mp hprefix
  have htake := congrArg (List.takeWhile (· ≠ '/')) hrest
  rw [takeWhile_atSlash hslash hpath] at htake
  subst htake
  cases s with
  | http => exact hlast rfl
  | https => exact hlast rfl

theorem eraseFirst_authority (hslash : '/' ∉ authority) (hlast : authority.getLast? ≠ some ':')
    (hpath : AtSlash path) :
    eraseFirst s.text (authority ++ path) = authority ++ eraseFirst s.text path := by
  induction authority with
  | nil => rfl
  | cons c authority ih =>
    have hno := s.not_prefix_authority (List.cons_ne_nil c authority) hslash hlast hpath
    rw [List.cons_append] at hno ⊢
    rw [eraseFirst, if_neg (by simp [hno]),
      ih (fun hmem => hslash (List.mem_cons_of_mem _ hmem)) ?_, List.cons_append]
    intro hend
    rw [List.getLast?_cons, hend] at hlast
    exact hlast rfl

theorem contains_authority (hslash : '/' ∉ authority) (hlast : authority.getLast? ≠ some ':')
    (hpath : AtSlash path) : contains s.text (authority ++ path) = contains s.text path := by
  induction authority with
  | nil => rfl
  | cons c authority ih =>
    have hno := s.not_prefix_authority (List.cons_ne_nil c authority) hslash hlast hpath
    rw [List.cons_append] at hno ⊢
    rw [contains_cons, hno, ih (fun hmem => hslash (List.mem_cons_of_mem _ hmem)) ?_,
      Bool.false_or]
    intro hend
    rw [List.getLast?_cons, hend] at hlast
    exact hlast rfl

theorem text_eq : s.text = 'h' :: 't' :: 't' :: 'p' ::
    match s with
    | .http => [':', '/', '/']
    | .https => ['s', ':', '/', '/'] := by
  cases s <;> rfl

/-- The prefix of the other scheme does not begin in this one. -/
theorem eraseFirst_other (rest : List Char) :
    eraseFirst s.other.text (s.text ++ rest) = s.text ++ eraseFirst s.other.text rest := by
  rw [text_eq, text_eq]
  cases s <;> simp [other, eraseFirst]

theorem contains_other (rest : List Char) :
    contains s.other.text (s.text ++ rest) = contains s.other.text rest := by
  rw [text_eq, text_eq]
  cases s <;> simp [other, contains_cons, List.isPrefixOf]

theorem eraseFirst_slash (rest : List Char) :
    eraseFirst s.text ('/' :: rest) = '/' :: eraseFirst s.text rest := by
  have hno : s.text.isPrefixOf ('/' :: rest) = false := by cases s <;> rfl
  rw [eraseFirst, if_neg (by simp [hno])]

end UrlScheme

/-! ## The digits of a port -/

/-- `std::stoul` reads the digits up to a character that is none. -/
theorem stoul_digits {digits rest : List Char} (hne : digits ≠ [])
    (hdigits : ∀ c ∈ digits, c.isDigit = true) (hrest : ∀ c ∈ rest.head?, c.isDigit = false)
    (hvalue : Nat.ofDigitChars 10 digits 0 < 2 ^ 64) :
    stoul (digits ++ rest) = some (Nat.ofDigitChars 10 digits 0) := by
  obtain ⟨c, tail, rfl⟩ := List.exists_cons_of_ne_nil hne
  have hc : c.isDigit = true := hdigits c List.mem_cons_self
  have hrange : 48 ≤ c.toNat ∧ c.toNat ≤ 57 := by
    simp only [Char.isDigit, Bool.and_eq_true, decide_eq_true_eq, UInt32.le_iff_toNat_le] at hc
    exact hc
  have hspace : ¬ (c = ' ' ∨ 9 ≤ c.toNat ∧ c.toNat ≤ 13) := by
    rintro (rfl | h)
    · revert hc; decide
    · omega
  have hsign : c ≠ '-' ∧ c ≠ '+' := by
    constructor <;> rintro rfl <;> revert hc <;> decide
  have hrest' : rest.takeWhile Char.isDigit = [] := by
    cases rest with
    | nil => rfl
    | cons d rest => simp [hrest d rfl]
  have hread : (c :: tail ++ rest).takeWhile Char.isDigit = c :: tail := by
    rw [List.takeWhile_append_of_pos hdigits, hrest', List.append_nil]
  have hskip : (c :: tail ++ rest).dropWhile
      (fun c => decide (c = ' ' ∨ 9 ≤ c.toNat ∧ c.toNat ≤ 13)) = c :: tail ++ rest := by
    rw [List.cons_append, List.dropWhile_cons_of_neg (by simpa using hspace)]
  unfold stoul
  dsimp only
  rw [hskip]
  simp only [List.cons_append, List.head?_cons, Option.some.injEq, hsign.1, hsign.2, or_self,
    if_false]
  rw [← List.cons_append, hread, ← Nat.ofDigitChars_eq_foldl]
  exact if_neg (by simpa using hvalue)

namespace UrlParts

variable (u : UrlParts)

theorem authority_some {digits : List Char} (hport : u.port = some digits) :
    u.authority = u.host ++ ':' :: digits := by
  rw [authority, hport]
  rfl

theorem authority_none (hport : u.port = none) : u.authority = u.host := by
  rw [authority, hport]
  exact List.append_nil _

theorem host_ne_colon : ∀ c ∈ u.host, decide (c ≠ ':') = true :=
  fun _ hc => decide_eq_true fun heq => u.host_plain.1 (heq ▸ hc)

theorem slash_authority : '/' ∉ u.authority := by
  unfold authority
  cases hport : u.port with
  | none => simpa using u.host_plain.2.1
  | some digits =>
    have hdigits := u.port_digits digits hport
    have hnone : '/' ∉ digits := fun hmem => absurd (hdigits '/' hmem) (by decide)
    simp [u.host_plain.2.1, hnone]

theorem last_authority : u.authority.getLast? ≠ some ':' := by
  unfold authority
  cases hport : u.port with
  | none =>
    intro hlast
    rw [Option.elim_none, List.append_nil] at hlast
    exact u.host_plain.1 (List.mem_of_getLast? hlast)
  | some digits =>
    intro hlast
    have hne := u.port_ne_nil digits hport
    have hend : (':' :: digits).getLast? = digits.getLast? := by
      rw [List.getLast?_cons, List.getLast?_eq_some_getLast hne]
      rfl
    rw [Option.elim_some, List.getLast?_append_of_ne_nil _ (List.cons_ne_nil _ _), hend] at hlast
    have hdigit := u.port_digits digits hport ':' (List.mem_of_getLast? hlast)
    revert hdigit
    decide

theorem takeOutPrefix_url :
    takeOutPrefix u.url = u.authority ++ eraseFirst u.scheme.other.text u.path := by
  have hslash := u.slash_authority
  have hlast := u.last_authority
  have hpath : AtSlash u.path := u.path_slash
  unfold takeOutPrefix url
  rw [String.toList_ofList]
  cases hscheme : u.scheme with
  | http =>
    change eraseFirst UrlScheme.https.text (eraseFirst UrlScheme.http.text _) = _
    rw [eraseFirst_append (UrlScheme.text_ne_nil _)]
    exact UrlScheme.https.eraseFirst_authority hslash hlast hpath
  | https =>
    have hother := UrlScheme.https.eraseFirst_other (u.authority ++ u.path)
    change eraseFirst UrlScheme.https.text (eraseFirst UrlScheme.http.text _) = _
    change eraseFirst UrlScheme.http.text _ = _ at hother
    rw [hother, eraseFirst_append (UrlScheme.text_ne_nil _)]
    exact UrlScheme.http.eraseFirst_authority hslash hlast hpath

/-- The path as it is, or what is behind its slash. -/
theorem path_cases : u.path = [] ∨ ∃ rest, u.path = '/' :: rest :=
  u.path_slash.imp_right List.head?_eq_some_iff.mp

theorem extractUri_url :
    extractUri u.url = if u.path = [] then ['/'] else eraseFirst u.scheme.other.text u.path := by
  have hslash := u.slash_authority
  unfold extractUri
  rw [takeOutPrefix_url]
  rcases u.path_cases with hpath | ⟨rest, hpath⟩
  · rw [hpath, if_pos rfl]
    simp [eraseFirst, hslash]
  · rw [hpath, if_neg (List.cons_ne_nil _ _), UrlScheme.eraseFirst_slash, if_pos (by simp),
      dropWhile_atSlash hslash (.inr rfl)]

/-- A host goes on to the first colon there is. -/
theorem extractHost_colon {rest : List Char}
    (htaken : takeOutPrefix u.url = u.host ++ '/' :: rest) (hcolon : ':' ∈ rest) :
    extractHost u.url ≠ u.host := by
  unfold extractHost
  rw [htaken, if_pos (by simp [hcolon]), List.takeWhile_append_of_pos u.host_ne_colon]
  simp

section Plain

variable {u} (h : u.Plain)
include h

theorem Plain.taken : takeOutPrefix u.url = u.authority ++ u.path := by
  rw [takeOutPrefix_url, eraseFirst_of_not_contains h.prefixes]

theorem Plain.extractHost : extractHost u.url = u.host := by
  unfold WolkConnect.extractHost
  rw [h.taken]
  cases hport : u.port with
  | some digits =>
    have hauthority := u.authority_some hport
    rw [hauthority, if_pos (by simp), List.append_assoc,
      List.takeWhile_append_of_pos u.host_ne_colon]
    simp
  | none =>
    have hauthority := u.authority_none hport
    have hslash := u.host_plain.2.1
    rw [hauthority, if_neg (by simp [u.host_plain.1, h.colon hport])]
    rcases u.path_cases with hpath | ⟨rest, hpath⟩
    · rw [hpath, List.append_nil, if_neg hslash]
    · rw [hpath, if_pos (by simp), takeWhile_atSlash hslash (.inr rfl)]

theorem Plain.extractPort : extractPort u.url = some (UInt16.ofNat (u.portNumber 80)) := by
  unfold WolkConnect.extractPort portNumber
  rw [h.taken]
  cases hport : u.port with
  | some digits =>
    have hauthority := u.authority_some hport
    have hcolon : (u.authority ++ u.path).idxOf ':' = u.host.length := by
      rw [hauthority, List.append_assoc, List.idxOf_append_of_notMem u.host_plain.1]
      simp
    have hdrop : (u.authority ++ u.path).drop (u.host.length + 1) = digits ++ u.path := by
      rw [hauthority, List.append_assoc, List.drop_length_add_append]
      rfl
    have hlong : digits.length ≤ (u.authority ++ u.path).idxOf '/' := by
      rw [List.idxOf_append_of_notMem u.slash_authority, hauthority]
      simp only [List.length_append, List.length_cons]
      omega
    have hrange := u.port_range digits hport
    dsimp only
    rw [if_pos (by simp [hauthority]), hcolon, hdrop, List.take_append,
      List.take_of_length_le hlong, stoul_digits (u.port_ne_nil digits hport)
        (u.port_digits digits hport) ?_ (by omega)]
    · rfl
    · intro c hc
      rw [List.head?_take] at hc
      split_ifs at hc
      · cases hc
      · rcases u.path_cases with hpath | ⟨rest, hpath⟩
        · rw [hpath] at hc
          cases hc
        · rw [hpath] at hc
          cases hc
          decide
  | none =>
    have hauthority := u.authority_none hport
    dsimp only
    rw [hauthority, if_neg (by simp [u.host_plain.1, h.colon hport])]
    rfl

/-- `download` takes a URL for a secure one when it has the prefix of `https`. -/
theorem Plain.secure_url : contains httpsPathPrefix u.url.toList = decide (u.scheme = .https) := by
  have hprefixes := h.prefixes
  rw [url, String.toList_ofList]
  cases hscheme : u.scheme with
  | http =>
    have hother := UrlScheme.http.contains_other (u.authority ++ u.path)
    rw [UrlScheme.contains_authority _ u.slash_authority u.last_authority u.path_slash, ← hscheme,
      hprefixes, hscheme] at hother
    exact hother
  | https => exact contains_prefix _ _

theorem Plain.openSession (x : HTTPFileDownloader) (download : Download)
    (hurl : download.url = u.url) : (x.openSession download).session =
      some ⟨decide (u.scheme = .https), u.host, UInt16.ofNat (u.portNumber u.scheme.defaultPort)⟩ := by
  unfold HTTPFileDownloader.openSession
  rw [hurl, h.extractPort, h.extractHost]
  dsimp only
  rw [h.secure_url]
  cases hscheme : u.scheme with
  | http => rfl
  | https =>
    have hport : u.portNumber UrlScheme.https.defaultPort = 443 := h.secure hscheme
    rw [hport]
    rfl

end Plain

theorem Plain.decomposed (h : u.Plain) : u.Decomposed where
  host := h.extractHost
  uri := by rw [extractUri_url, eraseFirst_of_not_contains h.prefixes]
  port := h.extractPort
  session x download hurl := ⟨_, h.openSession x download hurl, rfl, rfl⟩

/-! ## URLs that are not decomposed -/

variable {u}

theorem Decomposed.prefixes (h : u.Decomposed) : contains u.scheme.other.text u.path = false := by
  rw [Bool.eq_false_iff]
  intro hcontains
  have hpath : u.path ≠ [] := by
    intro hnil
    rw [hnil] at hcontains
    cases hscheme : u.scheme <;> rw [hscheme] at hcontains <;> revert hcontains <;> decide
  have huri := h.uri
  rw [extractUri_url, if_neg hpath, if_neg hpath] at huri
  have hshorter := length_eraseFirst (UrlScheme.text_ne_nil _) hcontains
  rw [huri] at hshorter
  exact Nat.lt_irrefl _ hshorter

theorem Decomposed.colon (h : u.Decomposed) (hport : u.port = none) : ':' ∉ u.path := by
  intro hcolon
  rcases u.path_cases with hpath | ⟨rest, hpath⟩
  · rw [hpath] at hcolon
    cases hcolon
  · have htaken : takeOutPrefix u.url = u.host ++ '/' :: rest := by
      rw [takeOutPrefix_url, eraseFirst_of_not_contains h.prefixes, u.authority_none hport, hpath]
    rw [hpath] at hcolon
    have hrest : ':' ∈ rest := (List.mem_cons.mp hcolon).resolve_left (by decide)
    exact u.extractHost_colon htaken hrest h.host

theorem portNumber_le (absent : Nat) (habsent : absent ≤ 65535) : u.portNumber absent ≤ 65535 := by
  unfold portNumber
  cases hport : u.port with
  | none => exact habsent
  | some digits => exact (u.port_range digits hport).2

theorem Decomposed.secure (h : u.Decomposed) (hscheme : u.scheme = .https) :
    u.portNumber 443 = 443 := by
  obtain ⟨session, hsession, -, hport⟩ := h.session .create ⟨u.url, ⟨"", 0⟩, .announced⟩ rfl
  have hsecure : contains httpsPathPrefix u.url.toList = true := by
    rw [url, String.toList_ofList, hscheme]
    exact contains_prefix _ _
  unfold HTTPFileDownloader.openSession at hsession
  rw [h.port] at hsession
  dsimp only at hsession
  rw [hsecure] at hsession
  cases hsession
  rw [hscheme] at hport
  have hnumber := congrArg UInt16.toNat hport
  have hle := portNumber_le (u := u) 443 (by decide)
  change 443 = (UInt16.ofNat (u.portNumber 443)).toNat at hnumber
  rw [UInt16.toNat_ofNat_of_lt' (by change _ < 65536; omega)] at hnumber
  exact hnumber.symm

variable (u)

/-- **The parts of a URL are found again** if and only if the path has not the prefix of the other
scheme in it, and a colon only behind a port, and a port of `https` is 443. -/
theorem decomposed_iff : u.Decomposed ↔ u.Plain :=
  ⟨fun h => ⟨h.prefixes, h.colon, h.secure⟩, Plain.decomposed u⟩

/-- A colon in a path, a port of `https` that is not the default one, and the prefix of `https` in a
path of `http`. -/
theorem parts_not_found : ∃ colon secure inner : UrlParts,
    (colon.url = "http://host.com/a:b" ∧ passesRegex colon.url = true ∧ ¬ colon.Decomposed) ∧
    (secure.url = "https://host.com:8443/f" ∧ passesRegex secure.url = true ∧ ¬ secure.Decomposed) ∧
    (inner.url = "http://host.com/https://f" ∧ passesRegex inner.url = true ∧ ¬ inner.Decomposed) := by
  let colon : UrlParts := {
    scheme := .http, host := "host.com".toList, port := none, path := "/a:b".toList
    host_ne_nil := by decide, host_plain := by decide, port_ne_nil := by decide
    port_digits := by decide, port_range := by decide, path_slash := by decide }
  let secure : UrlParts := {
    scheme := .https, host := "host.com".toList, port := some "8443".toList, path := "/f".toList
    host_ne_nil := by decide, host_plain := by decide, port_ne_nil := by decide
    port_digits := by rintro digits ⟨⟩; exact List.all_eq_true.mp (by decide)
    port_range := by decide +kernel, path_slash := by decide }
  let inner : UrlParts := {
    scheme := .http, host := "host.com".toList, port := none, path := "/https://f".toList
    host_ne_nil := by decide, host_plain := by decide, port_ne_nil := by decide
    port_digits := by decide, port_range := by decide, path_slash := by decide }
  refine ⟨colon, secure, inner, ⟨by decide +kernel, by decide +kernel, fun h => ?_⟩,
    ⟨by decide +kernel, by decide +kernel, fun h => ?_⟩,
    ⟨by decide +kernel, by decide +kernel, fun h => ?_⟩⟩
  · have hhost := h.host
    revert hhost
    decide +kernel
  · obtain ⟨session, hsession, -, hport⟩ := h.session .create ⟨secure.url, ⟨"", 0⟩, .announced⟩ rfl
    have hopened : (HTTPFileDownloader.create.openSession
        ⟨secure.url, ⟨"", 0⟩, .announced⟩).session = some ⟨true, "host.com".toList, 443⟩ := by
      decide +kernel
    rw [hopened] at hsession
    cases hsession
    revert hport
    decide +kernel
  · have huri := h.uri
    revert huri
    decide +kernel

end UrlParts

end WolkConnect
