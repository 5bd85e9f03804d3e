import WolkConnect.Download.Single
import Mathlib.Data.List.TakeWhile

/-!
# The name of a downloaded file

`download` cuts the name out of the URI: behind the last slash, which may be one of the
query, and up to a question mark, unless that is the first character.
-/

namespace WolkConnect

/-- A path, and a query when there is one. -/
structure UriParts where
  path : List Char
  query : Option (List Char)
  path_slash : path.head? = some '/'
  path_plain : '?' ∉ path

/-- What is behind the last slash. -/
def lastPart (text : List Char) : List Char := (text.reverse.takeWhile (· ≠ '/')).reverse

/-- The part up to a question mark. `find` gives 0, which is false, for one at the start. -/
def cutQuery (part : List Char) : List Char :=
  if part.head? = some '?' then part else part.takeWhile (· ≠ '?')

/-- The part as a name, or the digest of the file when the part is empty. -/
def nameOr (bu : ByteUtils) (bytes : Bytes) (part : List Char) : String :=
  if part = [] then hexStream (bu.hashSHA256 bytes) else String.ofList part

namespace UriParts

variable (u : UriParts)

def text : List Char := u.path ++ u.query.elim [] ('?' :: ·)

/-- The name that a file has by its path. -/
def name (bu : ByteUtils) (bytes : Bytes) : String := nameOr bu bytes (lastPart u.path)

/-- There is no query, or the query has no slash and the path has a last part, or what is behind the
last slash of the query gives the same name. -/
def NamedByPath (bu : ByteUtils) (bytes : Bytes) : Prop :=
  ∀ query ∈ u.query,
    if '/' ∈ query then
      (lastPart query).head? ≠ some '?' ∧
        nameOr bu bytes (cutQuery (lastPart query)) = u.name bu bytes
    else lastPart u.path ≠ []

end UriParts

/-! ## Parts -/

variable {bu : ByteUtils} {bytes : Bytes} {part text : List Char}

theorem slash_lastPart (text : List Char) : '/' ∉ lastPart text := by
  intro h
  have hmem := List.mem_takeWhile_imp (List.mem_reverse.mp h)
  simp at hmem

theorem mem_of_lastPart {c : Char} (h : c ∈ lastPart text) : c ∈ text :=
  List.mem_reverse.mp ((List.takeWhile_prefix _).subset (List.mem_reverse.mp h))

/-- The last slash is in the second text, or the last part goes on into it. -/
theorem lastPart_append (front text : List Char) :
    lastPart (front ++ text) = if '/' ∈ text then lastPart text else lastPart front ++ text := by
  split_ifs with hslash
  · unfold lastPart
    rw [List.reverse_append, List.takeWhile_append, if_neg]
    intro hlength
    have hself := (List.takeWhile_prefix (p := (· ≠ '/'))).eq_of_length hlength
    have hmem := List.mem_takeWhile_imp (hself ▸ List.mem_reverse.mpr hslash)
    simp at hmem
  · have hall : ∀ c ∈ text.reverse, decide (c ≠ '/') = true := fun c hc =>
      decide_eq_true fun heq => hslash (heq ▸ List.mem_reverse.mp hc)
    unfold lastPart
    rw [List.reverse_append, List.takeWhile_append_of_pos hall, List.reverse_append,
      List.reverse_reverse]

theorem nameOr_of_ne_nil (h : part ≠ []) : nameOr bu bytes part = String.ofList part := if_neg h

/-- The digest is written in digits. -/
theorem plain_hexStream (bytes : Bytes) :
    '/' ∉ (hexStream bytes).toList ∧ '?' ∉ (hexStream bytes).toList := by
  have hdigit : ∀ n, n < 16 → n.digitChar ≠ '/' ∧ n.digitChar ≠ '?' := by decide
  have hbyte : ∀ b : UInt8, b.toNat / 16 < 16 ∧ b.toNat % 16 < 16 := fun b => by
    have := b.toNat_lt
    omega
  unfold hexStream
  rw [String.toList_ofList]
  constructor <;>
  · intro hmem
    obtain ⟨b, -, hb⟩ := List.mem_flatMap.mp hmem
    obtain ⟨hhigh, hlow⟩ := hbyte b
    rcases List.mem_cons.mp hb with heq | hb
    · first | exact (hdigit _ hhigh).1 heq.symm | exact (hdigit _ hhigh).2 heq.symm
    · have heq := List.mem_singleton.mp hb
      first | exact (hdigit _ hlow).1 heq.symm | exact (hdigit _ hlow).2 heq.symm

theorem plain_nameOr (hslash : '/' ∉ part) (hquery : '?' ∉ part) :
    '/' ∉ (nameOr bu bytes part).toList ∧ '?' ∉ (nameOr bu bytes part).toList := by
  unfold nameOr
  split_ifs
  · exact plain_hexStream _
  · rw [String.toList_ofList]
    exact ⟨hslash, hquery⟩

/-! ## The name that the code gives -/

theorem fileName_eq (bu : ByteUtils) (url : String) (bytes : Bytes) :
    fileName bu url bytes = nameOr bu bytes (cutQuery (lastPart (extractUri url))) := rfl

theorem cutQuery_of_plain (hquery : '?' ∉ part) : cutQuery part = part := by
  have hhead : part.head? ≠ some '?' := fun h => hquery (List.mem_of_head? h)
  have hall : ∀ c ∈ part, decide (c ≠ '?') = true := fun c hc =>
    decide_eq_true fun heq => hquery (heq ▸ hc)
  rw [cutQuery, if_neg hhead, List.takeWhile_eq_self_iff.mpr hall]

theorem cutQuery_append (hne : part ≠ []) (hquery : '?' ∉ part) (rest : List Char) :
    cutQuery (part ++ '?' :: rest) = part := by
  have hall : ∀ c ∈ part, decide (c ≠ '?') = true := fun c hc =>
    decide_eq_true fun heq => hquery (heq ▸ hc)
  have hhead : (part ++ '?' :: rest).head? ≠ some '?' := by
    rw [List.head?_append_of_ne_nil _ hne]
    exact fun h => hquery (List.mem_of_head? h)
  rw [cutQuery, if_neg hhead, List.takeWhile_append_of_pos hall]
  simp

namespace UriParts

variable (u : UriParts)

theorem plain_name (bu : ByteUtils) (bytes : Bytes) :
    '/' ∉ (u.name bu bytes).toList ∧ '?' ∉ (u.name bu bytes).toList :=
  plain_nameOr (slash_lastPart _) fun h => u.path_plain (mem_of_lastPart h)

/-- A part that begins with a question mark stays as it is, and is no name. -/
theorem nameOr_ne_name (hhead : part.head? = some '?') :
    nameOr bu bytes (cutQuery part) ≠ u.name bu bytes := by
  intro heq
  obtain ⟨rest, rfl⟩ := List.head?_eq_some_iff.mp hhead
  have hplain := (u.plain_name bu bytes).2
  rw [← heq, cutQuery, if_pos hhead, nameOr_of_ne_nil (List.cons_ne_nil _ _),
    String.toList_ofList] at hplain
  exact hplain List.mem_cons_self

theorem fileName_iff {url : String} (huri : extractUri url = u.text) :
    fileName bu url bytes = u.name bu bytes ↔ u.NamedByPath bu bytes := by
  have hplain : '?' ∉ lastPart u.path := fun h => u.path_plain (mem_of_lastPart h)
  rw [fileName_eq, huri, text, NamedByPath]
  cases hquery : u.query with
  | none =>
    rw [Option.elim_none, List.append_nil, cutQuery_of_plain hplain]
    exact iff_of_true rfl fun _ h => by cases h
  | some query =>
    simp only [Option.elim_some, Option.mem_some_iff, forall_eq']
    rw [lastPart_append]
    by_cases hslash : '/' ∈ query
    · have hlast : lastPart ('?' :: query) = lastPart query := by
        rw [← List.singleton_append, lastPart_append, if_pos hslash]
      rw [if_pos (List.mem_cons_of_mem _ hslash), if_pos hslash, hlast]
      exact ⟨fun heq => ⟨fun hhead => u.nameOr_ne_name hhead heq, heq⟩, And.right⟩
    · rw [if_neg (by simp [hslash]), if_neg hslash]
      by_cases hpart : lastPart u.path = []
      · rw [hpart, List.nil_append]
        exact iff_of_false (u.nameOr_ne_name List.head?_cons) fun h => h rfl
      · rw [cutQuery_append hpart hplain]
        exact iff_of_true rfl hpart

end UriParts

/-! ## What is announced -/

namespace HTTPFileDownloader

variable {x : HTTPFileDownloader} {t : Download} {body : Bytes} {response : Response}

/-- The thread after the server has answered with this body: the file is announced. -/
def received (bu : ByteUtils) (x : HTTPFileDownloader) (t : Download) (body : Bytes)
    (response : Response) : HTTPFileDownloader :=
  (x.stepThread bu t (.reply 200 body)).stepThread bu { t with phase := .received } response

theorem commandBuffer_received (hphase : t.phase = .connected) (hstatus : x.status ≠ .fileReady)
    (hcallback : x.statusCallback.isSome = true) :
    (x.received bu t body response).commandBuffer =
      x.commandBuffer ++ [⟨t.owner, .fileReady, .none, fileName bu t.url body⟩] := by
  have hbody : x.stepThread bu t (.reply 200 body) = x.takeBody bu t body := by
    simp [stepThread, hphase]
  unfold received
  rw [hbody]
  simp [stepThread, takeBody, announceFile, changeStatus, hstatus.symm, hcallback]

/-- **The name of a downloaded file** is the last part of the path, or the digest of the file, if
and only if the query lets it. -/
theorem named_by_path_iff (u : UriParts) (huri : extractUri t.url = u.text)
    (hphase : t.phase = .connected) (hstatus : x.status ≠ .fileReady)
    (hcallback : x.statusCallback.isSome = true) :
    ((x.received bu t body response).commandBuffer =
        x.commandBuffer ++ [⟨t.owner, .fileReady, .none, u.name bu body⟩] ↔ u.NamedByPath bu body) ∧
      '/' ∉ (u.name bu body).toList ∧ '?' ∉ (u.name bu body).toList := by
  refine ⟨?_, u.plain_name bu body⟩
  rw [commandBuffer_received hphase hstatus hcallback, ← u.fileName_iff huri]
  simp

/-! ## Two URIs -/

/-- A downloader that waits for the body of a file. -/
def waiting : HTTPFileDownloader :=
  { create with status := .fileTransfer, statusCallback := some ⟨"d", 0⟩ }

def fetching (url : String) : Download := ⟨url, ⟨"d", 0⟩, .connected⟩

/-- What is announced when this body comes. -/
def fetched (url : String) (body : Bytes) : List StatusCommand :=
  (waiting.received tableByteUtils (fetching url) body .exception).commandBuffer

theorem named_by_path_iff_b : ∃ u : UriParts,
    extractUri (fetching "http://host.com/a/b?c=d").url = u.text ∧
    fetched "http://host.com/a/b?c=d" [97] =
      [⟨⟨"d", 0⟩, .fileReady, .none, u.name tableByteUtils [97]⟩] := by
  let u : UriParts := ⟨"/a/b".toList, some "c=d".toList, by decide, by decide⟩
  have huri : extractUri (fetching "http://host.com/a/b?c=d").url = u.text := by decide +kernel
  have hnamed : u.NamedByPath tableByteUtils [97] := by
    rintro query ⟨⟩
    rw [if_neg (by decide)]
    decide
  exact ⟨u, huri, (named_by_path_iff u huri rfl (by decide) rfl).1.mpr hnamed⟩

/-- A slash in the query, and a query behind a path that ends with a slash. -/
theorem query_names_file : ∃ u v : UriParts,
    (extractUri (fetching "http://host.com/f?x=a/b").url = u.text ∧
      fetched "http://host.com/f?x=a/b" [97] ≠
        [⟨⟨"d", 0⟩, .fileReady, .none, u.name tableByteUtils [97]⟩]) ∧
    extractUri (fetching "http://host.com/f/?x").url = v.text ∧
      fetched "http://host.com/f/?x" [97] ≠
        [⟨⟨"d", 0⟩, .fileReady, .none, v.name tableByteUtils [97]⟩] := by
  let u : UriParts := ⟨"/f".toList, some "x=a/b".toList, by decide, by decide⟩
  let v : UriParts := ⟨"/f/".toList, some "x".toList, by decide, by decide⟩
  exact ⟨u, v, ⟨by decide +kernel, by decide +kernel⟩, by decide +kernel, by decide +kernel⟩

end HTTPFileDownloader

end WolkConnect
