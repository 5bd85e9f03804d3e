import WolkConnect.Download.Single
import WolkConnect.Service.Statuses

/-!
# No session is left behind

A session that stays in `m_sessions` keeps its device from any other transfer. Once the
commands have run, it waits for a chunk that was asked for, or for a downloader that has
its URL.
-/

namespace WolkConnect

open FileTransferSession (Kept Regular)

/-! ## Chunk requests -/

def Effect.requestOf (deviceKey : String) : Effect → Option FileBinaryRequestMessage
  | .published d (.fileBinaryRequest request) _ => if d = deviceKey then some request else none
  | _ => none

/-- The chunk requests that were published for a device. -/
def requests (deviceKey : String) (log : List Effect) : List FileBinaryRequestMessage :=
  log.filterMap (Effect.requestOf deviceKey)

theorem requests_append (d : String) (log log' : List Effect) :
    requests d (log ++ log') = requests d log ++ requests d log' := List.filterMap_append

theorem requests_filter (d : String) (log : List Effect) :
    requests d (log.filter Effect.isSaid) = requests d log := by
  apply filterMap_isSaid
  intro e he
  cases e with
  | published key message session =>
    cases message with
    | fileBinaryRequest request => cases he
    | _ => rfl
  | _ => rfl

section Requests

variable {δ μ φ : Type} (ctx : Context δ μ φ)

theorem requests_spokenStatus (d key : String) (s : FileTransferSession) (status : FileTransferStatus)
    (error : FileTransferError) : requests d (ctx.spokenStatus key s status error) = [] := by
  unfold Context.spokenStatus Context.spoken FileManagementService.statusMessage
  split_ifs <;> rfl

theorem requests_spokenFailure (d key : String) (s : FileTransferSession) (effects : List Effect) :
    requests d (ctx.spokenFailure key s effects) = [] := by
  unfold Context.spokenFailure
  split_ifs
  · exact requests_spokenStatus ctx d key s _ _
  · rfl

theorem requests_spokenRequest {ctx : Context δ μ φ}
    (hmake : ∀ d message, ctx.makeOutboundMessage d message = true) (d : String)
    (s : FileTransferSession) : requests d (ctx.spokenRequest d s) = [s.getNextChunkRequest] := by
  unfold Context.spokenRequest Context.spoken
  rw [if_pos (hmake _ _)]
  unfold requests
  rw [List.filterMap_cons, Effect.requestOf, if_pos rfl]
  rfl

theorem requests_spokenRequest_other {d key : String} (h : key ≠ d) (s : FileTransferSession) :
    requests d (ctx.spokenRequest key s) = [] := by
  unfold Context.spokenRequest Context.spoken
  split_ifs
  · unfold requests
    rw [List.filterMap_cons, Effect.requestOf, if_neg h]
    rfl
  · rfl

end Requests

/-! ## What a session waits for -/

/-- An upload that is not done, whose next chunk is the last one asked for since its start. -/
structure Awaits (log : List Effect) (deviceKey : String) (s : FileTransferSession) : Prop where
  url : s.url = ""
  unfinished : s.done = false
  positive : 0 < s.size
  fits : collected s.chunks < s.size
  asked : ∃ earlier message later,
    log = earlier ++ .published deviceKey message (some s.ptr) :: later ∧
      (requests deviceKey later).getLast? = some s.getNextChunkRequest

/-- A URL session whose download was handed over, and whose end the downloader has not announced. -/
structure Downloading (handed : SessionPtr → String → Prop) (log : List Effect)
    (s : FileTransferSession) : Prop where
  url : s.url ≠ ""
  ongoing : s.status.isTerminal = false
  handed : handed s.ptr s.url
  unannounced : ∀ callback, .delivered callback ∈ log → callback.owner = s.ptr →
    callback.status.isTerminal = false

theorem Awaits.append {log more : List Effect} {d : String} {s : FileTransferSession}
    (h : Awaits log d s) (hnone : requests d more = []) : Awaits (log ++ more) d s where
  url := h.url
  unfinished := h.unfinished
  positive := h.positive
  fits := h.fits
  asked := by
    obtain ⟨earlier, message, later, hlog, hlast⟩ := h.asked
    refine ⟨earlier, message, later ++ more, ?_, ?_⟩
    · rw [hlog, List.append_assoc, List.cons_append]
    · rw [requests_append, hnone, List.append_nil, hlast]

namespace System

variable {δ μ φ : Type} (ctx : Context δ μ φ)

/-- A step of the run made the session, and called `downloadFile` for it. -/
def Handed (init : System δ φ) (es : List (Event μ)) (p : SessionPtr) (url : String) : Prop :=
  ∃ before past after sys sys' x,
    es = before ++ .receive p.deviceKey (.fileUrlDownloadInit ⟨url⟩) past :: after ∧
    Machine.Run (step ctx) (fun _ _ => True) init before sys ∧
    sys.step ctx (.receive p.deviceKey (.fileUrlDownloadInit ⟨url⟩) past) = .ok sys' ∧
    sys'.svc.session? p.deviceKey = some (.ofUrlDownload p.serial p.deviceKey ⟨url⟩ true) ∧
    sys.svc.downloader = some x ∧
    sys'.svc.downloader = some (ctx.downloads.downloadFile x url p)

/-- A URL download that is accepted has a URL, and there is a downloader for it. The downloader calls
sessions of URL downloads, and the end of a download goes to the session that asked for it. -/
def Startable (sys : System δ φ) : Event μ → Prop
  | .receive d (.fileUrlDownloadInit message) past =>
    sys.hears (Event.receive (μ := μ) d (.fileUrlDownloadInit message) past) = true →
      sys.svc.session? d = none → message.path ≠ "" ∧ sys.svc.downloader.isSome = true
  | .downloader move => ∀ x ∈ sys.svc.downloader, ∀ callback ∈ (ctx.downloads.move x move).2,
      (∀ s ∈ sys.svc.session? callback.target.deviceKey, s.url ≠ "") ∧
        (callback.status.isTerminal = true → callback.owner = callback.target)
  | .receive _ _ _ | .report | .runCommand => True

instance (sys : System δ φ) : (e : Event μ) → Decidable (sys.Startable ctx e)
  | .receive _ (.fileUrlDownloadInit _) _ => inferInstanceAs (Decidable (_ → _ → _ ∧ _))
  | .downloader _ => inferInstanceAs (Decidable (∀ _ ∈ _, ∀ _ ∈ _, (∀ _ ∈ _, _) ∧ (_ → _)))
  | .receive _ (.fileUploadInit _) _ | .receive _ (.fileUploadAbort _) _
  | .receive _ (.fileBinaryResponse _) _ | .receive _ (.fileUrlDownloadAbort _) _
  | .receive _ .fileListRequest _ | .receive _ (.fileDelete _) _ | .receive _ .filePurge _
  | .receive _ .invalid _ | .report | .runCommand => isTrue trivial

end System

/-! ## The invariant -/

/-- The end of the session is queued. -/
def Core.Ends {δ : Type} (c : Core δ) (s : FileTransferSession) : Prop :=
  (∃ a ∈ c.pending s.ptr, a.status.isTerminal = true) ∨
    ∃ p, Command.resetSession s.deviceKey p ∈ c.queue

/-- An `ERROR` of the session has been reported, or is queued. -/
def Core.Failed {δ : Type} (c : Core δ) (log : List Effect) (p : SessionPtr) : Prop :=
  .error ∈ statuses log p ∨ ∃ a ∈ c.pending p, a.status = .error

inductive Minds {δ : Type} (c : Core δ) (log : List Effect) (handed : SessionPtr → String → Prop)
    (deviceKey : String) (s : FileTransferSession) : Prop
  | ends : c.Ends s → Minds c log handed deviceKey s
  | awaits : Awaits log deviceKey s → Minds c log handed deviceKey s
  | downloads : s.url ≠ "" → s.status.isTerminal = false → handed s.ptr s.url →
      Minds c log handed deviceKey s

/-- `handed` are the downloads that were handed over. -/
structure Minded {δ : Type} (c : Core δ) (log : List Effect)
    (handed : SessionPtr → String → Prop) : Prop extends c.Keyed where
  regular : ∀ d s, c.session d = some s → s.Regular
  minded : ∀ d s, c.session d = some s → Minds c log handed d s
  settled : ∀ callback, .delivered callback ∈ c.log → callback.status.isTerminal = true →
    callback.owner = callback.target ∧ callback.target.serial < c.created ∧
      ∀ d s, c.session d = some s → s.ptr = callback.target → c.Ends s
  errored : ∀ d s, c.session d = some s → s.status = .error → c.Failed log s.ptr
  failed : ∀ callback, .delivered callback ∈ c.log → callback.status = .error →
    c.Failed log callback.target

section Minded

variable {δ μ φ : Type} {ctx : Context δ μ φ} {c c' : Core δ} {log log' more : List Effect} {d : String}
  {handed handed' : SessionPtr → String → Prop} {s : FileTransferSession} {p : SessionPtr}
  {r : FileTransferSession × List Announcement}

theorem Core.record_nil (c : Core δ) : c.record [] = c := by rw [Core.record, List.append_nil]

theorem deletion_of_terminal (p : SessionPtr) {status : FileTransferStatus}
    (h : status.isTerminal = true) : deletion p status = [.resetSession p.deviceKey p] := by
  cases status with
  | fileReady | error | aborted => rfl
  | fileTransfer | awaitingDevice => cases h

theorem Core.Failed.mono (h : c.Failed log p) (hpending : ∀ a ∈ c.pending p, a ∈ c'.pending p) :
    c'.Failed (log ++ more) p := by
  rcases h with htold | ⟨a, ha, herror⟩
  · left
    rw [statuses_append]
    exact List.mem_append_left _ htold
  · exact Or.inr ⟨a, hpending a ha, herror⟩

theorem Minds.mono (h : Minds c log handed d s) (hends : c.Ends s → c'.Ends s)
    (hawaits : Awaits log d s → Awaits log' d s) (hhanded : ∀ p url, handed p url → handed' p url) :
    Minds c' log' handed' d s := by
  cases h with
  | ends h => exact .ends (hends h)
  | awaits h => exact .awaits (hawaits h)
  | downloads hurl hongoing h => exact .downloads hurl hongoing (hhanded _ _ h)

/-- Steps that start nothing and call no session. -/
theorem Minded.le (h : Minded c log handed) (hkeyed : c'.Keyed) (hcreated : c'.created = c.created)
    (hsession : ∀ d s, c'.session d = some s → c.session d = some s)
    (hends : ∀ d s, c'.session d = some s → c.Ends s → c'.Ends s)
    (hfailed : ∀ p, c.Failed log p → c'.Failed log' p)
    (hdelivered : ∀ callback, Effect.delivered callback ∈ c'.log → Effect.delivered callback ∈ c.log)
    (hawaits : ∀ d s, Awaits log d s → Awaits log' d s)
    (hhanded : ∀ p url, handed p url → handed' p url) : Minded c' log' handed' where
  toKeyed := hkeyed
  regular d s hs := h.regular d s (hsession d s hs)
  minded d s hs := (h.minded d s (hsession d s hs)).mono (hends d s hs) (hawaits d s) hhanded
  settled callback hmem hterminal := by
    obtain ⟨howner, hborn, hover⟩ := h.settled callback (hdelivered callback hmem) hterminal
    refine ⟨howner, hcreated.symm ▸ hborn, fun d s hs hptr => ?_⟩
    exact hends d s hs (hover d s (hsession d s hs) hptr)
  errored d s hs herror := hfailed _ (h.errored d s (hsession d s hs) herror)
  failed callback hmem herror := hfailed _ (h.failed callback (hdelivered callback hmem) herror)

theorem Minded.withDownloader (h : Minded c log handed) (x : Option δ) :
    Minded { c with downloader := x } log handed :=
  h.le (h.toKeyed.withDownloader x) rfl (fun _ _ hs => hs) (fun _ _ _ hends => hends)
    (fun _ hp => hp) (fun _ hmem => hmem) (fun _ _ hs => hs) fun _ _ hp => hp

/-- Messages that ask for no chunk. -/
theorem Minded.append (h : Minded c log handed) (hrequests : ∀ d, requests d more = [])
    (hhanded : ∀ p url, handed p url → handed' p url) : Minded c (log ++ more) handed' :=
  h.le h.toKeyed rfl (fun _ _ hs => hs) (fun _ _ _ hends => hends)
    (fun _ hp => hp.mono fun _ ha => ha) (fun _ hmem => hmem)
    (fun d _ hs => hs.append (hrequests d)) hhanded

/-- A session that starts. -/
theorem Minded.start (h : Minded c log handed) (hserial : s.serial = c.created) (hregular : s.Regular)
    (hstatus : s.status = .fileTransfer) (hrequests : ∀ d, d ≠ s.deviceKey → requests d more = [])
    (hhanded : ∀ p url, handed p url → handed' p url)
    (hown : Minds (c.start s) (log ++ more) handed' s.deviceKey s) :
    Minded (c.start s) (log ++ more) handed' := by
  have hfailed : ∀ p, c.Failed log p → (c.start s).Failed (log ++ more) p :=
    fun p hp => hp.mono fun _ ha => ha
  refine ⟨h.toKeyed.start hserial, fun d t ht => ?_, fun d t ht => ?_, fun callback hmem hterminal => ?_,
    fun d t ht herror => ?_, fun callback hmem herror => hfailed _ (h.failed callback hmem herror)⟩
  · rcases Core.session_of_start ht with ⟨-, rfl⟩ | ⟨-, ht⟩
    · exact hregular
    · exact h.regular d t ht
  · rcases Core.session_of_start ht with ⟨rfl, rfl⟩ | ⟨hd, ht⟩
    · exact hown
    · exact (h.minded d t ht).mono (fun hends => hends) (fun ht => ht.append (hrequests d hd)) hhanded
  · obtain ⟨howner, hborn, hover⟩ := h.settled callback hmem hterminal
    refine ⟨howner, Nat.lt_succ_of_lt hborn, fun d t ht hptr => ?_⟩
    rcases Core.session_of_start ht with ⟨-, rfl⟩ | ⟨-, ht⟩
    · have hsame : t.serial = callback.target.serial := congrArg SessionPtr.serial hptr
      omega
    · exact hover d t ht hptr
  · rcases Core.session_of_start ht with ⟨-, rfl⟩ | ⟨-, ht⟩
    · rw [hstatus] at herror
      cases herror
    · exact hfailed _ (h.errored d t ht herror)

theorem Core.Ends.of_ptr {t : FileTransferSession} (h : c.Ends s) (hptr : t.ptr = s.ptr) : c.Ends t := by
  have hkey : t.deviceKey = s.deviceKey := congrArg SessionPtr.deviceKey hptr
  unfold Core.Ends at h ⊢
  rwa [hptr, hkey]

theorem ends_put (c : Core δ) (d : String) (r : FileTransferSession × List Announcement)
    (h : c.Ends s) : (c.put d r).Ends s := by
  rcases h with ⟨a, ha, hterminal⟩ | ⟨p, hp⟩
  · refine Or.inl ⟨a, ?_, hterminal⟩
    rw [pending_put]
    exact List.mem_append_left _ ha
  · exact Or.inr ⟨p, List.mem_append_left _ hp⟩

theorem failed_put (c : Core δ) (d : String) (r : FileTransferSession × List Announcement)
    (h : c.Failed log p) : (c.put d r).Failed (log ++ more) p := by
  apply h.mono
  intro a ha
  rw [pending_put]
  exact List.mem_append_left _ ha

/-- A call that ends the transfer queues its end. -/
theorem ends_put_own (hr : ∃ a ∈ r.2, a.status.isTerminal = true) : (c.put d r).Ends r.1 := by
  obtain ⟨a, ha, hterminal⟩ := hr
  refine Or.inl ⟨a, ?_, hterminal⟩
  rw [pending_put, if_pos rfl]
  exact List.mem_append_right _ ha

/-- A call of a method of a session, with the callbacks that made it. -/
theorem Minded.put (h : Minded c log handed) {effects : List Effect} (hs : c.session d = some s)
    (hr : s.Kept r) (hregular : r.1.Regular) (hannounced : s.Announced r)
    (heffects : ∀ callback, .delivered callback ∈ effects → callback.target = s.ptr ∧
      callback.status = r.1.status ∧
      (callback.status.isTerminal = true →
        callback.owner = callback.target ∧ (c.put d r).Ends r.1))
    (hrequests : ∀ d', d' ≠ d → requests d' more = [])
    (hhanded : ∀ p url, handed p url → handed' p url)
    (hown : Minds ((c.put d r).record effects) (log ++ more) handed' d r.1) :
    Minded ((c.put d r).record effects) (log ++ more) handed' := by
  have hptr := hr.ptr
  have herrored : r.1.status = .error → (c.put d r).Failed (log ++ more) s.ptr := by
    intro herror
    rcases hannounced with ⟨hsame, -⟩ | ⟨a, hqueued, hstatus⟩
    · exact failed_put c d r (h.errored d s hs (hsame ▸ herror))
    · refine Or.inr ⟨a, ?_, hstatus.trans herror⟩
      rw [pending_put, if_pos hptr, hqueued]
      exact List.mem_append_right _ (List.mem_singleton_self a)
  have hends : ∀ t, c.Ends t → (c.put d r).Ends t := fun t ht => ends_put c d r ht
  refine ⟨(h.toKeyed.put hs hr).record _, fun d' t ht => ?_, fun d' t ht => ?_,
    fun callback hmem hterminal => ?_, fun d' t ht herror => ?_, fun callback hmem herror => ?_⟩
  · rcases Core.session_of_put ht with ⟨-, rfl⟩ | ⟨-, ht⟩
    · exact hregular
    · exact h.regular d' t ht
  · rcases Core.session_of_put ht with ⟨rfl, rfl⟩ | ⟨hd, ht⟩
    · exact hown
    · exact (h.minded d' t ht).mono (hends t) (fun ht => ht.append (hrequests d' hd)) hhanded
  · rcases List.mem_append.mp hmem with hmem | hmem
    · obtain ⟨howner, hborn, hover⟩ := h.settled callback hmem hterminal
      refine ⟨howner, hborn, fun d' t ht hsame => ?_⟩
      rcases Core.session_of_put ht with ⟨-, rfl⟩ | ⟨-, ht⟩
      · exact (hends s (hover d s hs (hptr.symm.trans hsame))).of_ptr hptr
      · exact hends t (hover d' t ht hsame)
    · obtain ⟨htarget, -, hover⟩ := heffects callback hmem
      obtain ⟨howner, hend⟩ := hover hterminal
      refine ⟨howner, htarget ▸ h.toKeyed.fresh d s hs, fun d' t ht hsame => ?_⟩
      rcases Core.session_of_put ht with ⟨-, rfl⟩ | ⟨hd, ht⟩
      · exact hend
      · exact absurd (h.toKeyed.ptr_inj ht hs (hsame.trans htarget)) hd
  · rcases Core.session_of_put ht with ⟨-, rfl⟩ | ⟨-, ht⟩
    · rw [hptr]
      exact herrored herror
    · exact failed_put c d r (h.errored d' t ht herror)
  · rcases List.mem_append.mp hmem with hmem | hmem
    · exact failed_put c d r (h.failed callback hmem herror)
    · obtain ⟨htarget, hstatus, -⟩ := heffects callback hmem
      rw [htarget]
      exact herrored (hstatus.symm.trans herror)

/-- What is queued for a session is the command that runs, or stays queued. -/
theorem pending_of_run {a b : Announcement} {rest : List Command} {q : SessionPtr}
    (hq : c.queue = .sessionStatus p a :: rest) (hb : b ∈ c.pending q) :
    (p = q ∧ b = a) ∨
      b ∈ (({ c with queue := rest } : Core δ).push (deletion p a.status)).pending q := by
  rw [pending_push_deletion]
  rw [pending_cons hq, List.mem_append, Option.mem_toList] at hb
  refine hb.imp_left fun hb => ?_
  by_cases hp : p = q
  · rw [Command.announcementOf, if_pos hp] at hb
    cases hb
    exact ⟨hp, rfl⟩
  · rw [Command.announcementOf, if_neg hp] at hb
    cases hb

/-- A status command makes way for the deletion of its session. -/
theorem ends_run {a : Announcement} {rest : List Command} (effects : List Effect)
    (hq : c.queue = .sessionStatus p a :: rest) (h : c.Ends s) :
    (({ c with queue := rest }.push (deletion p a.status)).record effects).Ends s := by
  rcases h with ⟨b, hb, hterminal⟩ | ⟨q, hreset⟩
  · rcases pending_of_run hq hb with ⟨rfl, rfl⟩ | hb
    · refine Or.inr ⟨s.ptr, List.mem_append_right _ ?_⟩
      rw [deletion_of_terminal s.ptr hterminal]
      exact List.mem_singleton_self _
    · exact Or.inl ⟨b, hb, hterminal⟩
  · rw [hq] at hreset
    rcases List.mem_cons.mp hreset with heq | hreset
    · cases heq
    · exact Or.inr ⟨q, List.mem_append_left _ hreset⟩

theorem failed_run {a : Announcement} {rest : List Command} (effects : List Effect)
    (hq : c.queue = .sessionStatus p a :: rest)
    (htold : a.status = .error → .error ∈ statuses more p) {q : SessionPtr} (h : c.Failed log q) :
    (({ c with queue := rest }.push (deletion p a.status)).record effects).Failed (log ++ more) q := by
  unfold Core.Failed
  rw [statuses_append]
  rcases h with herror | ⟨b, hb, herror⟩
  · exact Or.inl (List.mem_append_left _ herror)
  · rcases pending_of_run hq hb with ⟨rfl, rfl⟩ | hb
    · exact Or.inl (List.mem_append_right _ (htold herror))
    · exact Or.inr ⟨b, hb, herror⟩

/-- A deletion takes the session of its device, and no other. -/
theorem ends_drop {rest : List Command} (h : c.Keyed) (hq : c.queue = .resetSession d p :: rest)
    (effects : List Effect) {key : String}
    (hs : (({ c with queue := rest }.drop d).record effects).session key = some s) (hends : c.Ends s) :
    (({ c with queue := rest }.drop d).record effects).Ends s := by
  rcases hends with ⟨a, ha, hterminal⟩ | ⟨q, hreset⟩
  · rw [pending_cons hq] at ha
    exact Or.inl ⟨a, ha, hterminal⟩
  · rw [hq] at hreset
    rcases List.mem_cons.mp hreset with heq | hreset
    · injection heq with heq
      rw [← h.key key s (Core.session_of_drop hs), heq] at hs
      simp [Core.record, Core.drop] at hs
    · exact Or.inr ⟨q, hreset⟩

/-- The chunk that is asked for first comes after the report of the start. -/
theorem awaits_start (hmake : ∀ d message, ctx.makeOutboundMessage d message = true)
    (hurl : s.url = "") (hdone : s.done = false) (hsize : 0 < s.size) (hchunks : s.chunks = [])
    (hmore : more.filter Effect.isSaid =
      ctx.spokenStatus d s .fileTransfer .none ++ ctx.spokenRequest d s) :
    Awaits (log ++ more) d s where
  url := hurl
  unfinished := hdone
  positive := hsize
  fits := by rwa [hchunks, collected_nil]
  asked := by
    rw [Context.spokenStatus, Context.spoken, if_pos (hmake _ _), List.singleton_append] at hmore
    obtain ⟨earlier, later, heq, -, -, hlater⟩ := List.filter_eq_cons_iff.mp hmore
    refine ⟨log ++ earlier, FileManagementService.statusMessage s .fileTransfer .none, later, ?_, ?_⟩
    · rw [heq, List.append_assoc]
    · rw [← requests_filter, hlater, requests_spokenRequest hmake]
      rfl

/-- A chunk that does not end the transfer has the next one asked for. -/
theorem awaits_chunk (hmake : ∀ d message, ctx.makeOutboundMessage d message = true)
    (h : Awaits log d s) (hr : s.Kept r) (hdone : r.1.done = false)
    (hfits : collected r.1.chunks < r.1.size) (hmore : requests d more = requests d (ctx.spokenRequest d r.1)) :
    Awaits (log ++ more) d r.1 where
  url := hr.url.trans h.url
  unfinished := hdone
  positive := Nat.lt_of_le_of_lt (Nat.zero_le _) hfits
  fits := hfits
  asked := by
    obtain ⟨earlier, message, later, hlog, -⟩ := h.asked
    refine ⟨earlier, message, later ++ more, ?_, ?_⟩
    · rw [hlog, hr.ptr, List.append_assoc, List.cons_append]
    · rw [requests_append, hmore, requests_spokenRequest hmake, List.getLast?_concat]

end Minded

/-! ## Runs -/

namespace System

variable {δ μ φ : Type} {ctx : Context δ μ φ} {init sys sys' : System δ φ} {es : List (Event μ)}
  {e : Event μ}

theorem Handed.append {p : SessionPtr} {url : String} (h : Handed ctx init es p url)
    (es' : List (Event μ)) : Handed ctx init (es ++ es') p url := by
  obtain ⟨before, past, after, sys, sys', x, heq, hrest⟩ := h
  refine ⟨before, past, after ++ es', sys, sys', x, ?_, hrest⟩
  rw [heq, List.append_assoc, List.cons_append]

theorem minded_create (config : Configuration) (x : Option δ) (disk : φ)
    (handed : SessionPtr → String → Prop) :
    Minded (create config x disk).svc.core (create config x disk).svc.log handed where
  toKeyed := Core.keyed_create config x disk
  regular d s hs := by cases hs
  minded d s hs := by cases hs
  settled callback hmem := by cases hmem
  errored d s hs := by cases hs
  failed callback hmem := by cases hmem

/-- An upload that is sent a chunk asks for the next one, unless the chunk ended it. -/
theorem minds_pushed (hmake : ∀ d message, ctx.makeOutboundMessage d message = true)
    {handed handed' : SessionPtr → String → Prop} {c : Core δ} {log more : List Effect} {d : String}
    {s : FileTransferSession} (past : Nat → UInt8) (m : FileBinaryResponseMessage)
    (hregular : s.Regular) (h : Minds c log handed d s) (hurl : s.url = "")
    (hmore : requests d more = requests d
      (if (s.pushChunk ctx.bytes past m).2.1 = .fileHashMismatch ∨
          (s.pushChunk ctx.bytes past m).1.isDone = false then
        ctx.spokenRequest d (s.pushChunk ctx.bytes past m).1 else [])) :
    Minds (c.put d ((s.pushChunk ctx.bytes past m).1, (s.pushChunk ctx.bytes past m).2.2))
      (log ++ more) handed' d (s.pushChunk ctx.bytes past m).1 := by
  have hr := FileTransferSession.kept_pushChunk (s := s) ctx.bytes past m
  cases h with
  | ends hends => exact .ends ((ends_put c d _ hends).of_ptr hr.ptr)
  | awaits h =>
    rcases FileTransferSession.pushChunk_cases ctx.bytes past m hregular hurl with
      ⟨-, -, hdone⟩ | ⟨status, error, hterminal, -, -, -, hqueued⟩
    · have hopen : (s.pushChunk ctx.bytes past m).1.isDone = false := hdone.trans h.unfinished
      rw [if_pos (Or.inr hopen)] at hmore
      exact .awaits (awaits_chunk hmake h hr hopen (FileTransferSession.pushChunk_unfinished _ _ _
        hregular hurl h.unfinished h.fits hopen) hmore)
    · refine .ends (ends_put_own ⟨⟨status, error⟩, ?_, hterminal⟩)
      rw [hqueued, FileTransferSession.announce, if_pos hregular.callback]
      exact List.mem_singleton_self _
  | downloads hne => exact absurd hurl hne

/-- A session that is aborted ends. -/
theorem ends_aborted {handed : SessionPtr → String → Prop} {c : Core δ} {log : List Effect}
    {d : String} {s : FileTransferSession} (hregular : s.Regular) (h : Minds c log handed d s) :
    (c.put d s.abort).Ends s.abort.1 := by
  have hterminal : s.abort.1.status.isTerminal = true := by
    rw [FileTransferSession.status_abort]
    rfl
  have hannounced := FileTransferSession.announced_abort hregular
  cases h with
  | ends hends => exact (ends_put c d _ hends).of_ptr FileTransferSession.kept_abort.ptr
  | awaits h =>
    refine ends_put_own (hannounced.ends ?_ hterminal)
    rw [hregular.ongoing h.url h.unfinished]
    rfl
  | downloads _ hongoing => exact ends_put_own (hannounced.ends hongoing hterminal)

/-- A URL session that the downloader called waits on, unless the call ended it. -/
theorem minds_called {handed : SessionPtr → String → Prop} {c : Core δ} {log : List Effect}
    (log' : List Effect)
    {d : String} {s : FileTransferSession} {r : FileTransferSession × List Announcement}
    (hr : s.Kept r) (hannounced : s.Announced r) (hurl : s.url ≠ "") (h : Minds c log handed d s) :
    Minds (c.put d r) log' handed d r.1 ∧ (r.1.status.isTerminal = true → (c.put d r).Ends r.1) := by
  cases h with
  | ends hends =>
    have hends' : (c.put d r).Ends r.1 := (ends_put c d r hends).of_ptr hr.ptr
    exact ⟨.ends hends', fun _ => hends'⟩
  | awaits h => exact absurd h.url hurl
  | downloads _ hongoing hhanded =>
    have hends : r.1.status.isTerminal = true → (c.put d r).Ends r.1 :=
      fun hterminal => ends_put_own (hannounced.ends hongoing hterminal)
    refine ⟨?_, hends⟩
    by_cases hterminal : r.1.status.isTerminal = true
    · exact .ends (hends hterminal)
    · refine .downloads (hr.url ▸ hurl) (Bool.eq_false_iff.mpr hterminal) ?_
      rw [hr.ptr, hr.url]
      exact hhanded

theorem core_of_scene {c : Core δ} {reporting : Option String} (h : sys.scene = ⟨c, reporting⟩) :
    sys.svc.core = c := congrArg Scene.core h

theorem minded_step (hmake : ∀ d message, ctx.makeOutboundMessage d message = true)
    (hrun : Machine.Run (step ctx) (fun _ _ => True) init es sys)
    (h : Minded sys.svc.core sys.svc.log (Handed ctx init es)) (hok : sys.Startable ctx e)
    (hstep : sys.step ctx e = .ok sys') :
    Minded sys'.svc.core sys'.svc.log (Handed ctx init (es ++ [e])) := by
  obtain ⟨said, ⟨more, hlog, hsaid⟩, hact⟩ := step_acts hstep
  have hhanded : ∀ p url, Handed ctx init es p url → Handed ctx init (es ++ [e]) p url :=
    fun _ _ hp => hp.append [e]
  have hrequests : ∀ d, requests d more = requests d said := by
    intro d
    rw [← hsaid, requests_filter]
  rw [hlog]
  cases hact with
  | idle hscene =>
    rw [core_of_scene hscene]
    exact h.append hrequests hhanded
  | @upload d m past s hhears hreporting hnone hvalid hs hscene =>
    rw [core_of_scene hscene]
    subst hs
    have hsize : 0 < m.size := by
      simp only [FileManagementService.isValid, ne_eq, decide_eq_true_eq] at hvalid
      omega
    refine h.start rfl (FileTransferSession.regular_ofUpload _ _ _) rfl (fun d' hd => ?_) hhanded
      (.awaits (awaits_start hmake rfl rfl hsize rfl hsaid))
    rw [hrequests, requests_append, requests_spokenStatus, List.nil_append]
    exact requests_spokenRequest_other ctx hd.symm _
  | @download d m past s hhears hreporting hnone hs hscene =>
    have hcore : sys'.svc.core = { sys.svc.core.start s with
        downloader := WolkConnect.triggered ctx s sys.svc.downloader } := core_of_scene hscene
    subst hs
    obtain ⟨hpath, hsome⟩ := hok hhears hnone
    obtain ⟨x, hx⟩ := Option.isSome_iff_exists.mp hsome
    have hnew : Handed ctx init (es ++ [.receive d (.fileUrlDownloadInit m) past])
        ⟨d, sys.svc.created⟩ m.path := by
      refine ⟨es, past, [], sys, sys', x, rfl, hrun, hstep, ?_, hx, ?_⟩
      · rw [← FileManagementService.core_session, hcore]
        exact Function.update_self _ _ _
      · rw [show sys'.svc.downloader = _ from congrArg Core.downloader hcore, hx]
        exact triggered_of_url hpath x
    have hstart : Minded (sys.svc.core.start (.ofUrlDownload sys.svc.created d m true))
        (sys.svc.log ++ more) (Handed ctx init (es ++ [.receive d (.fileUrlDownloadInit m) past])) :=
      h.start rfl (FileTransferSession.regular_ofUrlDownload _ _ _) rfl (fun d' _ => hrequests d')
        hhanded (.downloads hpath rfl hnew)
    rw [hcore]
    exact hstart.withDownloader _
  | @chunk d m past s r hreporting hs hurl hr hscene =>
    rw [core_of_scene hscene]
    subst hr
    have hregular := h.regular d s hs
    have hkept := FileTransferSession.kept_pushChunk (s := s) ctx.bytes past m
    rw [← (sys.svc.core.put d _).record_nil]
    refine h.put hs hkept (FileTransferSession.regular_pushChunk _ _ _ hregular hurl)
      (FileTransferSession.advances_pushChunk _ _ _ hregular hurl).announced
      (fun _ hmem => absurd hmem List.not_mem_nil) (fun d' hd => ?_) hhanded ?_
    · rw [hrequests]
      split_ifs
      · exact requests_spokenRequest_other ctx hd.symm _
      · rfl
    · rw [Core.record_nil]
      exact minds_pushed hmake past m hregular (h.minded d s hs) hurl (hrequests d)
  | @abort d m past s x hhears hreporting hs hm haborts hscene =>
    rw [core_of_scene hscene]
    have hregular := h.regular d s hs
    have hannounced := FileTransferSession.announced_abort hregular
    rw [← (({ sys.svc.core with downloader := x } : Core δ).put d s.abort).record_nil]
    refine (h.withDownloader x).put hs FileTransferSession.kept_abort
      (FileTransferSession.regular_abort hregular) hannounced
      (fun _ hmem => absurd hmem List.not_mem_nil) (fun d' _ => hrequests d') hhanded (.ends ?_)
    rw [Core.record_nil]
    exact ends_aborted hregular ((h.withDownloader x).minded d s hs)
  | @report d s hreporting htriggered hs hscene =>
    rw [core_of_scene hscene]
    exact h.append (fun d' => by rw [hrequests, requests_spokenStatus]) hhanded
  | @unreported d hreporting hnone hscene =>
    rw [core_of_scene hscene]
    exact h.append hrequests hhanded
  | @status p a buffer rest s effects hbuffer hq hs hserial hstores hwrites hscene =>
    rw [core_of_scene hscene]
    have hborn : p.serial < sys.svc.core.created := h.toKeyed.status p a (hq ▸ List.mem_cons_self)
    have htold : a.status = .error → .error ∈ statuses more p := by
      intro herror
      obtain ⟨told, -, hmade, hspoken⟩ := statuses_spokenStatus ctx p.deviceKey s a.status a.error
      rw [← statuses_filter, hsaid, statuses_append, hspoken, hmade (hmake _ _),
        if_pos (h.toKeyed.ptr_eq hs hserial), herror]
      exact List.mem_append_left _ (List.mem_singleton_self _)
    refine h.le (((h.toKeyed.pop hq).push_deletion hborn _).record _) rfl (fun _ _ hs => hs)
      (fun _ _ _ hends => ends_run effects hq hends) (fun _ hp => failed_run effects hq htold hp)
      (fun callback hmem => ?_) (fun d' _ ht => ht.append ?_) hhanded
    · rcases List.mem_append.mp hmem with hmem | hmem
      · exact hmem
      · obtain ⟨-, _, _, _, heq, -⟩ := hstores.mem hmem
        cases heq
    · rw [hrequests, requests_append, requests_spokenStatus, requests_spokenFailure]
      rfl
  | @dropped p a rest s hq hs hcallback hscene =>
    rw [(h.regular p.deviceKey s hs).callback] at hcallback
    cases hcallback
  | @reset d p rest hq hscene =>
    rw [core_of_scene hscene]
    refine h.le (((h.toKeyed.pop hq).drop d).record _) rfl (fun _ _ hs => Core.session_of_drop hs)
      (fun _ _ hs hends => ends_drop h.toKeyed hq _ hs hends) (fun q hp => hp.mono fun a ha => ?_)
      (fun callback hmem => ?_) (fun d' _ ht => ht.append (hrequests d')) hhanded
    · rw [pending_cons hq] at ha
      exact ha
    · rcases List.mem_append.mp hmem with hmem | hmem
      · exact hmem
      · obtain ⟨_, -, heq⟩ := List.mem_map.mp hmem
        cases heq
  | @moved move x x' hx hmove hscene =>
    rw [core_of_scene hscene]
    exact (h.withDownloader (some x')).append hrequests hhanded
  | @called move x x' callback s hx hmove hs hserial hscene =>
    rw [core_of_scene hscene]
    obtain ⟨hurl, howner⟩ := hok x hx callback (by rw [hmove]; rfl)
    have hregular := h.regular _ s hs
    have hkept := FileTransferSession.kept_onDownloadStatus (s := s) callback.status callback.error
      callback.fileName
    have hannounced := FileTransferSession.announced_onDownloadStatus callback.status callback.error
      callback.fileName hregular
    have hstatus := s.status_onDownloadStatus callback.status callback.error callback.fileName
    obtain ⟨hminds, hends⟩ := minds_called (sys.svc.log ++ more) hkept hannounced (hurl s hs)
      (((h.withDownloader (some x')).minded _ s hs).mono id id hhanded)
    refine (h.withDownloader (some x')).put hs hkept
      (FileTransferSession.regular_onDownloadStatus _ _ _ hregular (hurl s hs)) hannounced
      (fun callback' hmem => ?_) (fun d' _ => hrequests d') hhanded (hminds.mono id id fun _ _ hp => hp)
    cases List.mem_singleton.mp hmem
    refine ⟨(h.toKeyed.ptr_eq hs hserial).symm, hstatus.symm, fun hterminal => ?_⟩
    refine ⟨howner hterminal, hends ?_⟩
    rw [hstatus]
    exact hterminal

/-- **No session is left behind.** Where every download that is accepted can be started, once the
commands have run each session waits for a chunk or for the downloader. A session whose download the
downloader gave up has been reported and is gone. -/
theorem no_orphans (config : Configuration) (x : Option δ) (disk : φ)
    (hmake : ∀ d message, ctx.makeOutboundMessage d message = true) {t : System δ φ}
    (h : Machine.Run (step ctx) (Startable ctx) (create config x disk) es t)
    (hran : t.svc.commandBuffer = []) :
    (∀ d s, t.svc.session? d = some s → Awaits t.svc.log d s ∨
      Downloading (Handed ctx (create config x disk) es) t.svc.log s) ∧
    ∀ callback, .delivered callback ∈ t.svc.log → callback.status = .error →
      .error ∈ statuses t.svc.log callback.target ∧
        ∀ s ∈ t.svc.session? callback.target.deviceKey, s.ptr ≠ callback.target := by
  have hinv := h.history (fun es sys => Machine.Run (step ctx) (fun _ _ => True)
      (create config x disk) es sys ∧ Minded sys.svc.core sys.svc.log
        (Handed ctx (create config x disk) es)) ⟨.nil, minded_create config x disk _⟩
    fun _ _ _ _ ⟨hrun, hs⟩ hok hstep => ⟨.snoc hrun trivial hstep, minded_step hmake hrun hs hok hstep⟩
  obtain ⟨-, hminded⟩ := hinv
  have hqueue : t.svc.core.queue = [] := by
    rw [FileManagementService.core, hran]
    rfl
  have hpending : ∀ p, t.svc.core.pending p = [] := by
    intro p
    rw [Core.pending, hqueue]
    rfl
  have hends : ∀ s, ¬ t.svc.core.Ends s := by
    rintro s (⟨a, ha, -⟩ | ⟨p, hp⟩)
    · rw [hpending] at ha
      cases ha
    · rw [hqueue] at hp
      cases hp
  have hover : ∀ callback, .delivered callback ∈ t.svc.log → callback.status.isTerminal = true →
      callback.owner = callback.target ∧
        ∀ d s, t.svc.session? d = some s → s.ptr ≠ callback.target := by
    intro callback hmem hterminal
    obtain ⟨howner, -, hlive⟩ := hminded.settled callback (List.mem_filter.mpr ⟨hmem, rfl⟩) hterminal
    exact ⟨howner, fun d s hs hptr => hends s (hlive d s hs hptr)⟩
  refine ⟨fun d s hs => ?_, fun callback hmem herror => ⟨?_, fun s hs => ?_⟩⟩
  · cases hminded.minded d s hs with
    | ends hs' => exact absurd hs' (hends s)
    | awaits h => exact Or.inl h
    | downloads hurl hongoing hhanded =>
      refine Or.inr ⟨hurl, hongoing, hhanded, fun callback hmem howner => ?_⟩
      rw [Bool.eq_false_iff]
      intro hterminal
      obtain ⟨hsame, hgone⟩ := hover callback hmem hterminal
      exact hgone d s hs (howner.symm.trans hsame)
  · rcases hminded.failed callback (List.mem_filter.mpr ⟨hmem, rfl⟩) herror with htold | ⟨a, ha, -⟩
    · exact htold
    · rw [hpending] at ha
      cases ha
  · exact (hover callback hmem (by rw [herror]; rfl)).2 _ s hs

/-- An upload and a download go on side by side, and a download that has no valid URL is over. -/
theorem no_orphans_three : ∃ (es : List (Event DownloaderMove)) (t : System HTTPFileDownloader PathDisk),
    (∀ d s, t.svc.session? d = some s → Awaits t.svc.log d s ∨
      Downloading (Handed downloadContext downloadSystem es) t.svc.log s) ∧
    (["d", "e", "g"].map fun d => (t.svc.session? d).map FileTransferSession.url,
      statuses t.svc.log ⟨"g", 0⟩) =
      ([some "", some "http://host.com/f", none], [.fileTransfer, .error]) := by
  obtain ⟨t, hrun, hlast⟩ := Machine.Run.exists_of_check (step downloadContext)
    (Startable downloadContext) downloadSystem
    [.urlInit "g" "host", .report, .callback, .runCommand, .runCommand,
      .urlInit "e" "http://host.com/f", .report, .initA, .thread []]
    (fun t => (t.svc.commandBuffer,
      ["d", "e", "g"].map fun d => (t.svc.session? d).map FileTransferSession.url,
      statuses t.svc.log ⟨"g", 0⟩))
    ([], [some "", some "http://host.com/f", none], [.fileTransfer, .error]) (by decide +kernel)
  obtain ⟨hbuffer, hstate⟩ := Prod.mk.inj hlast
  exact ⟨_, t, (no_orphans _ _ _ (fun _ _ => rfl) hrun hbuffer).1, hstate⟩

/-- Without a downloader the session of a URL download stays as it is, and so it does with one when the
URL is empty. -/
theorem url_session_orphaned :
    (∃ t : System Empty PathDisk, Machine.Run (step uploadContext) (fun _ _ => True) uploadSystem
      [.receive "d" (.fileUrlDownloadInit ⟨"http://host.com/f"⟩) fun _ => 0, .report] t ∧
      t.svc.commandBuffer = [] ∧ ¬ ∀ d s, t.svc.session? d = some s → Awaits t.svc.log d s ∨
        Downloading (Handed uploadContext uploadSystem [.receive "d"
          (.fileUrlDownloadInit ⟨"http://host.com/f"⟩) fun _ => 0, .report]) t.svc.log s) ∧
    ∃ t : System HTTPFileDownloader PathDisk, Machine.Run (step downloadContext) (fun _ _ => True)
      downloadSystem [.urlInit "d" "", .report] t ∧
      t.svc.commandBuffer = [] ∧ ¬ ∀ d s, t.svc.session? d = some s → Awaits t.svc.log d s ∨
        Downloading (Handed downloadContext downloadSystem [.urlInit "d" "", .report]) t.svc.log s := by
  constructor
  · obtain ⟨t, hrun, hlast⟩ := Machine.Run.exists_of_check (step uploadContext) (fun _ _ => True)
      uploadSystem [.receive "d" (.fileUrlDownloadInit ⟨"http://host.com/f"⟩) fun _ => 0, .report]
      (fun t => (t.svc.commandBuffer, t.svc.session? "d"))
      ([], some (.ofUrlDownload 0 "d" ⟨"http://host.com/f"⟩ true)) (by decide +kernel)
    obtain ⟨hbuffer, hsession⟩ := Prod.mk.inj hlast
    refine ⟨t, hrun, hbuffer, fun h => ?_⟩
    rcases h "d" _ hsession with hawaits | hdownloading
    · exact absurd hawaits.url (by decide)
    · obtain ⟨_, _, _, _, _, x, -⟩ := hdownloading.handed
      exact x.elim
  · obtain ⟨t, hrun, hlast⟩ := Machine.Run.exists_of_check (step downloadContext) (fun _ _ => True)
      downloadSystem [.urlInit "d" "", .report] (fun t => (t.svc.commandBuffer, t.svc.session? "d"))
      ([], some (.ofUrlDownload 0 "d" ⟨""⟩ true)) (by decide +kernel)
    obtain ⟨hbuffer, hsession⟩ := Prod.mk.inj hlast
    refine ⟨t, hrun, hbuffer, fun h => ?_⟩
    rcases h "d" _ hsession with hawaits | hdownloading
    · exact absurd hawaits.positive (by decide)
    · exact absurd rfl hdownloading.url

end System

end WolkConnect
