import WolkConnect.Download.Accounted
import WolkConnect.Service.Keyed

/-!
# Downloads of different devices

All devices share the callback and the bytes of one downloader. Their downloads stay
apart when none starts while another is in progress, and when no bytes are replaced
that a queued `FILE_READY` has yet to store.
-/

namespace WolkConnect

open FileTransferSession (Kept)

/-! ## The condition -/

/-- A queued `FILE_READY` of a URL session, which stores the bytes of the downloader when it runs. -/
def Core.awaitsBytes {δ : Type} (c : Core δ) : Command → Bool
  | .sessionStatus p a =>
    a.status = .fileReady && (c.session p.deviceKey).any fun s => s.ptr = p && s.url ≠ ""
  | _ => false

/-- No download starts while another one is in progress, and no bytes are replaced that are still
to be stored. -/
def Core.KeepsApart (c : Core HTTPFileDownloader) (x : HTTPFileDownloader) :
    Event DownloaderMove → Prop
  | .receive d m _ => c.session d = none → m.startsDownload = true → x.busy = false
  | .downloader m => x.replaces m = true → ∀ command ∈ c.queue, c.awaitsBytes command = false
  | _ => True

/-- A URL that does not pass the check comes when the last status was not an error. -/
def Core.ShowsRejection (c : Core HTTPFileDownloader) (x : HTTPFileDownloader) :
    Event DownloaderMove → Prop
  | .receive d (.fileUrlDownloadInit m) _ => c.session d = none → m.path ≠ "" →
      passesRegex m.path = false → x.status ≠ .error
  | _ => True

def System.KeepsApart {φ : Type} (sys : System HTTPFileDownloader φ) (e : Event DownloaderMove) :
    Prop :=
  sys.hears e = true → ∀ x ∈ sys.svc.downloader, sys.svc.core.KeepsApart x e

def System.ShowsRejection {φ : Type} (sys : System HTTPFileDownloader φ)
    (e : Event DownloaderMove) : Prop :=
  sys.hears e = true → ∀ x ∈ sys.svc.downloader, sys.svc.core.ShowsRejection x e

instance (c : Core HTTPFileDownloader) (x : HTTPFileDownloader) :
    (e : Event DownloaderMove) → Decidable (c.KeepsApart x e)
  | .receive _ _ _ => inferInstanceAs (Decidable (_ → _ → _))
  | .downloader _ => inferInstanceAs (Decidable (_ → ∀ _ ∈ _, _))
  | .report | .runCommand => isTrue trivial

instance (c : Core HTTPFileDownloader) (x : HTTPFileDownloader) :
    (e : Event DownloaderMove) → Decidable (c.ShowsRejection x e)
  | .receive _ (.fileUrlDownloadInit _) _ => inferInstanceAs (Decidable (_ → _ → _ → _))
  | .receive _ (.fileUploadInit _) _ | .receive _ (.fileUploadAbort _) _
  | .receive _ (.fileBinaryResponse _) _ | .receive _ (.fileUrlDownloadAbort _) _
  | .receive _ .fileListRequest _ | .receive _ (.fileDelete _) _ | .receive _ .filePurge _
  | .receive _ .invalid _ | .report | .runCommand | .downloader _ => isTrue trivial

instance {φ : Type} (sys : System HTTPFileDownloader φ) (e : Event DownloaderMove) :
    Decidable (sys.KeepsApart e) :=
  inferInstanceAs (Decidable (_ → ∀ _ ∈ _, _))

instance {φ : Type} (sys : System HTTPFileDownloader φ) (e : Event DownloaderMove) :
    Decidable (sys.ShowsRejection e) :=
  inferInstanceAs (Decidable (_ → ∀ _ ∈ _, _))

/-! ## What is kept -/

/-- What was stored for a URL session was obtained for it from its URL, and what was delivered for a
download went to the session that asked for it. -/
structure DownloadsApart {φ : Type} (fs : FileSystemUtils φ) (x : HTTPFileDownloader)
    (log : List Effect) : Prop where
  stored : ∀ s path bytes success, Effect.stored s path bytes success ∈ log → s.url ≠ "" →
    (∃ folder, path = fs.composePath s.name folder) ∧ ⟨s.ptr, s.url, s.name, bytes⟩ ∈ x.obtained
  delivered : ∀ callback, Effect.delivered callback ∈ log → callback.target = callback.owner

/-- The callback with this status was delivered to the session that asked for the download. -/
def Told (log : List Effect) (e : SessionPtr × FileTransferStatus) : Prop :=
  ∃ callback, Effect.delivered callback ∈ log ∧ callback.owner = e.1 ∧ callback.target = e.1 ∧
    callback.status = e.2

section Apart

variable {φ : Type} {bytes : ByteUtils} {fs : FileSystemUtils φ}
  {make : String → Outbound → Bool} {c c' : Core HTTPFileDownloader} {x x' : HTTPFileDownloader}
  {d : String} {e : Event DownloaderMove} {s : FileTransferSession}
  {r : FileTransferSession × List Announcement}

structure Apart (fs : FileSystemUtils φ) (bytes : ByteUtils) (c : Core HTTPFileDownloader)
    (x : HTTPFileDownloader) : Prop extends c.Keyed where
  here : c.downloader = some x
  single : x.Single
  accounted : x.Accounted bytes
  asked : ∀ request ∈ x.requested, request.1.serial < c.created
  own : ∀ request ∈ x.requested, ∀ s, c.session request.1.deviceKey = some s →
    s.ptr = request.1 → s.url = request.2
  ready : ∀ p a s, Command.sessionStatus p a ∈ c.queue → a.status = .fileReady →
    c.session p.deviceKey = some s → s.ptr = p → s.url ≠ "" →
    ⟨p, s.url, s.name, x.bytes⟩ ∈ x.obtained
  apart : DownloadsApart fs x c.log

/-! ## Steps -/

theorem name_onDownloadStatus (status : FileTransferStatus) (error : FileTransferError)
    (fileName : String) : (s.onDownloadStatus status error fileName).1.name =
      if fileName ≠ "" then fileName else s.name := by
  unfold FileTransferSession.onDownloadStatus
  dsimp only
  rw [FileTransferSession.changeStatusAndError_fst]
  split_ifs <;> rfl

theorem Apart.start (h : Apart fs bytes c x) (hserial : s.serial = c.created) :
    Apart fs bytes (c.start s) x := by
  have hold : ∀ {p t}, p.serial < c.created → (c.start s).session p.deviceKey = some t → t.ptr = p →
      c.session p.deviceKey = some t := by
    intro p t hp ht htp
    rcases Core.session_of_start ht with ⟨-, rfl⟩ | ⟨-, ht⟩
    · rw [← htp, show t.ptr.serial = c.created from hserial] at hp
      exact absurd hp (lt_irrefl _)
    · exact ht
  refine ⟨h.toKeyed.start hserial, h.here, h.single, h.accounted, fun request hr => ?_,
    fun request hr t ht htp => ?_, fun p a t ha hready ht htp => ?_, h.apart⟩
  · exact Nat.lt_succ_of_lt (h.asked request hr)
  · exact h.own request hr t (hold (h.asked request hr) ht htp) htp
  · exact h.ready p a t ha hready (hold (h.status p a ha) ht htp) htp

theorem Apart.download (h : Apart fs bytes c x) (hserial : s.serial = c.created)
    (hidle : x.busy = false) :
    Apart fs bytes { c.start s with downloader := some (x.downloadFile s.url s.ptr) }
      (x.downloadFile s.url s.ptr) := by
  have hstart := h.start hserial
  refine ⟨hstart.toKeyed.withDownloader _, rfl, HTTPFileDownloader.single_downloadFile hidle _ _,
    h.accounted.downloadFile hidle _ _, fun request hr => ?_, fun request hr t ht htp => ?_,
    fun p a t => ?_, ?_⟩
  · rw [HTTPFileDownloader.downloadFile_requested] at hr
    rcases List.mem_append.mp hr with hr | hr
    · exact hstart.asked request hr
    · rw [List.mem_singleton.mp hr, show s.ptr.serial = c.created from hserial]
      exact Nat.lt_succ_self _
  · rw [HTTPFileDownloader.downloadFile_requested] at hr
    rcases List.mem_append.mp hr with hr | hr
    · exact hstart.own request hr t ht htp
    · rw [List.mem_singleton.mp hr] at ht ⊢
      have hself : some s = some t := by
        rw [← ht]
        exact (Function.update_self s.deviceKey (some s) c.session).symm
      cases hself
      rfl
  · rw [HTTPFileDownloader.downloadFile_bytes, HTTPFileDownloader.downloadFile_obtained]
    exact hstart.ready p a t
  · refine ⟨fun t path content success hmem hurl => ?_, h.apart.delivered⟩
    rw [HTTPFileDownloader.downloadFile_obtained]
    exact h.apart.stored t path content success hmem hurl

/-- A call of a method of a session. A new name, and a `FILE_READY`, are those of what the
downloader has. -/
theorem Apart.put (h : Apart fs bytes c x) (hs : c.session d = some s) (hr : s.Kept r)
    (hname : s.url ≠ "" → (r.1.name = s.name ∧ ∀ a ∈ r.2, a.status ≠ .fileReady) ∨
      ⟨s.ptr, s.url, r.1.name, x.bytes⟩ ∈ x.obtained) : Apart fs bytes (c.put d r) x := by
  have hptr := hr.ptr
  have hkey : s.ptr.deviceKey = d := h.key d s hs
  refine ⟨h.toKeyed.put hs hr, h.here, h.single, h.accounted, h.asked,
    fun request hreq t ht htp => ?_, fun p a t ha hready ht htp hurl => ?_, h.apart⟩
  · rcases Core.session_of_put ht with ⟨hd, rfl⟩ | ⟨-, ht⟩
    · rw [hr.url]
      exact h.own request hreq s (hd ▸ hs) (hptr.symm.trans htp)
    · exact h.own request hreq t ht htp
  · rcases Core.session_of_put ht with ⟨hd, rfl⟩ | ⟨hd, ht⟩
    · rw [hr.url] at hurl ⊢
      have hsp : s.ptr = p := hptr.symm.trans htp
      rcases hname hurl with ⟨hsame, hquiet⟩ | hobtained
      · rcases Core.mem_put hr ha with ha | ⟨b, hb, heq⟩
        · rw [hsame]
          exact h.ready p a s ha hready (hd ▸ hs) hsp hurl
        · cases heq
          exact absurd hready (hquiet a hb)
      · rw [← hsp]
        exact hobtained
    · rcases Core.mem_put hr ha with ha | ⟨_, _, heq⟩
      · exact h.ready p a t ha hready ht htp hurl
      · cases heq
        exact absurd hkey hd

theorem Apart.pop (h : Apart fs bytes c x) {command : Command} {rest : List Command}
    (hq : c.queue = command :: rest) : Apart fs bytes { c with queue := rest } x :=
  ⟨h.toKeyed.pop hq, h.here, h.single, h.accounted, h.asked, h.own,
    fun p a s ha => h.ready p a s (hq ▸ List.mem_cons_of_mem _ ha), h.apart⟩

theorem Apart.push (h : Apart fs bytes c x) {p : SessionPtr} (hp : p.serial < c.created)
    (status : FileTransferStatus) : Apart fs bytes (c.push (deletion p status)) x := by
  refine ⟨h.toKeyed.push_deletion hp _, h.here, h.single, h.accounted, h.asked, h.own,
    fun q a s ha => ?_, h.apart⟩
  rcases List.mem_append.mp ha with ha | ha
  · exact h.ready q a s ha
  · cases mem_deletion ha

theorem Apart.drop (h : Apart fs bytes c x) (d : String) : Apart fs bytes (c.drop d) x := by
  exact ⟨h.toKeyed.drop d, h.here, h.single, h.accounted, h.asked,
    fun request hr t ht => h.own request hr t (Core.session_of_drop ht),
    fun p a t ha hready ht => h.ready p a t ha hready (Core.session_of_drop ht), h.apart⟩

theorem Apart.record (h : Apart fs bytes c x) {effects : List Effect}
    (heffects : DownloadsApart fs x effects) : Apart fs bytes (c.record effects) x := by
  refine ⟨h.toKeyed.record effects, h.here, h.single, h.accounted, h.asked, h.own, h.ready, ?_, ?_⟩
  · intro s path content success hmem
    rcases List.mem_append.mp hmem with hmem | hmem
    · exact h.apart.stored s path content success hmem
    · exact heffects.stored s path content success hmem
  · intro callback hmem
    rcases List.mem_append.mp hmem with hmem | hmem
    · exact h.apart.delivered callback hmem
    · exact heffects.delivered callback hmem

/-- The downloader goes on. Bytes that are to be stored stay. -/
theorem Apart.withDownloader (h : Apart fs bytes c x) (hsingle : x'.Single)
    (haccounted : x'.Accounted bytes) (hrequested : x'.requested = x.requested)
    (hobtained : ∀ o ∈ x.obtained, o ∈ x'.obtained)
    (hbytes : x'.bytes = x.bytes ∨ ∀ command ∈ c.queue, c.awaitsBytes command = false) :
    Apart fs bytes { c with downloader := some x' } x' := by
  refine ⟨h.toKeyed.withDownloader _, rfl, hsingle, haccounted, hrequested ▸ h.asked,
    hrequested ▸ h.own, fun p a s ha hready hs hsp hurl => ?_,
    fun s path content success hmem hurl => ?_, h.apart.delivered⟩
  · rcases hbytes with hbytes | hnone
    · rw [hbytes]
      exact hobtained _ (h.ready p a s ha hready hs hsp hurl)
    · have hawaits := hnone _ ha
      simp [Core.awaitsBytes, hready, show c.session p.deviceKey = some s from hs, hsp, hurl]
        at hawaits
  · obtain ⟨hpath, ho⟩ := h.apart.stored s path content success hmem hurl
    exact ⟨hpath, hobtained _ ho⟩

/-- A `FILE_READY` of the downloader names a file that it obtained for the session, and nothing
else gives a session a name. -/
theorem Apart.renamed (h : Apart fs bytes c x) {command : StatusCommand}
    (hc : command ∈ x.commandBuffer) (hs : c.session command.owner.deviceKey = some s)
    (hptr : s.ptr = command.owner) {r : FileTransferSession × List Announcement}
    (hr : r = s.onDownloadStatus command.status command.error command.fileName) :
    (r.1.name = s.name ∧ ∀ a ∈ r.2, a.status ≠ .fileReady) ∨
      ⟨s.ptr, s.url, r.1.name, x.bytes⟩ ∈ x.obtained := by
  subst hr
  rw [name_onDownloadStatus]
  by_cases hready : command.status = .fileReady
  · obtain ⟨hnamed, url, ho⟩ := h.accounted.ready command hc hready
    have hurl : s.url = url := h.own _ (h.accounted.known _ ho) s hs hptr
    rw [if_pos hnamed, hptr, hurl]
    exact Or.inr ho
  · rw [h.accounted.unnamed command hc hready]
    refine Or.inl ⟨by simp, fun a ha => ?_⟩
    rw [FileTransferSession.mem_onDownloadStatus ha]
    exact hready

/-- A status that runs stores what the downloader has for its session. -/
theorem Apart.runStatus (h : Apart fs bytes c x) {p : SessionPtr} {a : Announcement}
    {rest : List Command} {effects : List Effect} (hq : c.queue = .sessionStatus p a :: rest)
    (hs : c.session p.deviceKey = some s) (hserial : s.serial = p.serial)
    (hstores : Stores (httpContext bytes fs make) s c.downloader a.status effects) :
    Apart fs bytes (({ c with queue := rest }.push (deletion p a.status)).record effects) x := by
  have hhead : Command.sessionStatus p a ∈ c.queue := hq ▸ List.mem_cons_self
  refine ((h.pop hq).push (h.status p a hhead) _).record ⟨?_, ?_⟩
  · intro t path content success hmem hurl
    obtain ⟨hready, folder, _, _, heq, hfrom⟩ := hstores.mem hmem
    cases heq
    refine ⟨⟨folder, rfl⟩, ?_⟩
    rcases hfrom with ⟨hempty, -⟩ | ⟨-, y, hy, rfl⟩
    · exact absurd hempty hurl
    · have hxy : y = x := Option.some.inj (hy.symm.trans h.here)
      have hptr := h.ptr_eq hs hserial
      rw [hxy, hptr]
      exact h.ready p a s hhead hready hs hptr hurl
  · intro callback hmem
    obtain ⟨-, _, _, _, heq, -⟩ := hstores.mem hmem
    cases heq

theorem Apart.runThread (h : Apart fs bytes c x) {t : Download} (ht : x.thread = some t)
    (response : Response) (hok : x.replaces (.thread response) = true →
      ∀ command ∈ c.queue, c.awaitsBytes command = false) :
    Apart fs bytes { c with downloader := some (x.stepThread bytes t response) }
      (x.stepThread bytes t response) := by
  refine h.withDownloader (h.single.stepThread ht response)
    (h.accounted.stepThread h.single ht response)
    (HTTPFileDownloader.stepThread_requested t response)
    (fun _ ho => HTTPFileDownloader.stepThread_obtained t response ho) ?_
  cases hreplaces : x.replaces (.thread response) with
  | true => exact Or.inr (hok hreplaces)
  | false => exact Or.inl (HTTPFileDownloader.stepThread_bytes ht response hreplaces)

theorem Apart.runCallback (h : Apart fs bytes c x) {command : StatusCommand}
    {rest : List StatusCommand} (hq : x.commandBuffer = command :: rest)
    (hs : c.session command.owner.deviceKey = some s) (hserial : s.serial = command.owner.serial) :
    Apart fs bytes (({ c with downloader := some { x with commandBuffer := rest } }.put
      command.owner.deviceKey (s.onDownloadStatus command.status command.error
        command.fileName)).record [.delivered ⟨command.owner, command.owner, command.status,
          command.error, command.fileName⟩]) { x with commandBuffer := rest } := by
  have hpop := h.withDownloader (h.single.pop hq) (h.accounted.pop hq) rfl (fun _ ho => ho)
    (Or.inl rfl)
  refine (hpop.put hs (FileTransferSession.kept_onDownloadStatus _ _ _) fun _ => ?_).record ⟨?_, ?_⟩
  · exact h.renamed (hq ▸ List.mem_cons_self) hs (h.ptr_eq hs hserial) rfl
  · intro t path content success hmem
    simp at hmem
  · intro callback hmem
    cases List.mem_singleton.mp hmem
    rfl

/-- What the downloader makes of an event. -/
inductive Goes (c : Core HTTPFileDownloader) (x : HTTPFileDownloader) :
    Event DownloaderMove → HTTPFileDownloader → List Effect → Prop
  | same {e effects} : Goes c x e x effects
  | asked {d m past} (owner : SessionPtr) : m.path ≠ "" → c.session d = none → x.busy = false →
      Goes c x (.receive d (.fileUrlDownloadInit m) past) (x.downloadFile m.path owner) []
  | thread {t response} (bu : ByteUtils) : x.thread = some t →
      Goes c x (.downloader (.thread response)) (x.stepThread bu t response) []
  | called {m command rest} : x.commandBuffer = command :: rest →
      Goes c x (.downloader m) { x with commandBuffer := rest } [.delivered
        ⟨command.owner, command.owner, command.status, command.error, command.fileName⟩]

theorem Apart.move (h : Apart fs bytes c x) (hok : c.KeepsApart x e)
    (hm : Moves (httpContext bytes fs make) e c c') :
    ∃ x' effects, Apart fs bytes c' x' ∧ Goes c x e x' effects ∧ c'.log = c.log ++ effects := by
  cases hm with
  | idle => exact ⟨x, [], h, .same, by simp⟩
  | upload => exact ⟨x, [], h.start rfl, .same, by simp [Core.start]⟩
  | @download d m past _ s hnone hs =>
    subst hs
    by_cases hurl : m.path = ""
    · refine ⟨x, [], ?_, .same, by simp [Core.start]⟩
      rw [triggered_of_empty (by exact hurl)]
      exact h.start rfl
    · have hidle := hok hnone (by simpa [FileManagementService.Inbound.startsDownload] using hurl)
      refine ⟨_, [], ?_, .asked ⟨d, c.created⟩ hurl hnone hidle, by simp [Core.start]⟩
      rw [h.here, triggered_of_url (by exact hurl)]
      exact h.download rfl hidle
  | chunk hs hurl =>
    exact ⟨x, [], h.put hs (FileTransferSession.kept_pushChunk _ _ _) fun hne => absurd hurl hne,
      .same, by simp [Core.put]⟩
  | @abort d m past _ s y hs hm haborts =>
    cases haborts.eq
    refine ⟨x, [], h.put hs FileTransferSession.kept_abort fun _ =>
      Or.inl ⟨FileTransferSession.name_abort, ?_⟩, .same, by simp [Core.put]⟩
    intro a ha
    rw [FileTransferSession.abort] at ha
    rw [(FileTransferSession.mem_changeStatusAndError ha).1]
    simp
  | @status _ _ _ _ _ effects hq hs hserial hstores =>
    exact ⟨x, effects, h.runStatus hq hs hserial hstores, .same, by simp [Core.record, Core.push]⟩
  | dropped hq => exact ⟨x, [], h.pop hq, .same, by simp⟩
  | @reset _ d p rest hq =>
    refine ⟨x, _, ((h.pop hq).drop d).record ⟨?_, ?_⟩, .same, by simp [Core.record, Core.drop]; rfl⟩
    · intro t path content success hmem
      simp at hmem
    · intro callback hmem
      simp at hmem
  | @moved move _ y y' hy hmove =>
    have hxy : y = x := Option.some.inj (hy.symm.trans h.here)
    subst hxy
    rcases h.single.move_cases hmove with ⟨rfl, -⟩ | ⟨t, response, rfl, ht, -, rfl⟩ |
      ⟨command, rest, -, -, hcallback⟩
    · exact ⟨y', [], h.withDownloader h.single h.accounted rfl (fun _ ho => ho) (Or.inl rfl), .same,
        by simp⟩
    · exact ⟨_, [], h.runThread ht response hok, .thread bytes ht, by simp⟩
    · cases hcallback
  | @called move _ y y' callback s hy hmove hs hserial =>
    have hxy : y = x := Option.some.inj (hy.symm.trans h.here)
    subst hxy
    obtain ⟨command, rest, hq, rfl, rfl⟩ := h.single.move_called hmove
    exact ⟨_, _, h.runCallback hq hs hserial, .called hq, by simp [Core.record, Core.put]⟩

/-- The end of a download stays announced until it is told. -/
theorem Goes.announced {log effects : List Effect} (hgo : Goes c x e x' effects) (hs : x.Single)
    (hshows : c.ShowsRejection x e) (h : x.Announced (Told log)) :
    x'.Announced (Told (log ++ effects)) := by
  have hlater : ∀ end_, Told log end_ → Told (log ++ effects) end_ :=
    fun _ ⟨callback, hmem, htold⟩ => ⟨callback, List.mem_append_left _ hmem, htold⟩
  cases hgo with
  | same => exact h.mono hlater
  | asked owner hurl hnone hidle =>
    exact (h.downloadFile hidle _ owner (hshows hnone hurl)).mono hlater
  | thread bu ht => exact (h.stepThread hs ht _).mono hlater
  | called hq =>
    exact h.pop hq hlater ⟨_, List.mem_append_right _ (List.mem_singleton.mpr rfl), rfl, rfl, rfl⟩

theorem apart_create (config : Configuration) (disk : φ) :
    Apart fs bytes (System.create config (some HTTPFileDownloader.create) disk).svc.core
      .create where
  toKeyed := Core.keyed_create config (some HTTPFileDownloader.create) disk
  here := rfl
  single := HTTPFileDownloader.single_create
  accounted := HTTPFileDownloader.accounted_create
  asked request h := by cases h
  own request h := by cases h
  ready p a s ha := by cases ha
  apart := ⟨fun _ _ _ _ h => (by cases h), fun _ h => (by cases h)⟩

end Apart

/-! ## Runs -/

namespace System

variable {φ : Type} {bytes : ByteUtils} {fs : FileSystemUtils φ} {make : String → Outbound → Bool}
  {es : List (Event DownloaderMove)} {sys sys' : System HTTPFileDownloader φ}
  {e : Event DownloaderMove}

theorem apart_step {x : HTTPFileDownloader} (h : Apart fs bytes sys.svc.core x)
    (hok : sys.KeepsApart e) (hstep : sys.step (httpContext bytes fs make) e = .ok sys') :
    ∃ x', Apart fs bytes sys'.svc.core x' ∧ (sys.ShowsRejection e →
      x.Announced (Told sys.svc.core.log) → x'.Announced (Told sys'.svc.core.log)) := by
  cases hears : sys.hears e with
  | true =>
    obtain ⟨x', effects, hapart, hgo, hlog⟩ := h.move (hok hears x h.here) (step_moves hstep)
    refine ⟨x', hapart, fun hshows hannounced => ?_⟩
    rw [hlog]
    exact hgo.announced h.single (hshows hears x h.here) hannounced
  | false =>
    rw [step_deaf hears hstep]
    exact ⟨x, h, fun _ => id⟩

/-- **Downloads of different devices do not mix** in a run in which no download starts while another
one is in progress, and no bytes are replaced that a queued status has yet to store. If no URL is
rejected right after an error, then every end of a download is told to the session that asked for
it, or is about to be. -/
theorem downloads_apart (config : Configuration) (disk : φ) {t : System HTTPFileDownloader φ}
    (h : Machine.Run (step (httpContext bytes fs make)) (fun sys e => sys.KeepsApart e)
      (create config (some .create) disk) es t) :
    ∃ x, t.svc.downloader = some x ∧ DownloadsApart fs x t.svc.log ∧
      (Machine.Run (step (httpContext bytes fs make))
        (fun sys e => sys.KeepsApart e ∧ sys.ShowsRejection e)
        (create config (some .create) disk) es t →
        ∀ e ∈ x.ended, (∃ command ∈ x.commandBuffer, x.statusCallback = some e.1 ∧
          (command.owner, command.status) = e) ∨ Told t.svc.log e) := by
  have hinv : ∃ x, Apart fs bytes t.svc.core x :=
    h.invariant (fun sys => ∃ x, Apart fs bytes sys.svc.core x) ⟨_, apart_create config disk⟩
      fun sys e sys' ⟨_, hx⟩ hok hstep => (apart_step hx hok hstep).imp fun _ hx' => hx'.1
  obtain ⟨x, hx⟩ := hinv
  refine ⟨x, hx.here, ⟨fun s path content success hmem => ?_, fun callback hmem => ?_⟩,
    fun h' => ?_⟩
  · exact hx.apart.stored s path content success (List.mem_filter.mpr ⟨hmem, rfl⟩)
  · exact hx.apart.delivered callback (List.mem_filter.mpr ⟨hmem, rfl⟩)
  · have hinv' : ∃ x, Apart fs bytes t.svc.core x ∧ x.Announced (Told t.svc.core.log) :=
      h'.invariant (fun sys => ∃ x, Apart fs bytes sys.svc.core x ∧ x.Announced (Told sys.svc.core.log))
        ⟨_, apart_create config disk, HTTPFileDownloader.announced_create⟩
        fun sys e sys' ⟨_, hx, hannounced⟩ hok hstep =>
          (apart_step hx hok.1 hstep).imp fun _ hx' => ⟨hx'.1, hx'.2 hok.2 hannounced⟩
    obtain ⟨y, hy, hannounced⟩ := hinv'
    have hxy : y = x := Option.some.inj (hy.here.symm.trans hx.here)
    subst hxy
    intro e he
    rcases hannounced.ended e he with ⟨command, hc, heq⟩ | ⟨callback, hmem, htold⟩
    · refine Or.inl ⟨command, hc, ?_, heq⟩
      rw [hy.single.queued command hc, ← heq]
    · exact Or.inr ⟨callback, List.mem_of_mem_filter hmem, htold⟩

/-- The files stored for URL sessions, with their session and its URL. -/
def storedDownloads (sys : System HTTPFileDownloader φ) : List Obtained :=
  sys.svc.log.filterMap fun
    | .stored s _ bytes _ => if s.url ≠ "" then some ⟨s.ptr, s.url, s.name, bytes⟩ else none
    | _ => none

def obtainedFiles (sys : System HTTPFileDownloader φ) : List Obtained :=
  sys.svc.downloader.toList.flatMap HTTPFileDownloader.obtained

theorem storedDownloads_subset {x : HTTPFileDownloader} (hx : sys.svc.downloader = some x)
    (h : DownloadsApart fs x sys.svc.log) : sys.storedDownloads ⊆ sys.obtainedFiles := by
  intro o ho
  obtain ⟨effect, hmem, heq⟩ := List.mem_filterMap.mp ho
  cases effect with
  | stored s path bytes success =>
    simp only at heq
    split_ifs at heq with hurl
    cases heq
    simpa [obtainedFiles, hx] using (h.stored s path bytes success hmem hurl).2
  | _ => cases heq

/-- The second download starts when the first one has been reported, and before its file is
stored. -/
theorem downloads_apart_two : ∃ t : System HTTPFileDownloader PathDisk,
    t.storedDownloads = [⟨⟨"d", 0⟩, "http://host.com/f", "f", [97]⟩,
      ⟨⟨"e", 1⟩, "http://host.com/g", "g", [98]⟩] ∧
    t.storedDownloads ⊆ t.obtainedFiles ∧
    Told t.svc.log (⟨"d", 0⟩, .fileReady) ∧ Told t.svc.log (⟨"e", 1⟩, .fileReady) := by
  obtain ⟨t, hrun, hlast⟩ := Machine.Run.exists_of_check (step downloadContext)
    (fun sys e => sys.KeepsApart e ∧ sys.ShowsRejection e) downloadSystem
    [.urlInit "d" "http://host.com/f", .report, .thread [], .thread [], .thread [97], .thread [],
      .callback, .callback,
      .urlInit "e" "http://host.com/g", .report, .thread [], .thread [], .runCommand,
      .thread [98], .thread [], .callback, .callback, .runCommand, .runCommand, .runCommand]
    (fun sys => (sys.storedDownloads, sys.svc.downloader.map fun x => (x.ended, x.commandBuffer)))
    ([⟨⟨"d", 0⟩, "http://host.com/f", "f", [97]⟩, ⟨⟨"e", 1⟩, "http://host.com/g", "g", [98]⟩],
      some ([(⟨"d", 0⟩, .fileReady), (⟨"e", 1⟩, .fileReady)], [])) (by decide +kernel)
  obtain ⟨hstored, hended⟩ := Prod.mk.inj hlast
  obtain ⟨x, hx, hapart, htold⟩ := downloads_apart _ _ (hrun.mono fun _ _ hok => hok.1)
  have hends : (x.ended, x.commandBuffer) =
      ([(⟨"d", 0⟩, .fileReady), (⟨"e", 1⟩, .fileReady)], []) := by
    simpa [hx] using hended
  obtain ⟨hends, hbuffer⟩ := Prod.mk.inj hends
  have hall : ∀ e ∈ x.ended, Told t.svc.log e := by
    intro e he
    rcases htold hrun e he with ⟨command, hc, -⟩ | he
    · simp [hbuffer] at hc
    · exact he
  exact ⟨t, hstored, storedDownloads_subset hx hapart, hall _ (by simp [hends]),
    hall _ (by simp [hends])⟩

/-- The second download starts before the first one is reported: its session is told that the first
file is ready, and stores it. -/
theorem second_download_stores_first : ∃ (t : System HTTPFileDownloader PathDisk)
    (x : HTTPFileDownloader),
    Machine.Run (step downloadContext) (fun _ _ => True) downloadSystem
      [.urlInit "d" "http://host.com/f", .report, .thread [], .thread [], .thread [97], .thread [],
        .urlInit "e" "http://host.com/g", .report, .callback, .callback, .runCommand] t ∧
    t.svc.downloader = some x ∧ ¬ DownloadsApart pathFileSystem x t.svc.log := by
  obtain ⟨t, hrun, hlast⟩ := Machine.Run.exists_of_check (step downloadContext)
    (fun _ _ => True) downloadSystem
    [.urlInit "d" "http://host.com/f", .report, .thread [], .thread [], .thread [97], .thread [],
      .urlInit "e" "http://host.com/g", .report, .callback, .callback, .runCommand]
    (fun sys => (sys.storedDownloads, sys.svc.downloader.map HTTPFileDownloader.obtained))
    ([⟨⟨"e", 1⟩, "http://host.com/g", "f", [97]⟩],
      some [⟨⟨"d", 0⟩, "http://host.com/f", "f", [97]⟩]) (by decide +kernel)
  obtain ⟨hstored, hobtained⟩ := Prod.mk.inj hlast
  obtain ⟨x, hx, hfiles⟩ := Option.map_eq_some_iff.mp hobtained
  refine ⟨t, x, hrun, hx, fun h => ?_⟩
  have hsubset := storedDownloads_subset hx h
  simp [hstored, obtainedFiles, hx, hfiles] at hsubset

end System

end WolkConnect
