import WolkConnect.Download.Single
import WolkConnect.Service.Keyed

/-!
# Queued commands and the lives of sessions

A status command and the callback of the downloader hold the address of a session.
The session is still there when they run, as long as no session is ended or
downloading behind a queued deletion, and no download in progress loses its session
or its callback.
-/

namespace WolkConnect

open FileTransferSession (Kept)

/-! ## The condition -/

/-- The calls of the status callback that the message makes the session queue. -/
def FileTransferSession.announces (s : FileTransferSession) (bu : ByteUtils) (past : Nat → UInt8)
    (m : FileManagementService.Inbound) : List Announcement :=
  match m with
  | .fileBinaryResponse chunk => if s.url = "" then (s.pushChunk bu past chunk).2.2 else []
  | m => if s.abortedBy m then s.abort.2 else []

def Core.deleting {δ : Type} (c : Core δ) (deviceKey : String) : Bool :=
  c.queue.any fun command => command.deletes deviceKey

/-- While a deletion for its device is queued, a message ends no session and starts no download.
While a download is in progress, a message does not abort its session and starts no other one. -/
def Core.Timely (bu : ByteUtils) (c : Core HTTPFileDownloader) : Event DownloaderMove → Prop
  | .receive d m past =>
    (∀ s ∈ c.session d, s.announces bu past m ≠ [] → c.deleting d = false) ∧
    (∀ s ∈ c.session d, s.abortedBy m = true →
      ∀ x ∈ c.downloader, x.busy = true → x.statusCallback ≠ some s.ptr) ∧
    (c.session d = none → m.startsDownload = true →
      c.deleting d = false ∧ ∀ x ∈ c.downloader, x.busy = false)
  | _ => True

def System.Timely {φ : Type} (bu : ByteUtils) (sys : System HTTPFileDownloader φ)
    (e : Event DownloaderMove) : Prop :=
  sys.hears e = true → sys.svc.core.Timely bu e

instance (bu : ByteUtils) (c : Core HTTPFileDownloader) :
    (e : Event DownloaderMove) → Decidable (c.Timely bu e)
  | .receive _ _ _ =>
    inferInstanceAs (Decidable ((∀ _ ∈ _, _ → _) ∧ (∀ _ ∈ _, _ → ∀ _ ∈ _, _ → _) ∧ (_ → _ → _ ∧ ∀ _ ∈ _, _)))
  | .report | .runCommand | .downloader _ => isTrue trivial

instance {φ : Type} (bu : ByteUtils) (sys : System HTTPFileDownloader φ)
    (e : Event DownloaderMove) : Decidable (sys.Timely bu e) :=
  inferInstanceAs (Decidable (_ → _))

/-! ## The invariant -/

section Attended

variable {φ : Type} {bytes : ByteUtils} {fs : FileSystemUtils φ}
  {make : String → Outbound → Bool} {c c' : Core HTTPFileDownloader} {x x' : HTTPFileDownloader}
  {d : String} {e : Event DownloaderMove} {s : FileTransferSession}
  {r : FileTransferSession × List Announcement}

/-- The session lives, downloads, and nothing that is queued ends it. -/
structure Core.Downloads (c : Core HTTPFileDownloader) (p : SessionPtr) : Prop where
  lives : ∃ s, c.session p.deviceKey = some s ∧ s.ptr = p ∧ s.url ≠ ""
  kept : c.deleting p.deviceKey = false
  unended : ∀ a, Command.sessionStatus p a ∈ c.queue → deletion p a.status = []

/-- Queued statuses are about live sessions that nothing before them deletes. -/
structure Attended (c : Core HTTPFileDownloader) (x : HTTPFileDownloader) : Prop
    extends c.Keyed where
  here : c.downloader = some x
  single : x.Single
  lives : ∀ p a, Command.sessionStatus p a ∈ c.queue →
    ∃ s, c.session p.deviceKey = some s ∧ s.ptr = p
  ordered : c.queue.Pairwise fun before after =>
    ∀ p a, after = .sessionStatus p a → before.deletes p.deviceKey = false
  called : x.busy = true → ∃ p, x.statusCallback = some p ∧ c.Downloads p

theorem deleting_eq_false {δ : Type} {c : Core δ} :
    c.deleting d = false ↔ ∀ command ∈ c.queue, command.deletes d = false := by
  simp [Core.deleting]

theorem announces_abort {bu : ByteUtils} {past : Nat → UInt8} {m : FileManagementService.Inbound}
    (h : s.abortedBy m = true) : s.announces bu past m = s.abort.2 := by
  cases m <;> simp_all [FileTransferSession.announces, FileTransferSession.abortedBy]

/-! ## Steps -/

theorem Attended.start (h : Attended c x) (hnone : c.session d = none) (hkey : s.deviceKey = d)
    (hserial : s.serial = c.created) : Attended (c.start s) x := by
  have hother : ∀ {key t}, c.session key = some t → (c.start s).session key = some t := by
    intro key t ht
    have hne : key ≠ s.deviceKey := by
      rintro rfl
      rw [hkey, hnone] at ht
      cases ht
    rw [← ht]
    exact Function.update_of_ne hne _ _
  refine ⟨h.toKeyed.start hserial, h.here, h.single, fun p a ha => ?_, h.ordered, fun hbusy => ?_⟩
  · obtain ⟨t, ht, hp⟩ := h.lives p a ha
    exact ⟨t, hother ht, hp⟩
  · obtain ⟨p, hp, ⟨t, ht, hptr, hurl⟩, hkept, hopen⟩ := h.called hbusy
    exact ⟨p, hp, ⟨t, hother ht, hptr, hurl⟩, hkept, hopen⟩

theorem Attended.download (h : Attended c x) (hnone : c.session d = none) (hkey : s.deviceKey = d)
    (hserial : s.serial = c.created) (hurl : s.url ≠ "") (hkept : c.deleting d = false)
    (hidle : x.busy = false) :
    Attended { c.start s with downloader := some (x.downloadFile s.url s.ptr) }
      (x.downloadFile s.url s.ptr) := by
  have hstart := h.start hnone hkey hserial
  have hkept' : c.deleting s.deviceKey = false := by rw [hkey]; exact hkept
  refine ⟨hstart.toKeyed.withDownloader _, rfl, HTTPFileDownloader.single_downloadFile hidle _ _,
    hstart.lives, h.ordered, fun _ => ⟨s.ptr, HTTPFileDownloader.downloadFile_statusCallback _ _,
      ⟨s, Function.update_self _ _ _, rfl, hurl⟩, hkept', fun a ha => ?_⟩⟩
  obtain ⟨t, ht, -⟩ := h.lives s.ptr a ha
  rw [show s.ptr.deviceKey = d from hkey, hnone] at ht
  cases ht

/-- A call of a method of a session. What it queues is not behind a deletion of the session, and
does not end a download in progress. -/
theorem Attended.put (h : Attended c x) (hs : c.session d = some s) (hr : s.Kept r)
    (hbehind : r.2 ≠ [] → c.deleting d = false)
    (hopen : x.busy = true → x.statusCallback = some s.ptr → ∀ a ∈ r.2, deletion s.ptr a.status = []) :
    Attended (c.put d r) x := by
  have hptr := hr.ptr
  have hkey : s.ptr.deviceKey = d := h.key d s hs
  have hself : (c.put d r).session d = some r.1 := Function.update_self _ _ _
  have hother : ∀ {key t}, key ≠ d → c.session key = some t → (c.put d r).session key = some t := by
    intro key t hne ht
    rw [← ht]
    exact Function.update_of_ne hne _ _
  have hlives : ∀ {p}, (∃ t, c.session p.deviceKey = some t ∧ t.ptr = p) →
      ∃ t, (c.put d r).session p.deviceKey = some t ∧ t.ptr = p := by
    rintro p ⟨t, ht, hp⟩
    by_cases hd : p.deviceKey = d
    · rw [hd] at ht ⊢
      have heq : s = t := Option.some.inj (hs.symm.trans ht)
      exact ⟨r.1, hself, by rw [hptr, heq, hp]⟩
    · exact ⟨t, hother hd ht, hp⟩
  refine ⟨h.toKeyed.put hs hr, h.here, h.single, fun p a ha => ?_, ?_, fun hbusy => ?_⟩
  · rcases Core.mem_put hr ha with ha | ⟨_, _, heq⟩
    · exact hlives (h.lives p a ha)
    · cases heq
      exact hlives ⟨s, hkey ▸ hs, rfl⟩
  · refine List.pairwise_append.mpr ⟨h.ordered, ?_, fun before hbefore after hafter p a heq => ?_⟩
    · rw [List.pairwise_map]
      exact List.pairwise_of_forall fun _ _ _ _ _ => rfl
    · obtain ⟨b, hb, rfl⟩ := List.mem_map.mp hafter
      cases heq
      rw [hptr, hkey]
      exact deleting_eq_false.mp (hbehind (List.ne_nil_of_mem hb)) before hbefore
  · obtain ⟨p, hp, ⟨t, ht, htp, hurl⟩, hkept, hopen'⟩ := h.called hbusy
    refine ⟨p, hp, ?_, ?_, fun a ha => ?_⟩
    · by_cases hd : p.deviceKey = d
      · rw [hd] at ht ⊢
        have heq : s = t := Option.some.inj (hs.symm.trans ht)
        exact ⟨r.1, hself, by rw [hptr, heq, htp], by rw [hr.url, heq]; exact hurl⟩
      · exact ⟨t, hother hd ht, htp, hurl⟩
    · rw [deleting_eq_false] at hkept ⊢
      intro command hc
      rcases Core.mem_put hr hc with hc | ⟨_, _, rfl⟩
      · exact hkept command hc
      · rfl
    · rcases Core.mem_put hr ha with ha | ⟨_, hb, heq⟩
      · exact hopen' a ha
      · cases heq
        exact hopen hbusy hp a hb

theorem Attended.pop (h : Attended c x) {command : Command} {rest : List Command}
    (hq : c.queue = command :: rest) : Attended { c with queue := rest } x := by
  have hrest : ∀ {command'}, command' ∈ rest → command' ∈ c.queue :=
    fun hc => hq ▸ List.mem_cons_of_mem _ hc
  have hordered := h.ordered
  rw [hq] at hordered
  refine ⟨h.toKeyed.pop hq, h.here, h.single, fun p a ha => h.lives p a (hrest ha), hordered.tail,
    fun hbusy => ?_⟩
  obtain ⟨p, hp, hlives, hkept, hopen⟩ := h.called hbusy
  exact ⟨p, hp, hlives,
    deleting_eq_false.mpr fun command' hc => deleting_eq_false.mp hkept command' (hrest hc),
    fun a ha => hopen a (hrest ha)⟩

/-- The deletion that a status asks for goes behind everything else. -/
theorem Attended.push (h : Attended c x) {p : SessionPtr} {status : FileTransferStatus}
    (hp : p.serial < c.created)
    (hidle : x.busy = true → ∀ q, x.statusCallback = some q → deletion p status ≠ [] →
      p.deviceKey ≠ q.deviceKey) : Attended (c.push (deletion p status)) x := by
  refine ⟨h.toKeyed.push_deletion hp _, h.here, h.single, fun q a ha => ?_, ?_, fun hbusy => ?_⟩
  · rcases List.mem_append.mp ha with ha | ha
    · exact h.lives q a ha
    · cases mem_deletion ha
  · refine List.pairwise_append.mpr ⟨h.ordered, ?_, fun _ _ after hafter q a heq => ?_⟩
    · cases status <;> simp [deletion]
    · rw [heq] at hafter
      cases mem_deletion hafter
  · obtain ⟨q, hq, hlives, hkept, hopen⟩ := h.called hbusy
    refine ⟨q, hq, hlives, ?_, fun a ha => ?_⟩
    · rw [deleting_eq_false] at hkept ⊢
      intro command hc
      rcases List.mem_append.mp hc with hc | hc
      · exact hkept command hc
      · have hne := hidle hbusy q hq (List.ne_nil_of_mem hc)
        rw [mem_deletion hc]
        simpa [Command.deletes] using hne
    · rcases List.mem_append.mp ha with ha | ha
      · exact hopen a ha
      · cases mem_deletion ha

theorem Attended.record (h : Attended c x) (effects : List Effect) :
    Attended (c.record effects) x :=
  ⟨h.toKeyed.record effects, h.here, h.single, h.lives, h.ordered,
    fun hbusy => (h.called hbusy).imp fun _ hp => ⟨hp.1, hp.2.lives, hp.2.kept, hp.2.unended⟩⟩

/-- The deletion at the head of the queue hits no session that is needed. -/
theorem Attended.delete (h : Attended c x) {p : SessionPtr} {rest : List Command}
    (hq : c.queue = .resetSession d p :: rest) :
    Attended (({ c with queue := rest }).drop d) x := by
  have hpop := h.pop hq
  have hordered := h.ordered
  rw [hq, List.pairwise_cons] at hordered
  have hother : ∀ {key t}, d ≠ key → c.session key = some t →
      (Core.drop { c with queue := rest } d).session key = some t := by
    intro key t hne ht
    rw [← ht]
    exact Function.update_of_ne hne.symm _ _
  refine ⟨hpop.toKeyed.drop d, h.here, h.single, fun q a ha => ?_, hordered.2, fun hbusy => ?_⟩
  · obtain ⟨t, ht, htq⟩ := hpop.lives q a ha
    have hne : d ≠ q.deviceKey := by
      simpa [Command.deletes] using hordered.1 _ ha q a rfl
    exact ⟨t, hother hne ht, htq⟩
  · obtain ⟨q, hcallback, -, hkept, -⟩ := h.called hbusy
    obtain ⟨q', hcallback', ⟨t, ht, htq, hurl⟩, hkept', hopen⟩ := hpop.called hbusy
    have heq : q' = q := Option.some.inj (hcallback'.symm.trans hcallback)
    subst heq
    have hdeletes : (Command.resetSession d p).deletes q'.deviceKey = false :=
      deleting_eq_false.mp hkept _ (hq ▸ List.mem_cons_self)
    have hne : d ≠ q'.deviceKey := by
      simpa [Command.deletes] using hdeletes
    exact ⟨q', hcallback, ⟨t, hother hne ht, htq, hurl⟩, hkept', hopen⟩

theorem Attended.withDownloader (h : Attended c x) (hsingle : x'.Single)
    (hcallback : x'.statusCallback = x.statusCallback) (hbusy : x'.busy = true → x.busy = true) :
    Attended { c with downloader := some x' } x' := by
  refine ⟨h.toKeyed.withDownloader _, rfl, hsingle, h.lives, h.ordered, fun hb => ?_⟩
  obtain ⟨p, hp, hlives, hkept, hopen⟩ := h.called (hbusy hb)
  exact ⟨p, hcallback.trans hp, hlives, hkept, hopen⟩

/-- A status that ends a session is not about the download in progress. -/
theorem Attended.runStatus (h : Attended c x) {p : SessionPtr} {a : Announcement}
    {rest : List Command} (hq : c.queue = .sessionStatus p a :: rest)
    (hs : c.session p.deviceKey = some s) (hserial : s.serial = p.serial) :
    Attended ({ c with queue := rest }.push (deletion p a.status)) x := by
  have hhead : Command.sessionStatus p a ∈ c.queue := hq ▸ List.mem_cons_self
  refine (h.pop hq).push (h.status p a hhead) fun hbusy q hcallback hdel hkey => ?_
  obtain ⟨q', hcallback', ⟨t, ht, htq, -⟩, -, hopen⟩ := h.called hbusy
  have heq : q' = q := Option.some.inj (hcallback'.symm.trans hcallback)
  subst heq
  rw [← hkey, hs] at ht
  cases ht
  have hp : p = q' := (h.ptr_eq hs hserial).symm.trans htq
  subst hp
  exact hdel (hopen a hhead)

/-- The callback queues a status of the download in progress. One that ends the session comes when
the download is over. -/
theorem Attended.runCallback (h : Attended c x) {command : StatusCommand}
    {rest : List StatusCommand} (hq : x.commandBuffer = command :: rest)
    (hs : c.session command.owner.deviceKey = some s) :
    Attended ({ c with downloader := some { x with commandBuffer := rest } }.put
      command.owner.deviceKey (s.onDownloadStatus command.status command.error command.fileName))
      { x with commandBuffer := rest } := by
  have hmem : command ∈ x.commandBuffer := hq ▸ List.mem_cons_self
  have hbusy := HTTPFileDownloader.busy_of_command hmem
  obtain ⟨p, hp, -, hkept, -⟩ := h.called hbusy
  have hpeq : p = command.owner := Option.some.inj (hp.symm.trans (h.single.queued command hmem))
  subst hpeq
  refine (h.withDownloader (h.single.pop hq) rfl fun _ => hbusy).put hs
    (FileTransferSession.kept_onDownloadStatus _ _ _) (fun _ => hkept) fun hrest _ a ha => ?_
  have hstatus := FileTransferSession.mem_onDownloadStatus ha
  by_cases hend : command.status = .fileTransfer
  · rw [hstatus, hend]; rfl
  · rw [h.single.idle_of_end hq hend] at hrest
    cases hrest

theorem Attended.move (h : Attended c x) (htimely : c.Timely bytes e)
    (hm : Moves (httpContext bytes fs make) e c c') : ∃ x', Attended c' x' := by
  cases hm with
  | idle => exact ⟨x, h⟩
  | upload hnone => exact ⟨x, h.start hnone rfl rfl⟩
  | @download d m past _ s hnone hs =>
    subst hs
    by_cases hurl : m.path = ""
    · refine ⟨x, ?_⟩
      rw [triggered_of_empty (by exact hurl)]
      exact h.start hnone rfl rfl
    · obtain ⟨-, -, hstarts⟩ := htimely
      obtain ⟨hkept, hidle⟩ := hstarts hnone (by
        simpa [FileManagementService.Inbound.startsDownload] using hurl)
      have hdownload := h.download hnone (s := .ofUrlDownload c.created d m true) rfl rfl hurl hkept
        (hidle x h.here)
      refine ⟨x.downloadFile m.path ⟨d, c.created⟩, ?_⟩
      rw [h.here, triggered_of_url (by exact hurl)]
      exact hdownload
  | @chunk d m past _ s hs hurl =>
    refine ⟨x, h.put hs (FileTransferSession.kept_pushChunk _ _ _) (fun hqueued => ?_) ?_⟩
    · refine htimely.1 s hs ?_
      rw [FileTransferSession.announces, if_pos hurl]
      exact hqueued
    · intro hbusy hcallback
      obtain ⟨p, hp, ⟨t, ht, htp, hturl⟩, -, -⟩ := h.called hbusy
      have hpeq : p = s.ptr := Option.some.inj (hp.symm.trans hcallback)
      rw [hpeq, show s.ptr.deviceKey = d from h.key d s hs, hs] at ht
      cases ht
      exact absurd hurl hturl
  | @abort d m past _ s y hs hm haborts =>
    cases haborts.eq
    obtain ⟨hannounce, habort, -⟩ := htimely
    refine ⟨x, h.put hs FileTransferSession.kept_abort (fun hqueued => ?_) fun hbusy hcallback => ?_⟩
    · exact hannounce s hs (by rwa [announces_abort hm])
    · exact absurd hcallback (habort s hs hm x h.here hbusy)
  | status hq hs hserial => exact ⟨x, (h.runStatus hq hs hserial).record _⟩
  | dropped hq => exact ⟨x, h.pop hq⟩
  | reset hq => exact ⟨x, (h.delete hq).record _⟩
  | @moved move _ y y' hy hmove =>
    have hxy : y = x := Option.some.inj (hy.symm.trans h.here)
    subst hxy
    rcases h.single.move_cases hmove with ⟨rfl, -⟩ | ⟨t, response, -, ht, -, rfl⟩ |
      ⟨command, rest, -, -, hcallback⟩
    · exact ⟨y', h.withDownloader h.single rfl id⟩
    · exact ⟨_, h.withDownloader (h.single.stepThread ht response)
        (HTTPFileDownloader.stepThread_statusCallback t response)
        fun _ => HTTPFileDownloader.busy_of_thread ht⟩
    · cases hcallback
  | @called move _ y y' callback s hy hmove hs hserial =>
    have hxy : y = x := Option.some.inj (hy.symm.trans h.here)
    subst hxy
    obtain ⟨command, rest, hq, rfl, rfl⟩ := h.single.move_called hmove
    exact ⟨_, (h.runCallback hq hs).record _⟩

theorem attended_create (config : Configuration) (disk : φ) :
    Attended (System.create config (some HTTPFileDownloader.create) disk).svc.core .create where
  toKeyed := Core.keyed_create config (some HTTPFileDownloader.create) disk
  here := rfl
  single := HTTPFileDownloader.single_create
  lives p a ha := by cases ha
  ordered := .nil
  called h := by cases h

end Attended

/-! ## Runs -/

/-- The session at this address is in `m_sessions`. -/
def FileManagementService.Lives {δ φ : Type} (svc : FileManagementService δ φ) (p : SessionPtr) :
    Prop :=
  ∃ s, svc.sessions.find? p.deviceKey = some (some s) ∧ s.ptr = p

/-- Whatever runs next and holds the address of a session finds it alive. -/
structure System.MeetsSessions {φ : Type} (bytes : ByteUtils) (sys : System HTTPFileDownloader φ) :
    Prop where
  queued : ∀ p a rest, sys.svc.commandBuffer = .sessionStatus p a :: rest → sys.svc.Lives p
  called : ∀ x m x' callback, sys.svc.downloader = some x → x.move bytes m = (x', some callback) →
    sys.svc.Lives callback.target

theorem FileManagementService.lives_of_session {δ φ : Type} {svc : FileManagementService δ φ}
    {p : SessionPtr} (h : ∃ s, svc.core.session p.deviceKey = some s ∧ s.ptr = p) :
    svc.Lives p := by
  obtain ⟨s, hs, hp⟩ := h
  exact ⟨s, Option.join_eq_some_iff.mp hs, hp⟩

namespace System

variable {φ : Type} {bytes : ByteUtils} {fs : FileSystemUtils φ} {make : String → Outbound → Bool}
  {es : List (Event DownloaderMove)} {sys sys' : System HTTPFileDownloader φ}

theorem meetsSessions_of_attended {x : HTTPFileDownloader} (h : Attended sys.svc.core x) :
    sys.MeetsSessions bytes where
  queued p a rest hq := by
    have hmem : Command.sessionStatus p a ∈ sys.svc.core.queue := by
      simp [FileManagementService.core, hq, Command.isNotice]
    exact FileManagementService.lives_of_session (h.lives p a hmem)
  called y m y' callback hy hmove := by
    have hxy : y = x := Option.some.inj (hy.symm.trans h.here)
    subst hxy
    obtain ⟨command, rest, hq, rfl, rfl⟩ := h.single.move_called hmove
    have hmem : command ∈ y.commandBuffer := hq ▸ List.mem_cons_self
    obtain ⟨p, hp, ⟨s, hs, hsp, -⟩, -, -⟩ := h.called (HTTPFileDownloader.busy_of_command hmem)
    have hpeq : p = command.owner :=
      Option.some.inj (hp.symm.trans (h.single.queued command hmem))
    exact FileManagementService.lives_of_session (hpeq ▸ ⟨s, hs, hsp⟩)

theorem attended_step {e : Event DownloaderMove} {x : HTTPFileDownloader}
    (h : Attended sys.svc.core x) (htimely : sys.Timely bytes e)
    (hstep : sys.step (httpContext bytes fs make) e = .ok sys') :
    ∃ x', Attended sys'.svc.core x' := by
  cases hears : sys.hears e with
  | true => exact h.move (htimely hears) (step_moves hstep)
  | false =>
    rw [step_deaf hears hstep]
    exact ⟨x, h⟩

/-- **A command never outlives its session.** This holds in every run in which no session ends or
downloads behind a deletion that is queued for its device, and a download in progress is neither
aborted nor followed by another one. -/
theorem commands_meet_sessions (config : Configuration) (disk : φ)
    {t : System HTTPFileDownloader φ}
    (h : Machine.Run (step (httpContext bytes fs make)) (fun sys e => sys.Timely bytes e)
      (create config (some .create) disk) es t) : t.MeetsSessions bytes := by
  have hinv : ∃ x, Attended t.svc.core x :=
    h.invariant (fun sys => ∃ x, Attended sys.svc.core x) ⟨_, attended_create config disk⟩
      fun sys e sys' ⟨_, hx⟩ htimely hstep => attended_step hx htimely hstep
  obtain ⟨x, hx⟩ := hinv
  exact meetsSessions_of_attended hx

/-- A download and an upload of one device, each to its end. -/
theorem commands_meet_sessions_a : ∃ t : System HTTPFileDownloader PathDisk,
    t.MeetsSessions tableByteUtils ∧ t.svc.created = 2 := by
  obtain ⟨t, hrun, hcreated⟩ := Machine.Run.exists_of_check (step downloadContext)
    (fun sys e => sys.Timely tableByteUtils e) downloadSystem
    [.urlInit "d" "http://host.com/f", .report, .thread [], .thread [], .thread [97], .thread [],
      .callback, .callback, .runCommand, .runCommand, .runCommand,
      .initA, .chunkA, .abortA, .runCommand, .runCommand, .runCommand, .runCommand]
    (fun sys => sys.svc.created) 2 (by decide +kernel)
  exact ⟨t, commands_meet_sessions _ _ hrun, hcreated⟩

def nextCalled (sys : System HTTPFileDownloader φ) : Option SessionPtr :=
  sys.svc.downloader.bind fun x => x.runCommand.2.map Callback.target

theorem not_meetsSessions {p : SessionPtr} (hnext : sys.nextCalled = some p)
    (hgone : sys.svc.session? p.deviceKey = none) : ¬ sys.MeetsSessions bytes := by
  intro h
  obtain ⟨x, hx, hp⟩ := Option.bind_eq_some_iff.mp hnext
  obtain ⟨callback, hcallback, rfl⟩ := Option.map_eq_some_iff.mp hp
  obtain ⟨s, hs, -⟩ := h.called x .runCommand _ callback hx (Prod.ext rfl hcallback)
  rw [FileManagementService.session?, hs] at hgone
  cases hgone

/-- A download that is aborted before its client session is made goes on, and calls a session that
is destroyed by then. -/
theorem aborted_download_calls_destroyed : ∃ t : System HTTPFileDownloader PathDisk,
    Machine.Run (step downloadContext) (fun _ _ => True) downloadSystem
      [.urlInit "d" "http://host.com/f", .report, .urlAbort "d" "http://host.com/f",
        .runCommand, .runCommand, .thread []] t ∧ ¬ t.MeetsSessions tableByteUtils := by
  obtain ⟨t, hrun, hlast⟩ := Machine.Run.exists_of_check (step downloadContext)
    (fun _ _ => True) downloadSystem
    [.urlInit "d" "http://host.com/f", .report, .urlAbort "d" "http://host.com/f",
      .runCommand, .runCommand, .thread []]
    (fun sys => (sys.nextCalled, sys.svc.session? "d")) (some ⟨"d", 0⟩, none) (by decide +kernel)
  obtain ⟨hnext, hgone⟩ := Prod.mk.inj hlast
  exact ⟨t, hrun, not_meetsSessions hnext hgone⟩

end System

end WolkConnect
