import WolkConnect.Download.Single

/-!
# One answer for each download

A downloader that is used for one download after the other. A status is announced when
it differs from the one before, which the download before it left.
-/

namespace WolkConnect

/-- A download is over with this status. -/
def FileTransferStatus.endsDownload (status : FileTransferStatus) : Bool :=
  decide (status = .fileReady ∨ status = .error)

namespace HTTPFileDownloader

/-- The ends that wait in the command buffer. -/
def pending (x : HTTPFileDownloader) : Nat :=
  x.commandBuffer.countP fun command => command.status.endsDownload

/-- From its announcement to its end, a download has the status `FILE_TRANSFER`. -/
def Phased (x : HTTPFileDownloader) : Prop :=
  x.status = .fileTransfer ↔ ∃ t, x.thread = some t ∧ t.phase ≠ .started

end HTTPFileDownloader

inductive ClientEvent
  | downloadFile (url : String)
  | move (m : DownloaderMove)

/-- `calls` counts the calls of `downloadFile`, each with a callback of its own, and `invoked` has the
calls of these callbacks: of which one, and with which status. -/
structure DownloadClient where
  downloader : HTTPFileDownloader
  calls : Nat
  invoked : List (Nat × FileTransferStatus)

namespace DownloadClient

variable (bu : ByteUtils) (c : DownloadClient)

def create : DownloadClient := ⟨.create, 0, []⟩

/-- The callback of the call with this number. -/
def callback (i : Nat) : SessionPtr := ⟨"", i⟩

def step (c : DownloadClient) : ClientEvent → Except Empty DownloadClient
  | .downloadFile url =>
    .ok { c with downloader := c.downloader.downloadFile url (callback c.calls), calls := c.calls + 1 }
  | .move m =>
    let r := c.downloader.move bu m
    .ok { c with
      downloader := r.1
      invoked := c.invoked ++ r.2.toList.map fun called => (called.target.serial, called.status) }

/-- How often the callback of a call was told an end. -/
def answers (i : Nat) : Nat :=
  c.invoked.countP fun called => decide (called.1 = i) && called.2.endsDownload

/-- A call is made after the thread of the one before has ended and its callbacks have run. -/
def Sequential (c : DownloadClient) : ClientEvent → Prop
  | .downloadFile _ => c.downloader.busy = false
  | .move _ => True

/-- A malformed URL is not given to a downloader whose status is an error. -/
def Answers (c : DownloadClient) (e : ClientEvent) : Prop :=
  c.Sequential e ∧
    match e with
    | .downloadFile url => passesRegex url = false → c.downloader.status ≠ .error
    | .move _ => True

/-- Every call whose download is over was answered once. -/
def Answered : Prop :=
  ∀ i < c.calls, (i + 1 < c.calls ∨ c.downloader.busy = false) → c.answers i = 1

instance (c : DownloadClient) : (e : ClientEvent) → Decidable (c.Sequential e)
  | .downloadFile _ => inferInstanceAs (Decidable (_ = false))
  | .move _ => inferInstanceAs (Decidable True)

instance (c : DownloadClient) : (e : ClientEvent) → Decidable (c.Answers e)
  | .downloadFile _ => inferInstanceAs (Decidable (_ ∧ (_ = false → _)))
  | .move _ => inferInstanceAs (Decidable (_ ∧ True))

/-! ## Steps of the thread -/

end DownloadClient

namespace HTTPFileDownloader

variable {bu : ByteUtils} {x : HTTPFileDownloader} {t : Download} {owner : SessionPtr}
  {status : FileTransferStatus} {error : FileTransferError} {fileName : String}

theorem pending_changeStatus (hchanged : status ≠ x.status) (hcallback : x.statusCallback.isSome = true) :
    (x.changeStatus owner status error fileName).pending =
      x.pending + if status.endsDownload then 1 else 0 := by
  simp [pending, changeStatus, hchanged, hcallback, List.countP_cons]

theorem pending_changeStatus_same (h : status.endsDownload = false) :
    (x.changeStatus owner status error fileName).pending = x.pending := by
  obtain ⟨_, _, queued, heq, hqueued⟩ := x.changeStatus_eq owner status error fileName
  rw [heq]
  rcases hqueued with rfl | rfl
  · simp [pending]
  · simp [pending, h]

theorem phased_idle (hthread : x.thread = none) (hstatus : x.status ≠ .fileTransfer) : x.Phased :=
  iff_of_false hstatus fun ⟨t, ht, _⟩ => by rw [hthread] at ht; cases ht

theorem phased_running (hthread : x.thread = some t) (hphase : t.phase ≠ .started)
    (hstatus : x.status = .fileTransfer) : x.Phased :=
  iff_of_true hstatus ⟨t, hthread, hphase⟩

theorem Phased.transferring (h : x.Phased) (hthread : x.thread = some t) (hphase : t.phase ≠ .started) :
    x.status = .fileTransfer :=
  h.mpr ⟨t, hthread, hphase⟩

/-- What a step of the thread leaves: its own end, announced, or a thread that goes on. -/
structure Steps (x x' : HTTPFileDownloader) : Prop where
  phased : x'.Phased
  pending : x'.pending = x.pending + if x'.thread.isSome then 0 else 1

/-- The end of a download that was announced is a change of status. -/
theorem Phased.finish (h : x.Phased) (hsingle : x.Single) (hthread : x.thread = some t)
    (hphase : t.phase ≠ .started) (hend : status.endsDownload = true)
    (ended : List (SessionPtr × FileTransferStatus)) :
    x.Steps ({ x with thread := none, ended := ended }.changeStatus t.owner status error fileName) := by
  have hstatus := h.transferring hthread hphase
  have hne : status ≠ .fileTransfer := by
    rintro rfl
    revert hend
    decide
  refine ⟨phased_idle (by simp) (by simpa using hne), ?_⟩
  rw [pending_changeStatus (by rw [hstatus]; exact hne) (by rw [hsingle.owned t hthread]; rfl)]
  simp [hend, HTTPFileDownloader.pending]

theorem Phased.stepThread (h : x.Phased) (hsingle : x.Single) (hthread : x.thread = some t)
    (response : Response) : x.Steps (x.stepThread bu t response) := by
  apply stepThread_cases
  · intro _
    refine ⟨phased_running (t := { t with phase := .announced }) ?_ ?_ ?_, ?_⟩
    · simp [announceStart]
    · simp
    · simp [announceStart]
    · rw [announceStart, pending_changeStatus_same (by decide)]
      simp [HTTPFileDownloader.pending]
  · intro hphase
    exact h.finish hsingle hthread hphase (by decide) _
  · intro session hphase
    refine ⟨phased_running (t := { t with phase := .connected }) rfl ?_ ?_, rfl⟩
    · simp
    · exact h.transferring hthread (by simp [hphase])
  · intro body hphase _
    refine ⟨phased_running (t := { t with phase := .received }) rfl ?_ ?_, rfl⟩
    · simp
    · exact h.transferring hthread (by simp [hphase])
  · intro hphase
    exact h.finish hsingle hthread (by simp [hphase]) (by decide) _

end HTTPFileDownloader

/-! ## The invariant -/

namespace DownloadClient

variable {bu : ByteUtils} {c c' : DownloadClient}

/-- The last call has its answer, or a pending one, when the thread is over. -/
structure Answering (c : DownloadClient) : Prop where
  single : c.downloader.Single
  bound : ∀ called ∈ c.invoked, called.1 < c.calls
  fresh : c.calls = 0 → c.downloader.busy = false
  callback : c.calls ≠ 0 → c.downloader.statusCallback = some (callback (c.calls - 1))
  earlier : ∀ i, i + 1 < c.calls → c.answers i = 1
  last : ∀ i, i + 1 = c.calls →
    c.answers i + c.downloader.pending = if c.downloader.thread.isSome then 0 else 1
  phased : c.downloader.Phased

theorem answers_of_bound (h : ∀ called ∈ c.invoked, called.1 < c.calls) : c.answers c.calls = 0 := by
  refine List.countP_eq_zero.mpr fun called hmem => ?_
  have hlt := h called hmem
  simp [Nat.ne_of_lt hlt]

theorem answering_create : create.Answering where
  single := HTTPFileDownloader.single_create
  bound called h := by cases h
  fresh _ := rfl
  callback h := absurd rfl h
  earlier i h := absurd h (Nat.not_lt_zero _)
  last i h := absurd h (Nat.succ_ne_zero _)
  phased := by constructor <;> intro h <;> revert h <;> simp [create, HTTPFileDownloader.create]

theorem Answering.answered (h : c.Answering) : c.Answered := by
  intro i hi hover
  by_cases hearlier : i + 1 < c.calls
  · exact h.earlier i hearlier
  · have hidle := hover.resolve_left hearlier
    obtain ⟨hthread, -, hbuffer⟩ := HTTPFileDownloader.busy_eq_false.mp hidle
    have hlast := h.last i (by omega)
    simpa [HTTPFileDownloader.pending, hthread, hbuffer] using hlast

/-! ## Steps -/

/-- What a call leaves of a downloader that is not busy. -/
theorem downloadFile_idle {x : HTTPFileDownloader} (hidle : x.busy = false) (url : String)
    (owner : SessionPtr) :
    passesRegex url = true ∧ (x.downloadFile url owner).thread = some ⟨url, owner, .started⟩ ∧
        (x.downloadFile url owner).commandBuffer = [] ∧
        (x.downloadFile url owner).status = x.status ∨
      passesRegex url = false ∧ (x.downloadFile url owner).thread = none ∧
        (x.downloadFile url owner).status = .error ∧
        (x.downloadFile url owner).commandBuffer =
          if x.status = .error then [] else [⟨owner, .error, .malformedUrl, ""⟩] := by
  obtain ⟨hthread, -, hbuffer⟩ := HTTPFileDownloader.busy_eq_false.mp hidle
  unfold HTTPFileDownloader.downloadFile
  cases hregex : passesRegex url with
  | true => exact .inl ⟨rfl, by simp [hthread, hbuffer]⟩
  | false =>
    refine .inr ⟨rfl, by simp [hthread], by simp, ?_⟩
    by_cases herror : x.status = .error
    · simp [HTTPFileDownloader.changeStatus, herror, hbuffer]
    · simp [HTTPFileDownloader.changeStatus, herror, Ne.symm herror, hbuffer]

theorem Answering.downloadFile (h : c.Answering) (hidle : c.downloader.busy = false) {url : String}
    (hok : passesRegex url = false → c.downloader.status ≠ .error) :
    Answering { c with
      downloader := c.downloader.downloadFile url (DownloadClient.callback c.calls)
      calls := c.calls + 1 } := by
  obtain ⟨hthread, -, hbuffer⟩ := HTTPFileDownloader.busy_eq_false.mp hidle
  have hnew : c.answers c.calls = 0 := answers_of_bound h.bound
  have hstopped : c.downloader.status ≠ .fileTransfer := fun hstatus => by
    obtain ⟨t, ht, -⟩ := h.phased.mp hstatus
    rw [hthread] at ht
    cases ht
  refine ⟨HTTPFileDownloader.single_downloadFile hidle _ _, fun called hmem => ?_,
    fun hzero => absurd hzero (Nat.succ_ne_zero _), fun _ => ?_, fun i hi => ?_, fun i hi => ?_, ?_⟩
  · exact Nat.lt_succ_of_lt (h.bound called hmem)
  · exact HTTPFileDownloader.downloadFile_statusCallback _ _
  · exact h.answered i (Nat.lt_of_succ_lt_succ hi) (.inr hidle)
  · obtain rfl : i = c.calls := Nat.succ.inj hi
    change c.answers c.calls + _ = _
    rw [hnew, HTTPFileDownloader.pending]
    rcases downloadFile_idle hidle url (DownloadClient.callback c.calls) with
      ⟨-, hthread', hbuffer', -⟩ | ⟨hregex, hthread', -, hbuffer'⟩
    · rw [hbuffer', hthread']
      rfl
    · rw [hbuffer', hthread', if_neg (hok hregex)]
      rfl
  · rcases downloadFile_idle hidle url (DownloadClient.callback c.calls) with
      ⟨-, hthread', -, hstatus⟩ | ⟨-, hthread', hstatus, -⟩
    · refine iff_of_false (hstatus ▸ hstopped) ?_
      rintro ⟨t, ht, hphase⟩
      rw [hthread'] at ht
      cases ht
      exact hphase rfl
    · exact HTTPFileDownloader.phased_idle hthread' (by rw [hstatus]; decide)

theorem Answering.calls_ne_zero (h : c.Answering) (hbusy : c.downloader.busy = true) : c.calls ≠ 0 := by
  intro hzero
  rw [h.fresh hzero] at hbusy
  cases hbusy

theorem Answering.thread (h : c.Answering) {t : Download} (hthread : c.downloader.thread = some t)
    (response : Response) :
    Answering { c with downloader := c.downloader.stepThread bu t response } := by
  have hcalls := h.calls_ne_zero (HTTPFileDownloader.busy_of_thread hthread)
  obtain ⟨hphased, hpending⟩ : c.downloader.Steps (c.downloader.stepThread bu t response) :=
    h.phased.stepThread h.single hthread response
  refine ⟨h.single.stepThread hthread response, h.bound, fun hzero => absurd hzero hcalls,
    fun _ => ?_, h.earlier, fun i hi => ?_, hphased⟩
  · exact (HTTPFileDownloader.stepThread_statusCallback t response).trans (h.callback hcalls)
  · have hlast := h.last i hi
    rw [hthread] at hlast
    change c.answers i + _ = _
    dsimp only
    rw [hpending, ← Nat.add_assoc, hlast]
    simp

theorem Answering.runCommand (h : c.Answering) {command : StatusCommand} {rest : List StatusCommand}
    (hbuffer : c.downloader.commandBuffer = command :: rest) :
    Answering { c with
      downloader := { c.downloader with commandBuffer := rest }
      invoked := c.invoked ++ [(command.owner.serial, command.status)] } := by
  have hmem : command ∈ c.downloader.commandBuffer := hbuffer ▸ List.mem_cons_self
  have hcalls := h.calls_ne_zero (HTTPFileDownloader.busy_of_command hmem)
  have howner : command.owner.serial = c.calls - 1 := by
    have hqueued := h.single.queued command hmem
    rw [h.callback hcalls] at hqueued
    exact (congrArg SessionPtr.serial (Option.some.inj hqueued)).symm
  let c' : DownloadClient := { c with
    downloader := { c.downloader with commandBuffer := rest }
    invoked := c.invoked ++ [(command.owner.serial, command.status)] }
  have hanswers : ∀ i, c'.answers i =
      c.answers i + if command.owner.serial = i ∧ command.status.endsDownload = true then 1 else 0 := by
    intro i
    simp [c', answers, List.countP_append, List.countP_cons]
  have hpending : c.downloader.pending =
      c'.downloader.pending + if command.status.endsDownload = true then 1 else 0 := by
    simp [c', HTTPFileDownloader.pending, hbuffer, List.countP_cons]
  refine ⟨h.single.pop hbuffer, fun called hcalled => ?_, fun hzero => absurd hzero hcalls,
    h.callback, fun i hi => ?_, fun i hi => ?_, h.phased⟩
  · rcases List.mem_append.mp hcalled with hcalled | hcalled
    · exact h.bound called hcalled
    · rw [List.mem_singleton.mp hcalled]
      change command.owner.serial < c.calls
      omega
  · change i + 1 < c.calls at hi
    have hold := h.earlier i hi
    have hother : command.owner.serial ≠ i := by omega
    change c'.answers i = 1
    rw [hanswers, hold]
    simp [hother]
  · change i + 1 = c.calls at hi
    have hlast := h.last i hi
    have hown : command.owner.serial = i := by omega
    change c'.answers i + c'.downloader.pending = _
    rw [hpending] at hlast
    rw [hanswers, ← hlast]
    simp only [hown, true_and]
    omega

theorem Answering.step (h : c.Answering) {e : ClientEvent} (hok : c.Answers e)
    (hs : c.step bu e = .ok c') : c'.Answering := by
  cases e with
  | downloadFile url =>
    cases hs
    exact h.downloadFile hok.1 hok.2
  | move m =>
    cases hs
    cases hmove : c.downloader.move bu m with
    | mk x' callback =>
      rcases h.single.move_cases hmove with
        ⟨rfl, rfl⟩ | ⟨t, response, -, hthread, rfl, rfl⟩ | ⟨command, rest, hbuffer, rfl, rfl⟩
      · simpa using h
      · simpa using h.thread hthread response
      · exact h.runCommand hbuffer

/-- A malformed URL after an error is never answered. -/
theorem Answering.unanswered (h : c.Answering) {e : ClientEvent} (hseq : c.Sequential e)
    (hbreak : ¬ c.Answers e) (hs : c.step bu e = .ok c') : ¬ c'.Answered := by
  cases e with
  | move m => exact absurd ⟨hseq, trivial⟩ hbreak
  | downloadFile url =>
    cases hs
    have hbad : ¬ (passesRegex url = false → c.downloader.status ≠ .error) :=
      fun hurl => hbreak ⟨hseq, hurl⟩
    push Not at hbad
    obtain ⟨hregex, herror⟩ := hbad
    intro hanswered
    have hnone : c.answers c.calls = 0 := answers_of_bound h.bound
    have hone := hanswered c.calls (Nat.lt_succ_self _) (.inr ?_)
    · change c.answers c.calls = 1 at hone
      omega
    · rcases downloadFile_idle hseq url (DownloadClient.callback c.calls) with
        ⟨htrue, -⟩ | ⟨-, hthread, -, hbuffer⟩
      · rw [hregex] at htrue
        cases htrue
      · have hjoining := (HTTPFileDownloader.single_downloadFile hseq url
          (DownloadClient.callback c.calls)).joining
        rw [if_pos herror] at hbuffer
        exact HTTPFileDownloader.busy_eq_false.mpr ⟨hthread, hjoining, hbuffer⟩

/-- **One answer for each download.** In all states of a run in which the downloads come one after
the other, each that is over was answered with one end, if and only if no malformed URL came after
an error. -/
theorem downloads_answered_iff {es : List ClientEvent}
    (hrun : Machine.Run (step bu) Sequential create es c) :
    (∀ es₁ es₂ s, es = es₁ ++ es₂ → Machine.Run (step bu) Sequential create es₁ s → s.Answered) ↔
      Machine.Run (step bu) Answers create es c :=
  hrun.always_iff Answered Answering answering_create (fun _ _ _ h hok hs => h.step hok hs)
    (fun _ h => h.answered) fun _ _ _ h hseq hbreak hs => h.unanswered hseq hbreak hs

/-! ## Runs -/

/-- A malformed URL, and then a file. -/
def malformedFirst : List ClientEvent :=
  [.downloadFile "f", .move .runCommand, .downloadFile "http://host.com/f",
    .move (.thread .exception), .move (.thread (.reply 200 [])), .move (.thread (.reply 200 [97])),
    .move (.thread .exception), .move .runCommand, .move .runCommand]

theorem downloads_answered_iff_two : ∃ c : DownloadClient, c.Answered ∧
    c.invoked = [(0, .error), (1, .fileTransfer), (1, .fileReady)] := by
  obtain ⟨c, hrun, hinvoked⟩ := Machine.Run.exists_of_check (step tableByteUtils) Answers create
    malformedFirst invoked [(0, .error), (1, .fileTransfer), (1, .fileReady)] (by decide +kernel)
  have hsequential : Machine.Run (step tableByteUtils) Sequential create malformedFirst c :=
    hrun.mono fun _ _ hok => hok.1
  have hall := (downloads_answered_iff hsequential).mpr hrun
  exact ⟨c, hall _ [] c (List.append_nil _).symm hsequential, hinvoked⟩

/-- Two malformed URLs: the second call is not answered. -/
theorem second_unanswered : ∃ c : DownloadClient,
    Machine.Run (step tableByteUtils) Sequential create
      [.downloadFile "f", .move .runCommand, .downloadFile "f"] c ∧ ¬ c.Answered := by
  obtain ⟨c, hrun, hc⟩ := Machine.Run.exists_of_check (step tableByteUtils) Sequential create
    [.downloadFile "f", .move .runCommand, .downloadFile "f"]
    (fun c => (c.calls, c.downloader.busy, c.invoked)) (2, false, [(0, .error)]) (by decide +kernel)
  simp only [Prod.mk.injEq] at hc
  obtain ⟨hcalls, hbusy, hinvoked⟩ := hc
  refine ⟨c, hrun, fun h => ?_⟩
  have hone := h 1 (by omega) (.inr hbusy)
  rw [answers, hinvoked] at hone
  revert hone
  decide

end DownloadClient

end WolkConnect
