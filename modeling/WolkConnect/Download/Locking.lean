import WolkConnect.Download.Single
import WolkConnect.Lib.Locks

/-!
# The mutexes of the downloader

The methods of `HTTPFileDownloader.cpp` statement by statement, with the locks of
`m_mutex` and `m_sessionMutex`. Any number of threads call the downloader, and one of its
own runs `download`.
-/

namespace WolkConnect

open Locks (Instr)

inductive DownloaderMutex
  | mutex | sessionMutex
  deriving DecidableEq

inductive DownloaderThread
  | caller (i : Nat)
  | download
  deriving DecidableEq

inductive DownloaderFault
  /-- A thread object is replaced while its thread is joinable. -/
  | terminated
  /-- A request is sent over a session that was reset. -/
  | nullSession
  deriving DecidableEq

/-- The statements between the locks. `abort` is the number of the `abortDownload` that changes the
status, if it is one. -/
inductive DownloaderAction
  | setStatusCallback (url : String) (owner : SessionPtr)
  | checkUrl (url : String) (owner : SessionPtr)
  | joinThread
  | startThread (url : String) (owner : SessionPtr)
  | extract (url : String) (owner : SessionPtr)
  | openSession (session : HTTPClientSession) (url : String) (owner : SessionPtr)
  | exchange (url : String) (owner : SessionPtr)
  | decideName (url : String) (owner : SessionPtr)
  | changeStatus (abort : Option Nat) (owner : SessionPtr) (status : FileTransferStatus)
    (error : FileTransferError) (fileName : String)
  | checkSession
  | checkStatus
  | setAborted
  | resetSession
  deriving DecidableEq

/-- `joinable` is that of `m_thread`. `found` counts the calls of `abortDownload` that found a session
and a status to abort, and `announced` has the numbers of those that queued a command. -/
structure DownloaderMembers where
  downloader : HTTPFileDownloader
  joinable : Bool
  found : Nat
  announced : List Nat

abbrev DownloaderState :=
  Locks.State DownloaderThread DownloaderMutex DownloaderAction DownloaderMembers

abbrev DownloaderProgram := List (Instr DownloaderMutex DownloaderAction)

namespace DownloaderProgram

def changeStatus (abort : Option Nat) (owner : SessionPtr) (status : FileTransferStatus)
    (error : FileTransferError) (fileName : String) : DownloaderProgram :=
  [.lock .mutex, .act (.changeStatus abort owner status error fileName), .unlock .mutex]

def downloadFile (url : String) (owner : SessionPtr) : DownloaderProgram :=
  [.act (.setStatusCallback url owner), .act (.checkUrl url owner)]

def stop : DownloaderProgram :=
  [.lock .sessionMutex, .act .resetSession, .unlock .sessionMutex, .act .joinThread]

def abortDownload : DownloaderProgram := [.lock .sessionMutex, .act .checkSession]

/-- The branch of `abortDownload` for a download that goes on. -/
def abort (n : Nat) (owner : SessionPtr) : DownloaderProgram :=
  [.lock .mutex, .act .setAborted] ++ changeStatus (some n) owner .aborted .none "" ++
    [.unlock .mutex] ++ stop

/-- The handlers of exceptions, and a response that is not `HTTP_OK`. -/
def fail (owner : SessionPtr) : DownloaderProgram := changeStatus none owner .error .malformedUrl ""

def download (url : String) (owner : SessionPtr) : DownloaderProgram :=
  changeStatus none owner .fileTransfer .none "" ++ [.act (.extract url owner)]

end DownloaderProgram

open DownloaderProgram

/-- The status is one that `abortDownload` aborts. -/
def HTTPFileDownloader.aborts (x : HTTPFileDownloader) : Prop :=
  x.status = .awaitingDevice ∨ x.status = .fileTransfer

instance (x : HTTPFileDownloader) : Decidable x.aborts := inferInstanceAs (Decidable (_ ∨ _))

/-- `abortDownload` as one step gives nothing where it comes to `DownloaderProgram.abort` here. -/
theorem HTTPFileDownloader.abortDownload_eq_none {x : HTTPFileDownloader} :
    x.abortDownload = none ↔ x.session.isNone = false ∧ x.aborts := by
  unfold HTTPFileDownloader.abortDownload HTTPFileDownloader.aborts
  split_ifs with hsession haborts
  · simp [hsession]
  · simp [hsession, haborts]
  · simp [haborts]

namespace DownloaderState

variable (bu : ByteUtils)

/-- One statement. A thread object that is joined is not joinable any more. -/
def exec (s : DownloaderState) (_ : DownloaderThread) (response : Response) (a : DownloaderAction) :
    Except DownloaderFault
      (Option (Locks.Outcome DownloaderThread DownloaderMutex DownloaderAction DownloaderMembers)) :=
  let m := s.data
  let x := m.downloader
  let leaves (x : HTTPFileDownloader) (more : DownloaderProgram) :
      Except DownloaderFault (Option (Locks.Outcome DownloaderThread DownloaderMutex DownloaderAction
        DownloaderMembers)) := .ok (some ⟨{ m with downloader := x }, more, none⟩)
  match a with
  | .setStatusCallback url owner =>
    leaves { x with
      statusCallback := some owner, requested := x.requested ++ [(owner, url)] } []
  | .checkUrl url owner =>
    leaves x (if passesRegex url then [.act .joinThread, .act (.startThread url owner)] else fail owner)
  | .joinThread =>
    if m.joinable then
      if (s.program .download).isEmpty then .ok (some ⟨{ m with joinable := false }, [], none⟩)
      else .ok none
    else leaves x []
  | .startThread url owner =>
    if m.joinable then .error .terminated
    else .ok (some ⟨{ m with joinable := true }, [], some (.download, download url owner)⟩)
  | .extract url owner =>
    match extractPort url, response with
    | none, _ | _, .exception => leaves x (fail owner)
    | some port, .reply _ _ =>
      let secure := contains httpsPathPrefix url.toList
      let session := ⟨secure, extractHost url, if secure then 443 else port⟩
      leaves x [.lock .sessionMutex, .act (.openSession session url owner)]
  | .openSession session url owner =>
    match response with
    | .exception => leaves x ([.unlock .sessionMutex] ++ fail owner)
    | .reply _ _ =>
      leaves { x with session := some session }
        [.unlock .sessionMutex, .lock .sessionMutex, .act (.exchange url owner)]
  | .exchange url owner =>
    if x.session.isNone then .error .nullSession
    else
      match response with
      | .exception => leaves x ([.unlock .sessionMutex] ++ fail owner)
      | .reply status body =>
        if status = 200 then
          leaves { x with bytes := body } [.unlock .sessionMutex, .act (.decideName url owner)]
        else leaves x (fail owner ++ [.unlock .sessionMutex])
  | .decideName url owner =>
    leaves x (changeStatus none owner .fileReady .none (fileName bu url x.bytes))
  | .changeStatus abort owner status error fileName =>
    let x' := x.changeStatus owner status error fileName
    let queued := x.commandBuffer.length < x'.commandBuffer.length
    .ok (some ⟨{ m with
      downloader := x'
      announced := m.announced ++ if queued then abort.toList else [] }, [], none⟩)
  | .checkSession =>
    leaves x (if x.session.isNone then [.unlock .sessionMutex]
      else [.unlock .sessionMutex, .act .checkStatus])
  | .checkStatus =>
    if x.aborts then
      .ok (some ⟨{ m with found := m.found + 1 },
        DownloaderProgram.abort m.found (x.statusCallback.getD ⟨"", 0⟩), none⟩)
    else leaves x []
  | .setAborted => leaves { x with status := .aborted } []
  | .resetSession => leaves { x with session := none } []

/-- Calls of the two methods, and steps of the threads. A response is what an exchange comes to, if
the thread is at one. -/
inductive Event
  | downloadFile (i : Nat) (url : String) (owner : SessionPtr)
  | abortDownload (i : Nat)
  | run (t : DownloaderThread) (response : Response)

def Event.toLocks :
    Event → Locks.Event DownloaderThread DownloaderMutex DownloaderAction Response
  | .downloadFile i url owner => .call (.caller i) (DownloaderProgram.downloadFile url owner)
  | .abortDownload i => .call (.caller i) DownloaderProgram.abortDownload
  | .run t response => .run t response

def step (s : DownloaderState) (e : Event) : Except DownloaderFault DownloaderState :=
  Locks.step (exec bu) s e.toLocks

def create : DownloaderState where
  program _ := []
  owner _ := none
  data := ⟨.create, false, 0, []⟩

/-- No thread takes a step any more. -/
def Quiet (s : DownloaderState) : Prop := ∀ t response, step bu s (.run t response) = .ok s

/-- No thread waits for itself, and when all has come to rest, each `abortDownload` that found something
to abort has queued one command. -/
structure AbortsWell (s : DownloaderState) : Prop where
  unlocked : ¬ s.Relocks
  announced : Quiet bu s → ∀ n < s.data.found, s.data.announced.count n = 1

/-- No `abortDownload` that has found an open session finds a status to abort. -/
def FindsNothing (s : DownloaderState) : Event → Prop
  | .run t _ => (s.program t).head? = some (.act .checkStatus) → ¬ s.data.downloader.aborts
  | .downloadFile _ _ _ | .abortDownload _ => True

instance (s : DownloaderState) : (e : Event) → Decidable (FindsNothing s e)
  | .run _ _ => inferInstanceAs (Decidable (_ → _))
  | .downloadFile _ _ _ | .abortDownload _ => inferInstanceAs (Decidable True)

/-! ## The locks of the methods -/

section Clean

variable {bu} {s : DownloaderState} {t : DownloaderThread} {response : Response}
  {a : DownloaderAction} {held : DownloaderMutex → Bool} {rest : DownloaderProgram}
  {o : Locks.Outcome DownloaderThread DownloaderMutex DownloaderAction DownloaderMembers}
  {ok : DownloaderState → DownloaderAction → Prop} {waits : Prop}

/-- What `abortDownload` calls `changeStatus` for. -/
def announces : DownloaderAction → Prop
  | .changeStatus (some _) _ _ _ _ => True
  | _ => False

/-- What a statement does to the two counts, and that one statement only starts a thread. -/
structure Effects (s : DownloaderState) (a : DownloaderAction)
    (o : Locks.Outcome DownloaderThread DownloaderMutex DownloaderAction DownloaderMembers) :
    Prop where
  found : o.data.found = s.data.found ∨
    a = .checkStatus ∧ s.data.downloader.aborts ∧ o.data.found = s.data.found + 1
  announced : ¬ announces a → o.data.announced = s.data.announced
  spawned : ∀ {t' : DownloaderThread} {program : DownloaderProgram}, o.spawned = some (t', program) →
    ∃ url owner, a = .startThread url owner ∧ program = download url owner

theorem effects_leaves (x : HTTPFileDownloader) (more : DownloaderProgram) :
    Effects s a ⟨{ s.data with downloader := x }, more, none⟩ :=
  ⟨.inl rfl, fun _ => rfl, nofun⟩

theorem exec_effects (h : exec bu s t response a = .ok (some o)) : Effects s a o := by
  cases a with
  | changeStatus abort owner status error fileName =>
    cases h
    refine ⟨.inl rfl, fun hquiet => ?_, nofun⟩
    cases abort with
    | none => simp
    | some n => exact absurd trivial hquiet
  | startThread url owner =>
    unfold exec at h
    dsimp only at h
    split_ifs at h
    cases h
    refine ⟨.inl rfl, fun _ => rfl, fun hspawned => ?_⟩
    cases hspawned
    exact ⟨url, owner, rfl, rfl⟩
  | joinThread =>
    unfold exec at h
    dsimp only at h
    split_ifs at h <;> cases h <;> exact ⟨.inl rfl, fun _ => rfl, nofun⟩
  | checkStatus =>
    unfold exec at h
    dsimp only at h
    split_ifs at h with haborts
    · cases h
      exact ⟨.inr ⟨rfl, haborts, rfl⟩, fun _ => rfl, nofun⟩
    · cases h
      exact effects_leaves _ _
  | extract url owner | exchange url owner =>
    unfold exec at h
    dsimp only at h
    split_ifs at h <;> split at h <;> (try split_ifs at h) <;> cases h <;> exact effects_leaves _ _
  | openSession session url owner =>
    unfold exec at h
    dsimp only at h
    split at h <;> cases h <;> exact effects_leaves _ _
  | _ =>
    cases h
    exact effects_leaves _ _

/-- Programs that wait for themselves only if `waits`, and before an abort is announced. -/
abbrev Clean (bu : ByteUtils) (ok : DownloaderState → DownloaderAction → Prop) (waits : Prop) :=
  Locks.Clean (exec bu) ok (fun a => ¬ announces a) waits

abbrev free : DownloaderMutex → Bool := fun _ => false

theorem clean_unlock {m : DownloaderMutex} (hfree : held m = false)
    (hrest : Clean bu ok waits held rest) :
    Clean bu ok waits (Function.update held m true) (.unlock m :: rest) := by
  refine .unlock (Function.update_self ..) ?_
  rw [Function.update_idem, ← hfree, Function.update_eq_self]
  exact hrest

/-- A statement that starts no thread. -/
theorem clean_act (hquiet : ¬ announces a) (hstarts : ∀ url owner, a ≠ .startThread url owner)
    (hmore : ∀ s t response o, ok s a → exec bu s t response a = .ok (some o) →
      Clean bu ok waits held (o.more ++ rest)) : Clean bu ok waits held (.act a :: rest) := by
  refine .act hquiet hmore ?_
  intro s t response o t' program _ h hspawned
  obtain ⟨url, owner, heq, -⟩ := (exec_effects h).spawned hspawned
  exact absurd heq (hstarts url owner)

theorem clean_changeStatus {owner : SessionPtr} {status : FileTransferStatus}
    {error : FileTransferError} {fileName : String} (hfree : held .mutex = false)
    (hrest : Clean bu ok waits held rest) :
    Clean bu ok waits held (changeStatus none owner status error fileName ++ rest) := by
  refine .lock hfree (clean_act id (by simp) ?_)
  intro s t response o _ h
  cases h
  exact clean_unlock hfree hrest

theorem clean_fail {owner : SessionPtr} : Clean bu ok waits free (fail owner) :=
  clean_changeStatus rfl (.nil fun _ => rfl)

theorem clean_decideName {url : String} {owner : SessionPtr} :
    Clean bu ok waits free [.act (.decideName url owner)] := by
  refine clean_act id (by simp) ?_
  intro s t response o _ h
  cases h
  exact clean_changeStatus rfl (.nil fun _ => rfl)

theorem clean_exchange {url : String} {owner : SessionPtr} :
    Clean bu ok waits free [.lock .sessionMutex, .act (.exchange url owner)] := by
  refine .lock rfl (clean_act id (by simp) ?_)
  intro s t response o _ h
  unfold exec at h
  dsimp only at h
  split_ifs at h
  split at h
  · cases h
    exact clean_unlock rfl clean_fail
  · split_ifs at h
    · cases h
      exact clean_unlock rfl clean_decideName
    · -- `changeStatus` under `m_sessionMutex`
      cases h
      exact clean_changeStatus rfl (clean_unlock rfl (.nil fun _ => rfl))

theorem clean_download {url : String} {owner : SessionPtr} :
    Clean bu ok waits free (download url owner) := by
  refine clean_changeStatus rfl (clean_act id (by simp) ?_)
  intro s t response o _ h
  unfold exec at h
  dsimp only at h
  split at h
  · cases h
    exact clean_fail
  · cases h
    exact clean_fail
  · cases h
    refine .lock rfl (clean_act id (by simp) ?_)
    intro s t response o _ h
    unfold exec at h
    dsimp only at h
    split at h
    · cases h
      exact clean_unlock rfl clean_fail
    · cases h
      exact clean_unlock rfl clean_exchange

theorem clean_downloadFile {url : String} {owner : SessionPtr} :
    Clean bu ok waits free (DownloaderProgram.downloadFile url owner) := by
  refine clean_act id (by simp) ?_
  intro s t response o _ h
  cases h
  refine clean_act id (by simp) ?_
  intro s t response o _ h
  cases h
  split_ifs
  · refine clean_act id (by simp) ?_
    intro s t response o _ h
    have hmore : o.more = [] := by
      unfold exec at h
      dsimp only at h
      split_ifs at h <;> cases h <;> rfl
    rw [hmore]
    refine .act id ?_ ?_
    · intro s t response o _ h
      unfold exec at h
      dsimp only at h
      split_ifs at h
      cases h
      exact .nil fun _ => rfl
    · intro s t response o t' program _ h hspawned
      obtain ⟨_, _, -, rfl⟩ := (exec_effects h).spawned hspawned
      exact clean_download
  · exact clean_fail

/-- `changeStatus` waits for the mutex that `abortDownload` holds. -/
theorem clean_abort (hwaits : waits) {n : Nat} {owner : SessionPtr} :
    Clean bu ok waits free (DownloaderProgram.abort n owner) := by
  refine .lock rfl (clean_act id (by simp) ?_)
  intro s t response o _ h
  cases h
  exact .wait hwaits (Function.update_self ..)

theorem clean_abortDownload (hfinds : ∀ s, ok s .checkStatus → s.data.downloader.aborts → waits) :
    Clean bu ok waits free DownloaderProgram.abortDownload := by
  refine .lock rfl (clean_act id (by simp) ?_)
  intro s t response o _ h
  cases h
  split_ifs
  · exact clean_unlock rfl (.nil fun _ => rfl)
  · refine clean_unlock rfl (clean_act id (by simp) ?_)
    intro s t response o hok h
    unfold exec at h
    dsimp only at h
    split_ifs at h with haborts
    · cases h
      exact clean_abort (hfinds s hok haborts)
    · cases h
      exact .nil fun _ => rfl

end Clean

/-! ## Runs -/

section Runs

variable {bu} {s s' : DownloaderState} {e : Event} {t : DownloaderThread} {response : Response}
  {a : DownloaderAction}
  {o : Locks.Outcome DownloaderThread DownloaderMutex DownloaderAction DownloaderMembers}
  {ok : DownloaderState → DownloaderAction → Prop} {waits : Prop} {es : List Event}

/-- `Clean` programs of all threads. -/
abbrev Disciplined (bu : ByteUtils) (ok : DownloaderState → DownloaderAction → Prop) (waits : Prop) :=
  Locks.Disciplined (exec bu) ok (fun a => ¬ announces a) waits

theorem create_disciplined : Disciplined bu ok waits create := fun _ => .nil fun _ => rfl

theorem step_found (hs : step bu s e = .ok s') (hok : FindsNothing s e) :
    s'.data.found = s.data.found := by
  rcases Locks.step_data hs with hdata | ⟨t, response, a, rest, o, he, hprogram, ho, hdata⟩
  · rw [hdata]
  · rw [hdata]
    cases e with
    | run t' response' =>
      cases he
      rcases (exec_effects ho).found with hsame | ⟨rfl, haborts, -⟩
      · exact hsame
      · exact absurd haborts (hok (by rw [hprogram]; rfl))
    | downloadFile | abortDownload => cases he

theorem found_le (hs : step bu s e = .ok s') : s.data.found ≤ s'.data.found := by
  rcases Locks.step_data hs with hdata | ⟨t, response, a, rest, o, -, -, ho, hdata⟩
  · rw [hdata]
  · rw [hdata]
    rcases (exec_effects ho).found with hsame | ⟨-, -, hnext⟩
    · exact hsame.ge
    · exact hnext ▸ Nat.le_succ _

theorem step_finds (hs : step bu s e = .ok s') (hok : ¬ FindsNothing s e) :
    0 < s'.data.found := by
  cases e with
  | run t response =>
    obtain ⟨hhead, haborts⟩ := Classical.not_imp.mp hok
    obtain ⟨rest, hprogram⟩ := List.head?_eq_some_iff.mp hhead
    have haborts := Classical.not_not.mp haborts
    simp only [step, Event.toLocks, Locks.step, hprogram] at hs
    unfold exec at hs
    dsimp only at hs
    rw [if_pos haborts] at hs
    cases hs
    exact Nat.succ_pos _
  | downloadFile | abortDownload => exact absurd trivial hok

theorem Disciplined.step (h : Disciplined bu ok waits s)
    (hfinds : ∀ s, ok s .checkStatus → s.data.downloader.aborts → waits)
    (hok : ∀ t response a rest, e = .run t response → s.program t = .act a :: rest → ok s a)
    (hs : step bu s e = .ok s') : Disciplined bu ok waits s' := by
  refine Locks.Disciplined.step h ?_ hs
  cases e with
  | downloadFile => exact clean_downloadFile
  | abortDownload => exact clean_abortDownload hfinds
  | run t response => exact fun a rest hprogram => hok t response a rest rfl hprogram

/-- The actions that are taken when no `abortDownload` finds anything. -/
def Idle (s : DownloaderState) (a : DownloaderAction) : Prop :=
  a = .checkStatus → ¬ s.data.downloader.aborts

/-- As long as no `abortDownload` finds anything, no thread waits for itself. -/
theorem run_idle (h : Machine.Run (step bu) FindsNothing create es s) :
    Disciplined bu Idle False s ∧ s.data.found = 0 := by
  refine h.invariant (fun s => Disciplined bu Idle False s ∧ s.data.found = 0)
    ⟨create_disciplined, rfl⟩ ?_
  intro s e s' ⟨hdisciplined, hfound⟩ hok hs
  refine ⟨hdisciplined.step (fun s hidle haborts => hidle rfl haborts) ?_ hs, ?_⟩
  · rintro t response a rest rfl hprogram rfl
    exact hok (by rw [hprogram]; rfl)
  · rw [step_found hs hok, hfound]

/-- No `abortDownload` comes to announcing anything. -/
theorem run_announced (h : Machine.Run (step bu) (fun _ _ => True) create es s) :
    s.data.announced = [] := by
  have hinv := h.invariant
    (fun s => Disciplined bu (fun _ _ => True) True s ∧ s.data.announced = [])
    ⟨create_disciplined, rfl⟩ ?_
  · exact hinv.2
  intro s e s' ⟨hdisciplined, hannounced⟩ _ hs
  refine ⟨hdisciplined.step (fun _ _ _ => trivial) (fun _ _ _ _ _ _ => trivial) hs, ?_⟩
  rcases Locks.step_data hs with hdata | ⟨t, response, a, rest, o, -, hprogram, ho, hdata⟩
  · rw [hdata, hannounced]
  · rw [hdata, (exec_effects ho).announced (hdisciplined.may_act hprogram), hannounced]

/-- **No thread of the downloader waits for itself, and every abort is announced**, in the runs in which
no `abortDownload` finds anything to abort, and of those that come to rest in no others. -/
theorem aborts_well_iff (h : Machine.Run (step bu) (fun _ _ => True) create es s) :
    (Machine.Run (step bu) FindsNothing create es s → AbortsWell bu s) ∧
      (Quiet bu s → (AbortsWell bu s ↔ Machine.Run (step bu) FindsNothing create es s)) := by
  have hgood : Machine.Run (step bu) FindsNothing create es s → AbortsWell bu s := by
    intro hrun
    obtain ⟨hdisciplined, hfound⟩ := run_idle hrun
    refine ⟨hdisciplined.not_relocks id, fun _ n hn => ?_⟩
    rw [hfound] at hn
    exact absurd hn (Nat.not_lt_zero n)
  refine ⟨hgood, fun hquiet => ⟨fun hwell => ?_, hgood⟩⟩
  rcases h.meets_or_bad (fun _ => True) (fun s => 0 < s.data.found) trivial
    (fun _ _ _ _ _ _ => trivial) (fun _ _ _ _ _ hok hs => step_finds hs hok)
    (fun _ _ _ hfound _ hs => hfound.trans_le (found_le hs)) with ⟨hrun, -⟩ | hfound
  · exact hrun
  · have hcount := hwell.announced hquiet 0 hfound
    rw [run_announced h] at hcount
    cases hcount

/-- A call of `downloadFile`, and the thread up to the opened session. -/
def opening : List Event :=
  .downloadFile 0 "http://host.com/f" ⟨"d", 0⟩ ::
    List.replicate 4 (.run (.caller 0) .exception) ++ List.replicate 7 (.run .download (.reply 200 [97]))

/-- An abort after the download. -/
def late : List Event :=
  opening ++ List.replicate 7 (.run .download (.reply 200 [97])) ++
    .abortDownload 1 :: List.replicate 4 (.run (.caller 1) .exception)

/-- An abort of the download. -/
def aborting : List Event :=
  opening ++ .abortDownload 1 :: List.replicate 6 (.run (.caller 1) .exception)

theorem aborts_well_iff_late : ∃ s, AbortsWell tableByteUtils s ∧
    (s.data.downloader.session.isSome, s.data.downloader.status) = (true, .fileReady) := by
  obtain ⟨s, hrun, hs⟩ := Machine.Run.exists_of_check (step tableByteUtils) FindsNothing create late
    (fun s => (s.data.downloader.session.isSome, s.data.downloader.status)) (true, .fileReady)
    (by decide +kernel)
  exact ⟨s, (aborts_well_iff (hrun.mono fun _ _ _ => trivial)).1 hrun, hs⟩

/-- `abortDownload` waits for the mutex that it holds, with nothing announced. -/
theorem abort_relocks : ∃ s,
    Machine.Run (step tableByteUtils) (fun _ _ => True) create aborting s ∧
      ¬ AbortsWell tableByteUtils s ∧ s.data.found = 1 ∧ s.data.announced = [] := by
  obtain ⟨s, hrun, hs⟩ := Machine.Run.exists_of_check (step tableByteUtils) (fun _ _ => True) create
    aborting (fun s => ((s.program (.caller 1)).head?, s.owner .mutex, s.data.found, s.data.announced))
    (some (.lock .mutex), some (.caller 1), 1, []) (by decide +kernel)
  simp only [Prod.mk.injEq] at hs
  obtain ⟨hhead, howner, hfound, hannounced⟩ := hs
  obtain ⟨rest, hprogram⟩ := List.head?_eq_some_iff.mp hhead
  exact ⟨s, hrun, fun hwell => hwell.unlocked ⟨_, _, rest, hprogram, howner⟩, hfound, hannounced⟩

end Runs

end DownloaderState

end WolkConnect
