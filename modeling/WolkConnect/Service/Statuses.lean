import WolkConnect.Service.Keyed
import WolkConnect.Service.Listing
import WolkConnect.Service.Reports
import WolkConnect.Session.Ending

/-!
# The statuses of a session

The platform is told of a transfer that starts, and then of its end. Statuses are
published when a transfer starts, by the queued commands, and when a file is not stored.
-/

namespace WolkConnect

open FileTransferSession (Kept Regular Advances)

/-- One `FILE_TRANSFER`, then at most one terminal status. -/
def StatusProtocol (statuses : List FileTransferStatus) : Prop :=
  statuses = [.fileTransfer] ∨ ∃ status, status.isTerminal = true ∧ statuses = [.fileTransfer, status]

/-! ## The condition -/

section Orderly

variable {δ μ φ : Type} (ctx : Context δ μ φ)

/-- The file of the session can be written. -/
def FileManagementService.canStore (svc : FileManagementService δ φ) (s : FileTransferSession) :
    Bool :=
  match svc.collectBytes ctx s with
  | .ok bytes => (svc.placeFile ctx s bytes).1
  | .error _ => true

/-- Every `FILE_TRANSFER` serialises. A session that has ended is not ended again: not by an abort, and
not by the downloader. A status command waits for the report of its device, and the file of a
`FILE_READY` can be written. -/
def System.Orderly (sys : System δ φ) : Event μ → Prop
  | .receive d m past => sys.hears (Event.receive (μ := μ) d m past) = true →
    (∀ s ∈ sys.svc.session? d, s.abortedBy m = true → s.Settles .aborted .none) ∧
    match m with
    | .fileUploadInit init =>
      ctx.makeOutboundMessage d (.fileUploadStatus init.name .fileTransfer .none) = true
    | _ => True
  | .report => sys.triggered ctx = true → ∀ d ∈ sys.reporting, ∀ s ∈ sys.svc.session? d,
      ctx.makeOutboundMessage d (FileManagementService.statusMessage s .fileTransfer .none) = true
  | .runCommand =>
    (match sys.svc.commandBuffer with
      | .sessionStatus p _ :: _ => sys.reporting ≠ some p.deviceKey
      | _ => True) ∧
    ∀ s ∈ sys.svc.nextStored, sys.svc.canStore ctx s = true
  | .downloader move => ∀ x ∈ sys.svc.downloader, ∀ callback ∈ (ctx.downloads.move x move).2,
      ∀ s ∈ sys.svc.session? callback.target.deviceKey,
        s.url ≠ "" ∧ s.Settles callback.status callback.error

instance (sys : System δ φ) : (e : Event μ) → Decidable (sys.Orderly ctx e)
  | .receive _ (.fileUploadInit _) _ => inferInstanceAs (Decidable (_ → (∀ _ ∈ _, _ → _) ∧ _ = true))
  | .receive _ (.fileUploadAbort _) _ | .receive _ (.fileBinaryResponse _) _
  | .receive _ (.fileUrlDownloadInit _) _ | .receive _ (.fileUrlDownloadAbort _) _
  | .receive _ .fileListRequest _ | .receive _ (.fileDelete _) _ | .receive _ .filePurge _
  | .receive _ .invalid _ => inferInstanceAs (Decidable (_ → (∀ _ ∈ _, _ → _) ∧ True))
  | .report => inferInstanceAs (Decidable (_ → ∀ _ ∈ _, ∀ _ ∈ _, _))
  | .runCommand =>
    have : Decidable (match sys.svc.commandBuffer with
        | .sessionStatus p _ :: _ => sys.reporting ≠ some p.deviceKey
        | _ => True) :=
      match sys.svc.commandBuffer with
      | .sessionStatus _ _ :: _ => inferInstanceAs (Decidable (_ ≠ _))
      | [] | .resetSession _ _ :: _ | .onAddedFile _ _ _ :: _ | .onRemovedFile _ _ :: _ => isTrue trivial
    inferInstanceAs (Decidable (_ ∧ ∀ _ ∈ _, _))
  | .downloader _ => inferInstanceAs (Decidable (∀ _ ∈ _, ∀ _ ∈ _, ∀ _ ∈ _, _ ∧ _))

end Orderly

/-! ## The invariant -/

/-- The announcement of the session that the command makes. -/
def Command.announcementOf (p : SessionPtr) : Command → Option Announcement
  | .sessionStatus q a => if q = p then some a else none
  | .resetSession _ _ | .onAddedFile _ _ _ | .onRemovedFile _ _ => none

/-- The announcements of a session that are queued. -/
def Core.pending {δ : Type} (c : Core δ) (p : SessionPtr) : List Announcement :=
  c.queue.filterMap (Command.announcementOf p)

def Core.Stored {δ : Type} (c : Core δ) (p : SessionPtr) : Prop :=
  ∃ s path bytes, Effect.stored s path bytes true ∈ c.log ∧ s.ptr = p

/-- The end of a session is queued once, and told once. -/
inductive Progress (pending : List Announcement) (told : List FileTransferStatus) :
    FileTransferStatus → Prop
  | running : pending = [] → told = [] ∨ told = [.fileTransfer] → Progress pending told .fileTransfer
  | ending {a : Announcement} {status : FileTransferStatus} : status ≠ .fileTransfer →
      a.status.isTerminal = true → pending = [a] → told = [] ∨ told = [.fileTransfer] →
      Progress pending told status
  | ended {status : FileTransferStatus} : status ≠ .fileTransfer → pending = [] →
      Progress pending told status

theorem Progress.opened {pending : List Announcement} {status : FileTransferStatus}
    (h : Progress pending [] status) : Progress pending [.fileTransfer] status := by
  cases h with
  | running hpending => exact .running hpending (Or.inr rfl)
  | ending hne hterminal hpending => exact .ending hne hterminal hpending (Or.inr rfl)
  | ended hne hpending => exact .ended hne hpending

/-- `told` are the statuses that have been published for each session. -/
structure Telling {δ : Type} (x : Scene δ) (told : SessionPtr → List FileTransferStatus) : Prop
    extends x.core.Keyed where
  unborn : ∀ p, x.core.created ≤ p.serial → told p = []
  shape : ∀ p, told p = [] ∨ StatusProtocol (told p)
  regular : ∀ d s, x.core.session d = some s → s.Regular
  progress : ∀ d s, x.core.session d = some s →
    Progress (x.core.pending s.ptr) (told s.ptr) s.status
  opened : ∀ d s, x.core.session d = some s → (told s.ptr = [] ↔ x.reporting = some d)
  ready : ∀ p, .fileReady ∈ told p → x.core.Stored p

section Telling

variable {δ μ φ : Type} {ctx : Context δ μ φ} {c c' : Core δ} {d : String} {s : FileTransferSession}
  {r : FileTransferSession × List Announcement} {reporting : Option String} {p : SessionPtr}
  {told told' : SessionPtr → List FileTransferStatus}

theorem pending_put (c : Core δ) (d : String) (r : FileTransferSession × List Announcement)
    (p : SessionPtr) : (c.put d r).pending p = c.pending p ++ if r.1.ptr = p then r.2 else [] := by
  unfold Core.pending Core.put
  rw [List.filterMap_append, List.filterMap_map]
  congr 1
  split_ifs with hp
  · have hsome : (Command.announcementOf p ∘ Command.sessionStatus r.1.ptr) = some := by
      funext a
      exact if_pos hp
    rw [hsome, List.filterMap_some]
  · have hnone : (Command.announcementOf p ∘ Command.sessionStatus r.1.ptr) = fun _ => none := by
      funext a
      exact if_neg hp
    rw [hnone, List.filterMap_none]

theorem pending_push_deletion (c : Core δ) (p q : SessionPtr) (status : FileTransferStatus) :
    (c.push (deletion p status)).pending q = c.pending q := by
  unfold Core.pending Core.push
  have hnone : (deletion p status).filterMap (Command.announcementOf q) = [] := by
    rw [List.filterMap_eq_nil_iff]
    intro command hmem
    rw [mem_deletion hmem]
    rfl
  rw [List.filterMap_append, hnone, List.append_nil]

theorem pending_cons {command : Command} {rest : List Command} (h : c.queue = command :: rest)
    (p : SessionPtr) : c.pending p = (command.announcementOf p).toList ++
      ({ c with queue := rest } : Core δ).pending p := by
  unfold Core.pending
  rw [h, List.filterMap_cons]
  cases command.announcementOf p <;> rfl

theorem pending_of_unborn (h : c.Keyed) (hp : c.created ≤ p.serial) : c.pending p = [] := by
  unfold Core.pending
  rw [List.filterMap_eq_nil_iff]
  intro command hmem
  cases command with
  | sessionStatus q a =>
    refine if_neg ?_
    rintro rfl
    have hborn := h.status q a hmem
    omega
  | _ => rfl

theorem Core.Stored.mono (h : c.Stored p) (hlog : ∀ e ∈ c.log, e ∈ c'.log) : c'.Stored p := by
  obtain ⟨s, path, bytes, hmem, hptr⟩ := h
  exact ⟨s, path, bytes, hlog _ hmem, hptr⟩

/-- Sessions may go, and what is queued for them stays. -/
theorem Telling.le (h : Telling ⟨c, reporting⟩ told) (hkeyed : c'.Keyed)
    (hcreated : c'.created = c.created)
    (hsession : ∀ d s, c'.session d = some s → c.session d = some s)
    (hpending : ∀ p, c'.pending p = c.pending p) (hlog : ∀ e ∈ c.log, e ∈ c'.log) :
    Telling ⟨c', reporting⟩ told where
  toKeyed := hkeyed
  unborn p hp := h.unborn p (hcreated ▸ hp)
  shape := h.shape
  regular d s hs := h.regular d s (hsession d s hs)
  progress d s hs := by
    rw [show (Scene.mk c' reporting).core = c' from rfl, hpending]
    exact h.progress d s (hsession d s hs)
  opened d s hs := h.opened d s (hsession d s hs)
  ready p hp := (h.ready p hp).mono hlog

/-- A session that starts. Nothing is told of it, and its report is to come, or its start is told. -/
theorem Telling.start (h : Telling ⟨c, none⟩ told) (hserial : s.serial = c.created)
    (hregular : s.Regular) (hstatus : s.status = .fileTransfer) {first : List FileTransferStatus}
    (hfirst : first = [] ∧ reporting = some s.deviceKey ∨ first = [.fileTransfer] ∧ reporting = none)
    (htold : ∀ p, told' p = told p ++ if s.ptr = p then first else []) :
    Telling ⟨c.start s, reporting⟩ told' := by
  have hunborn : told s.ptr = [] := h.unborn s.ptr (Nat.le_of_eq hserial.symm)
  have hown : told' s.ptr = first := by
    rw [htold, hunborn, if_pos rfl, List.nil_append]
  have hother : ∀ p, s.ptr ≠ p → told' p = told p := by
    intro p hp
    rw [htold, if_neg hp, List.append_nil]
  have hpending : ∀ p, (c.start s).pending p = c.pending p := fun _ => rfl
  have hlive : ∀ d t, (c.start s).session d = some t →
      (d = s.deviceKey ∧ t = s) ∨ (d ≠ s.deviceKey ∧ c.session d = some t ∧ s.ptr ≠ t.ptr) := by
    intro d t ht
    refine (Core.session_of_start ht).imp id fun ⟨hd, ht⟩ => ⟨hd, ht, fun hptr => ?_⟩
    have hborn := h.toKeyed.fresh d t ht
    have hsame : s.serial = t.serial := congrArg SessionPtr.serial hptr
    dsimp only at hborn
    omega
  refine ⟨h.toKeyed.start hserial, fun p hp => ?_, fun p => ?_, fun d t ht => ?_, fun d t ht => ?_,
    fun d t ht => ?_, fun p hp => ?_⟩
  · have hne : s.ptr ≠ p := by
      rintro rfl
      have hlater : c.created + 1 ≤ s.serial := hp
      omega
    rw [hother p hne]
    exact h.unborn p (Nat.le_of_succ_le hp)
  · by_cases hp : s.ptr = p
    · rw [← hp, hown]
      rcases hfirst with ⟨rfl, -⟩ | ⟨rfl, -⟩
      · exact Or.inl rfl
      · exact Or.inr (Or.inl rfl)
    · rw [hother p hp]
      exact h.shape p
  · rcases hlive d t ht with ⟨-, rfl⟩ | ⟨-, ht, -⟩
    · exact hregular
    · exact h.regular d t ht
  · rcases hlive d t ht with ⟨-, rfl⟩ | ⟨-, ht, hne⟩
    · rw [hown, hstatus]
      refine .running ?_ ?_
      · exact (hpending _).trans (pending_of_unborn h.toKeyed (Nat.le_of_eq hserial.symm))
      · exact hfirst.imp And.left And.left
    · rw [hother _ hne]
      exact h.progress d t ht
  · rcases hlive d t ht with ⟨rfl, rfl⟩ | ⟨hd, ht, hne⟩
    · rw [hown]
      rcases hfirst with ⟨rfl, rfl⟩ | ⟨rfl, rfl⟩
      · exact iff_of_true rfl rfl
      · exact iff_of_false (List.cons_ne_nil _ _) (Option.some_ne_none _).symm
    · rw [hother _ hne, h.opened d t ht]
      refine iff_of_false (Option.some_ne_none _).symm ?_
      rcases hfirst with ⟨-, rfl⟩ | ⟨-, rfl⟩
      · exact fun heq => hd (Option.some.inj heq).symm
      · exact (Option.some_ne_none _).symm
  · have hold : .fileReady ∈ told p := by
      by_cases hne : s.ptr = p
      · rw [← hne, hown] at hp
        rcases hfirst with ⟨rfl, -⟩ | ⟨rfl, -⟩
        · exact absurd hp List.not_mem_nil
        · exact absurd (List.mem_singleton.mp hp) FileTransferStatus.noConfusion
      · rwa [hother p hne] at hp
    exact h.ready p hold

/-- A call of a method of a session. -/
theorem Telling.put (h : Telling ⟨c, reporting⟩ told) (hs : c.session d = some s) (hr : s.Kept r)
    (hadvances : s.Advances r) (hregular : r.1.Regular) :
    Telling ⟨c.put d r, reporting⟩ told := by
  have hptr := hr.ptr
  have hlive : ∀ d' t, (c.put d r).session d' = some t →
      (d' = d ∧ t = r.1) ∨ (c.session d' = some t ∧ r.1.ptr ≠ t.ptr) := by
    intro d' t ht
    refine (Core.session_of_put ht).imp id fun ⟨hd, ht⟩ => ⟨ht, fun heq => ?_⟩
    exact hd (h.toKeyed.ptr_inj ht hs (heq.symm.trans hptr))
  refine ⟨h.toKeyed.put hs hr, h.unborn, h.shape, fun d' t ht => ?_, fun d' t ht => ?_,
    fun d' t ht => ?_, h.ready⟩
  · rcases hlive d' t ht with ⟨-, rfl⟩ | ⟨ht, -⟩
    · exact hregular
    · exact h.regular d' t ht
  · rcases hlive d' t ht with ⟨-, rfl⟩ | ⟨ht, hne⟩
    · have hprogress := h.progress d s hs
      change Progress ((c.put d r).pending r.1.ptr) (told r.1.ptr) r.1.status
      rw [pending_put, if_pos rfl, hptr]
      cases hadvances with
      | same hstatus hqueued =>
        rw [hqueued, List.append_nil, hstatus]
        exact hprogress
      | ends hongoing hterminal hstatus hqueued =>
        rw [hongoing] at hprogress
        rw [hqueued, hstatus]
        cases hprogress with
        | running hpending htold =>
          refine .ending (FileTransferSession.isTerminal_ne hterminal) hterminal ?_ htold
          exact congrArg (fun l => l ++ _) hpending
        | ending hne => exact absurd rfl hne
        | ended hne => exact absurd rfl hne
    · change Progress ((c.put d r).pending t.ptr) (told t.ptr) t.status
      rw [pending_put, if_neg hne, List.append_nil]
      exact h.progress d' t ht
  · rcases hlive d' t ht with ⟨rfl, rfl⟩ | ⟨ht, -⟩
    · rw [hptr]
      exact h.opened d' s hs
    · exact h.opened d' t ht

/-- The end of `onFileUrlDownloadInit`. -/
theorem Telling.report (h : Telling ⟨c, some d⟩ told) (hs : c.session d = some s)
    (htold : ∀ p, told' p = told p ++ if s.ptr = p then [.fileTransfer] else []) :
    Telling ⟨c, none⟩ told' := by
  have hnone : told s.ptr = [] := (h.opened d s hs).mpr rfl
  have hown : told' s.ptr = [.fileTransfer] := by
    rw [htold, hnone, if_pos rfl, List.nil_append]
  have hother : ∀ p, s.ptr ≠ p → told' p = told p := by
    intro p hp
    rw [htold, if_neg hp, List.append_nil]
  refine ⟨h.toKeyed, fun p hp => ?_, fun p => ?_, h.regular, fun d' t ht => ?_, fun d' t ht => ?_,
    fun p hp => ?_⟩
  · have hborn := h.toKeyed.fresh d s hs
    have hne : s.ptr ≠ p := by
      rintro rfl
      exact absurd hborn (Nat.not_lt.mpr hp)
    rw [hother p hne]
    exact h.unborn p hp
  · by_cases hp : s.ptr = p
    · rw [← hp, hown]
      exact Or.inr (Or.inl rfl)
    · rw [hother p hp]
      exact h.shape p
  · by_cases hp : s.ptr = t.ptr
    · have hprogress := h.progress d' t ht
      rw [← hp, hown]
      rw [← hp, hnone] at hprogress
      exact hprogress.opened
    · rw [hother _ hp]
      exact h.progress d' t ht
  · refine iff_of_false ?_ (Option.some_ne_none _).symm
    by_cases hp : s.ptr = t.ptr
    · rw [← hp, hown]
      exact List.cons_ne_nil _ _
    · rw [hother _ hp, h.opened d' t ht]
      intro heq
      rw [← Option.some.inj heq] at ht
      exact hp (congrArg FileTransferSession.ptr (Option.some.inj (hs.symm.trans ht)))
  · have hold : .fileReady ∈ told p := by
      by_cases hne : s.ptr = p
      · rw [← hne, hown] at hp
        exact absurd (List.mem_singleton.mp hp) FileTransferStatus.noConfusion
      · rwa [hother p hne] at hp
    exact h.ready p hold

theorem Telling.unreported (h : Telling ⟨c, some d⟩ told) (hnone : c.session d = none) :
    Telling ⟨c, none⟩ told := by
  refine ⟨h.toKeyed, h.unborn, h.shape, h.regular, h.progress, fun d' t ht => ?_, h.ready⟩
  rw [h.opened d' t ht]
  refine iff_of_false (fun heq => ?_) (Option.some_ne_none _).symm
  rw [← Option.some.inj heq] at ht
  exact Option.some_ne_none t (ht.symm.trans hnone)

/-- The announcement that is told is the end of its session. -/
theorem Telling.runStatus (h : Telling ⟨c, reporting⟩ told) {a : Announcement} {rest : List Command}
    {effects : List Effect} {said : List FileTransferStatus}
    (hq : c.queue = .sessionStatus p a :: rest) (hs : c.session p.deviceKey = some s)
    (hserial : s.serial = p.serial) (hreporting : reporting ≠ some p.deviceKey)
    (hsaid : said = [] ∨ said = [a.status])
    (hstored : a.status = .fileReady → ∃ s path bytes,
      Effect.stored s path bytes true ∈ effects ∧ s.ptr = p)
    (htold : ∀ q, told' q = told q ++ if p = q then said else []) :
    Telling ⟨({ c with queue := rest }.push (deletion p a.status)).record effects, reporting⟩ told' := by
  have hptr := h.toKeyed.ptr_eq hs hserial
  have hborn : p.serial < c.created := h.toKeyed.status p a (hq ▸ List.mem_cons_self)
  have hpending : ∀ q, (({ c with queue := rest }.push (deletion p a.status)).record effects).pending q =
      ({ c with queue := rest } : Core δ).pending q := fun q => pending_push_deletion _ p q a.status
  have hown : c.pending p = a :: ({ c with queue := rest } : Core δ).pending p := by
    rw [pending_cons hq, Command.announcementOf, if_pos rfl]
    rfl
  have hother : ∀ q, p ≠ q → c.pending q = ({ c with queue := rest } : Core δ).pending q := by
    intro q hne
    rw [pending_cons hq, Command.announcementOf, if_neg hne]
    rfl
  have hlater : ∀ q, p ≠ q → told' q = told q := by
    intro q hne
    rw [htold, if_neg hne, List.append_nil]
  -- Only the session whose announcement is the only one queued can be the one that runs.
  have hprogress := h.progress _ s hs
  obtain ⟨hended, hterminal, hrest, hbefore⟩ : s.status ≠ .fileTransfer ∧ a.status.isTerminal = true ∧
      ({ c with queue := rest } : Core δ).pending p = [] ∧ told p = [.fileTransfer] := by
    have hopened : told p ≠ [] := fun hnil => hreporting ((h.opened _ s hs).mp (hptr ▸ hnil))
    rw [hptr, show (Scene.mk c reporting).core = c from rfl, hown] at hprogress
    generalize s.status = status at hprogress
    cases hprogress with
    | running hnil => exact absurd hnil (List.cons_ne_nil _ _)
    | ending hne hterminal hsingle htold =>
      obtain ⟨rfl, hnil⟩ := List.cons.inj hsingle
      exact ⟨hne, hterminal, hnil, htold.resolve_left hopened⟩
    | ended hne hnil => exact absurd hnil (List.cons_ne_nil _ _)
  have hafter : told' p = [.fileTransfer] ++ said := by
    rw [htold, if_pos rfl, hbefore]
  refine ⟨((h.toKeyed.pop hq).push_deletion hborn _).record _, fun q hq' => ?_, fun q => ?_, h.regular,
    fun d t ht => ?_, fun d t ht => ?_, fun q hready => ?_⟩
  · have hne : p ≠ q := by
      rintro rfl
      exact absurd hborn (Nat.not_lt.mpr hq')
    rw [hlater q hne]
    exact h.unborn q hq'
  · by_cases hne : p = q
    · rw [← hne, hafter]
      rcases hsaid with rfl | rfl
      · exact Or.inr (Or.inl rfl)
      · exact Or.inr (Or.inr ⟨a.status, hterminal, rfl⟩)
    · rw [hlater q hne]
      exact h.shape q
  · change Progress ((({ c with queue := rest }.push (deletion p a.status)).record effects).pending
      t.ptr) (told' t.ptr) t.status
    rw [hpending]
    by_cases hne : p = t.ptr
    · have heq : d = p.deviceKey := h.toKeyed.ptr_inj ht hs (hne.symm.trans hptr.symm)
      rw [heq] at ht
      have hsame : t = s := Option.some.inj (ht.symm.trans hs)
      rw [← hne, hrest, hsame]
      exact .ended hended rfl
    · rw [hlater _ hne, ← hother _ hne]
      exact h.progress d t ht
  · by_cases hne : p = t.ptr
    · rw [← hne, hafter]
      refine iff_of_false (List.cons_ne_nil _ _) fun heq => hreporting ?_
      have hsame : d = p.deviceKey := h.toKeyed.ptr_inj ht hs (hne.symm.trans hptr.symm)
      rw [← hsame]
      exact heq
    · rw [hlater _ hne]
      exact h.opened d t ht
  · by_cases hne : p = q
    · rw [← hne, hafter] at hready
      rcases hsaid with rfl | rfl
      · exact absurd (List.mem_singleton.mp hready) FileTransferStatus.noConfusion
      · have hlast : a.status = .fileReady := by
          rcases List.mem_cons.mp hready with hfirst | hlast
          · cases hfirst
          · exact (List.mem_singleton.mp hlast).symm
        obtain ⟨t, path, bytes, hmem, ht⟩ := hstored hlast
        exact ⟨t, path, bytes, List.mem_append_right _ hmem, ht.trans hne⟩
    · rw [hlater q hne] at hready
      exact (h.ready q hready).mono fun _ => List.mem_append_left _

end Telling

/-! ## Runs -/

namespace System

variable {δ μ φ : Type} {ctx : Context δ μ φ} {sys sys' : System δ φ} {e : Event μ}

theorem telling_create (config : Configuration) (x : Option δ) (disk : φ) :
    Telling (create config x disk).scene (statuses (create config x disk).svc.log) where
  toKeyed := Core.keyed_create config x disk
  unborn p _ := rfl
  shape p := Or.inl rfl
  regular d s hs := by cases hs
  progress d s hs := by cases hs
  opened d s hs := by cases hs
  ready p hp := by cases hp

/-- The file of a `FILE_READY` that can be written has been stored. -/
theorem stored_of_canStore {s : FileTransferSession} {a : Announcement} {effects : List Effect}
    (hstores : Stores ctx s sys.svc.downloader a.status effects) (hwrites : sys.svc.Writes ctx effects)
    (hcan : a.status = .fileReady → sys.svc.canStore ctx s = true) :
    effects.any Effect.isFailure = false ∧
      (a.status = .fileReady → ∃ path bytes, Effect.stored s path bytes true ∈ effects) := by
  have hsuccess : ∀ e ∈ effects, ∃ path bytes, e = .stored s path bytes true := by
    intro e he
    obtain ⟨hready, folder, bytes, success, rfl, hbytes⟩ := hstores.mem he
    have hcollect : sys.svc.collectBytes ctx s = .ok bytes := by
      unfold FileManagementService.collectBytes FileTransferSession.isPlatformTransfer
      rcases hbytes with ⟨hurl, rfl⟩ | ⟨hurl, y, hy, rfl⟩
      · rw [if_pos (decide_eq_true hurl)]
      · rw [if_neg (by simpa using hurl), hy]
    have hplaced := hcan hready
    rw [FileManagementService.canStore, hcollect] at hplaced
    rw [← hwrites s _ bytes success he]
    exact ⟨_, bytes, congrArg (Effect.stored s _ bytes) hplaced⟩
  refine ⟨?_, fun hready => ?_⟩
  · rw [List.any_eq_false]
    intro e he
    obtain ⟨path, bytes, rfl⟩ := hsuccess e he
    exact Bool.false_ne_true
  · rw [hready] at hstores
    cases hstores with
    | upload =>
      obtain ⟨path, bytes, heq⟩ := hsuccess _ List.mem_cons_self
      exact ⟨path, bytes, List.mem_singleton.mpr heq.symm⟩
    | download =>
      obtain ⟨path, bytes, heq⟩ := hsuccess _ List.mem_cons_self
      exact ⟨path, bytes, List.mem_singleton.mpr heq.symm⟩
    | nothing hne => exact absurd rfl hne

theorem telling_step (h : Telling sys.scene (statuses sys.svc.log)) (hok : sys.Orderly ctx e)
    (hstep : sys.step ctx e = .ok sys') : Telling sys'.scene (statuses sys'.svc.log) := by
  obtain ⟨said, hspoken, hact⟩ := step_acts hstep
  have htold := hspoken.statuses
  have hsilent : said = [] → statuses sys'.svc.log = statuses sys.svc.log := by
    rintro rfl
    funext p
    exact (htold p).trans (List.append_nil _)
  cases hact with
  | idle hscene =>
    rw [hscene, hsilent rfl]
    exact h
  | @upload d m past s hhears hreporting hnone hvalid hs hscene =>
    subst hs
    rw [System.scene, hreporting] at h
    rw [hscene]
    obtain ⟨told, -, hmade, hspoken⟩ := statuses_spokenStatus ctx d
      (.ofUpload sys.svc.created d m true) .fileTransfer .none
    have hfirst : told = [.fileTransfer] := by
      apply hmade
      simp only [FileManagementService.statusMessage, FileTransferSession.isPlatformTransfer,
        FileTransferSession.ofUpload, decide_true, if_true]
      exact (hok hhears).2
    refine h.start rfl (FileTransferSession.regular_ofUpload _ _ _) rfl (Or.inr ⟨hfirst, rfl⟩)
      fun p => ?_
    rw [htold, statuses_append, statuses_spokenRequest, List.append_nil, hspoken]
  | @download d m past s hhears hreporting hnone hs hscene =>
    subst hs
    rw [System.scene, hreporting] at h
    rw [hscene, hsilent rfl]
    have hstart : Telling ⟨sys.svc.core.start (.ofUrlDownload sys.svc.created d m true), some d⟩
        (statuses sys.svc.log) :=
      h.start rfl (FileTransferSession.regular_ofUrlDownload _ _ _) rfl (Or.inl ⟨rfl, rfl⟩)
        fun p => by rw [ite_self, List.append_nil]
    exact hstart.le (hstart.toKeyed.withDownloader _) rfl (fun _ _ hs => hs) (fun _ => rfl)
      fun _ he => he
  | @chunk d m past s r hreporting hs hurl hr hscene =>
    subst hr
    have hregular := h.regular d s hs
    rw [System.scene, hreporting] at h
    rw [hscene]
    have hsame : statuses sys'.svc.log = statuses sys.svc.log := by
      funext p
      rw [htold]
      split_ifs
      · rw [statuses_spokenRequest, List.append_nil]
      · exact List.append_nil _
    rw [hsame]
    exact h.put hs (FileTransferSession.kept_pushChunk _ _ _)
      (FileTransferSession.advances_pushChunk _ _ _ hregular hurl)
      (FileTransferSession.regular_pushChunk _ _ _ hregular hurl)
  | @abort d m past s x hhears hreporting hs hm haborts hscene =>
    have hregular := h.regular d s hs
    rw [System.scene, hreporting] at h
    rw [hscene, hsilent rfl]
    have hle : Telling ⟨{ sys.svc.core with downloader := x }, none⟩ (statuses sys.svc.log) :=
      h.le (h.toKeyed.withDownloader x) rfl (fun _ _ hs => hs) (fun _ => rfl) fun _ he => he
    exact hle.put hs FileTransferSession.kept_abort
      (FileTransferSession.advances_abort hregular ((hok hhears).1 s hs hm))
      (FileTransferSession.regular_abort hregular)
  | @report d s hreporting htriggered hs hscene =>
    rw [System.scene, hreporting] at h
    rw [hscene]
    obtain ⟨told, -, hmade, hspoken⟩ := statuses_spokenStatus ctx d s .fileTransfer .none
    have hfirst := hmade (hok htriggered d hreporting s hs)
    refine h.report hs fun p => ?_
    rw [htold, hspoken, hfirst]
  | @unreported d hreporting hnone hscene =>
    rw [System.scene, hreporting] at h
    rw [hscene, hsilent rfl]
    exact h.unreported hnone
  | @status p a buffer rest s effects hbuffer hq hs hserial hstores hwrites hscene =>
    rw [hscene]
    obtain ⟨hwaits, hcan⟩ := hok
    rw [hbuffer] at hwaits
    have hnext : a.status = .fileReady → sys.svc.canStore ctx s = true := by
      intro hready
      apply hcan
      rw [FileManagementService.nextStored, hbuffer]
      exact (if_pos hready).trans hs
    obtain ⟨hfailure, hstored⟩ := stored_of_canStore hstores hwrites hnext
    obtain ⟨told, htoldcases, -, hspoken⟩ := statuses_spokenStatus ctx p.deviceKey s a.status a.error
    have hptr := h.toKeyed.ptr_eq hs hserial
    refine h.runStatus hq hs hserial hwaits htoldcases (fun hready => ?_) fun q => ?_
    · obtain ⟨path, bytes, hmem⟩ := hstored hready
      exact ⟨s, path, bytes, hmem, hptr⟩
    · rw [htold, Context.spokenFailure, hfailure, if_neg Bool.false_ne_true, List.append_nil, hspoken,
        hptr]
  | @dropped p a rest s hq hs hcallback hscene =>
    have hregular := h.regular p.deviceKey s hs
    rw [hregular.callback] at hcallback
    cases hcallback
  | @reset d p rest hq hscene =>
    rw [hscene, hsilent rfl]
    refine h.le (((h.toKeyed.pop hq).drop d).record _) rfl
      (fun _ _ hs => Core.session_of_drop hs) (fun q => ?_) fun _ he => List.mem_append_left _ he
    rw [pending_cons hq]
    rfl
  | @moved move x x' hx hmove hscene =>
    rw [hscene, hsilent rfl]
    exact h.le (h.toKeyed.withDownloader _) rfl (fun _ _ hs => hs) (fun _ => rfl) fun _ he => he
  | @called move x x' callback s hx hmove hs hserial hscene =>
    rw [hscene, hsilent rfl]
    obtain ⟨hurl, hsettles⟩ := hok x hx callback (by rw [hmove]; rfl) s hs
    have hregular := h.regular _ s hs
    have hle : Telling ⟨{ sys.svc.core with downloader := some x' }, sys.reporting⟩
        (statuses sys.svc.log) :=
      h.le (h.toKeyed.withDownloader _) rfl (fun _ _ hs => hs) (fun _ => rfl) fun _ he => he
    have hput := hle.put hs (FileTransferSession.kept_onDownloadStatus callback.status callback.error
      callback.fileName) (FileTransferSession.advances_onDownloadStatus _ hregular hsettles)
      (FileTransferSession.regular_onDownloadStatus _ _ _ hregular hurl)
    exact hput.le (hput.toKeyed.record _) rfl (fun _ _ hs => hs) (fun _ => rfl)
      fun _ he => List.mem_append_left _ he

/-- **The status protocol.** In every orderly run the statuses of a session are one `FILE_TRANSFER` and
then at most one terminal status. Every session has had its `FILE_TRANSFER` but the one whose download
is being reported, and a session that had `FILE_READY` has its file stored. -/
theorem statuses_follow_protocol (config : Configuration) (x : Option δ) (disk : φ)
    {es : List (Event μ)} {t : System δ φ}
    (h : Machine.Run (step ctx) (Orderly ctx) (create config x disk) es t) :
    (∀ p, statuses t.svc.log p = [] ∨ StatusProtocol (statuses t.svc.log p)) ∧
      (∀ d s, t.svc.session? d = some s →
        t.reporting = some d ∨ StatusProtocol (statuses t.svc.log s.ptr)) ∧
      ∀ p, .fileReady ∈ statuses t.svc.log p →
        ∃ s path bytes, Effect.stored s path bytes true ∈ t.svc.log ∧ s.ptr = p := by
  have hinv : Telling t.scene (statuses t.svc.log) :=
    h.invariant (fun sys => Telling sys.scene (statuses sys.svc.log)) (telling_create config x disk)
      fun _ _ _ hs hok hstep => telling_step hs hok hstep
  refine ⟨hinv.shape, fun d s hs => ?_, fun p hp => ?_⟩
  · rcases hinv.shape s.ptr with hnil | hprotocol
    · exact Or.inl ((hinv.opened d s hs).mp hnil)
    · exact Or.inr hprotocol
  · obtain ⟨s, path, bytes, hmem, hptr⟩ := hinv.ready p hp
    exact ⟨s, path, bytes, List.mem_of_mem_filter hmem, hptr⟩

theorem statuses_follow_protocol_two : ∃ t : System Empty PathDisk,
    (∀ p, .fileReady ∈ statuses t.svc.log p →
      ∃ s path bytes, Effect.stored s path bytes true ∈ t.svc.log ∧ s.ptr = p) ∧
      (statuses t.svc.log ⟨"d", 0⟩, statuses t.svc.log ⟨"d", 1⟩) =
        ([.fileTransfer, .fileReady], [.fileTransfer, .aborted]) := by
  obtain ⟨t, hrun, hstatuses⟩ := Machine.Run.exists_of_check (step uploadContext)
    (Orderly uploadContext) uploadSystem
    [Event.initA, .chunkA, .runCommand, .runCommand, .runCommand, .initA, .abortA, .runCommand]
    (fun t => (statuses t.svc.log ⟨"d", 0⟩, statuses t.svc.log ⟨"d", 1⟩))
    ([.fileTransfer, .fileReady], [.fileTransfer, .aborted]) (by decide +kernel)
  exact ⟨t, (statuses_follow_protocol _ _ _ hrun).2.2, hstatuses⟩

/-- A disk that nothing can be written to. -/
def fullContext : Context Empty Empty PathDisk :=
  { uploadContext with
    fs := { pathFileSystem with createBinaryFileWithContent := fun disk _ _ => (false, disk) } }

theorem not_protocol_of_three {told : List FileTransferStatus} {status status' : FileTransferStatus}
    (h : told = [.fileTransfer, status, status']) : ¬ (told = [] ∨ StatusProtocol told) := by
  rw [h]
  rintro (hnil | hone | ⟨_, -, htwo⟩)
  · cases hnil
  · cases hone
  · cases htwo

/-- The file is ready, and then it is aborted, or it could not be stored. -/
theorem statuses_end_twice :
    (∃ t : System Empty PathDisk, Machine.Run (step uploadContext) (fun _ _ => True) uploadSystem
      [Event.initA, .chunkA, .abortA, .runCommand, .runCommand] t ∧
      ¬ (statuses t.svc.log ⟨"d", 0⟩ = [] ∨ StatusProtocol (statuses t.svc.log ⟨"d", 0⟩))) ∧
    ∃ t : System Empty PathDisk, Machine.Run (step fullContext) (fun _ _ => True) uploadSystem
      [Event.initA, .chunkA, .runCommand] t ∧
      ¬ (statuses t.svc.log ⟨"d", 0⟩ = [] ∨ StatusProtocol (statuses t.svc.log ⟨"d", 0⟩)) := by
  constructor
  · obtain ⟨t, hrun, hstatuses⟩ := Machine.Run.exists_of_check (step uploadContext)
      (fun _ _ => True) uploadSystem [Event.initA, .chunkA, .abortA, .runCommand, .runCommand]
      (fun t => statuses t.svc.log ⟨"d", 0⟩) [.fileTransfer, .fileReady, .aborted] (by decide +kernel)
    exact ⟨t, hrun, not_protocol_of_three hstatuses⟩
  · obtain ⟨t, hrun, hstatuses⟩ := Machine.Run.exists_of_check (step fullContext) (fun _ _ => True)
      uploadSystem [Event.initA, .chunkA, .runCommand] (fun t => statuses t.svc.log ⟨"d", 0⟩)
      [.fileTransfer, .fileReady, .error] (by decide +kernel)
    exact ⟨t, hrun, not_protocol_of_three hstatuses⟩

end System

end WolkConnect
