import WolkConnect.Service.Core

/-!
# Names of sessions

Sessions are kept under their own key, and whatever is queued names a session made
before. No move changes that.
-/

namespace WolkConnect

theorem FileTransferSession.Kept.ptr {s : FileTransferSession}
    {r : FileTransferSession × List Announcement} (h : s.Kept r) : r.1.ptr = s.ptr := by
  rw [FileTransferSession.ptr, h.deviceKey, h.serial]
  rfl

/-- What a call queues is about its session. -/
theorem Core.mem_put {δ : Type} {c : Core δ} {d : String} {s : FileTransferSession}
    {r : FileTransferSession × List Announcement} (hr : s.Kept r) {command : Command}
    (h : command ∈ (c.put d r).queue) :
    command ∈ c.queue ∨ ∃ a ∈ r.2, command = .sessionStatus s.ptr a := by
  rcases List.mem_append.mp h with h | h
  · exact Or.inl h
  · obtain ⟨a, ha, rfl⟩ := List.mem_map.mp h
    exact Or.inr ⟨a, ha, by rw [hr.ptr]⟩

theorem Core.session_of_drop {δ : Type} {c : Core δ} {d key : String} {s : FileTransferSession}
    (h : (c.drop d).session key = some s) : c.session key = some s := by
  simp only [Core.drop, Function.update_apply] at h
  split_ifs at h
  exact h

theorem Core.session_of_start {δ : Type} {c : Core δ} {d : String} {s t : FileTransferSession}
    (h : (c.start s).session d = some t) :
    (d = s.deviceKey ∧ t = s) ∨ (d ≠ s.deviceKey ∧ c.session d = some t) := by
  simp only [Core.start, Function.update_apply] at h
  split_ifs at h with hd
  · exact Or.inl ⟨hd, (Option.some.inj h).symm⟩
  · exact Or.inr ⟨hd, h⟩

theorem Core.session_of_put {δ : Type} {c : Core δ} {d key : String} {t : FileTransferSession}
    {r : FileTransferSession × List Announcement} (h : (c.put d r).session key = some t) :
    (key = d ∧ t = r.1) ∨ (key ≠ d ∧ c.session key = some t) := by
  simp only [Core.put, Function.update_apply] at h
  split_ifs at h with hd
  · exact Or.inl ⟨hd, (Option.some.inj h).symm⟩
  · exact Or.inr ⟨hd, h⟩

structure Core.Keyed {δ : Type} (c : Core δ) : Prop where
  key : ∀ d s, c.session d = some s → s.deviceKey = d
  fresh : ∀ d s, c.session d = some s → s.serial < c.created
  status : ∀ p a, Command.sessionStatus p a ∈ c.queue → p.serial < c.created
  reset : ∀ d p, Command.resetSession d p ∈ c.queue → p.deviceKey = d ∧ p.serial < c.created

/-- At the start there are no sessions. -/
theorem Core.keyed_create {δ φ : Type} (config : Configuration) (x : Option δ) (disk : φ) :
    (System.create config x disk).svc.core.Keyed where
  key d s hs := by cases hs
  fresh d s hs := by cases hs
  status p a ha := by cases ha
  reset d p hp := by cases hp

namespace Core.Keyed

variable {δ μ φ : Type} {ctx : Context δ μ φ} {c c' : Core δ} {d : String} {e : Event μ}
  {s : FileTransferSession} {r : FileTransferSession × List Announcement}

/-- Two live sessions with one address are one session. -/
theorem ptr_inj (h : c.Keyed) {d d' : String} {s s' : FileTransferSession}
    (hs : c.session d = some s) (hs' : c.session d' = some s') (hp : s.ptr = s'.ptr) : d = d' := by
  rw [← h.key d s hs, ← h.key d' s' hs']
  exact congrArg SessionPtr.deviceKey hp

theorem ptr_eq (h : c.Keyed) {p : SessionPtr} (hs : c.session p.deviceKey = some s)
    (hserial : s.serial = p.serial) : s.ptr = p := by
  rw [FileTransferSession.ptr, h.key _ _ hs, hserial]

theorem start (h : c.Keyed) (hs : s.serial = c.created) : (c.start s).Keyed where
  key d' t ht := by
    rcases session_of_start ht with ⟨hd, rfl⟩ | ⟨-, ht⟩
    · exact hd.symm
    · exact h.key d' t ht
  fresh d' t ht := by
    rcases session_of_start ht with ⟨-, rfl⟩ | ⟨-, ht⟩
    · rw [hs]
      exact Nat.lt_succ_self _
    · exact Nat.lt_succ_of_lt (h.fresh d' t ht)
  status p a ha := by
    have := h.status p a ha
    simp only [Core.start]
    omega
  reset d' p hp := by
    obtain ⟨hkey, hp⟩ := h.reset d' p hp
    exact ⟨hkey, Nat.lt_succ_of_lt hp⟩

theorem put (h : c.Keyed) (hs : c.session d = some s) (hr : s.Kept r) : (c.put d r).Keyed where
  key d' t ht := by
    rcases session_of_put ht with ⟨hd, rfl⟩ | ⟨-, ht⟩
    · rw [hr.deviceKey, hd, h.key d s hs]
    · exact h.key d' t ht
  fresh d' t ht := by
    rcases session_of_put ht with ⟨-, rfl⟩ | ⟨-, ht⟩
    · rw [hr.serial]
      exact h.fresh d s hs
    · exact h.fresh d' t ht
  status p a ha := by
    rcases mem_put hr ha with ha | ⟨_, -, heq⟩
    · exact h.status p a ha
    · cases heq
      exact h.fresh d s hs
  reset d' p hp := by
    rcases mem_put hr hp with hp | ⟨_, -, heq⟩
    · exact h.reset d' p hp
    · cases heq

theorem pop (h : c.Keyed) {command : Command} {rest : List Command}
    (hq : c.queue = command :: rest) : Core.Keyed { c with queue := rest } where
  key := h.key
  fresh := h.fresh
  status p a ha := h.status p a (by rw [hq]; exact List.mem_cons_of_mem _ ha)
  reset d p hp := h.reset d p (by rw [hq]; exact List.mem_cons_of_mem _ hp)

theorem push_deletion (h : c.Keyed) {p : SessionPtr} (hp : p.serial < c.created)
    (status : FileTransferStatus) : (c.push (deletion p status)).Keyed := by
  have hmem : ∀ x ∈ deletion p status, x = .resetSession p.deviceKey p := by
    cases status <;> simp [deletion]
  refine ⟨h.key, h.fresh, fun q a ha => ?_, fun d q hq => ?_⟩
  · rcases List.mem_append.mp ha with ha | ha
    · exact h.status q a ha
    · cases hmem _ ha
  · rcases List.mem_append.mp hq with hq | hq
    · exact h.reset d q hq
    · cases hmem _ hq
      exact ⟨rfl, hp⟩

theorem drop (h : c.Keyed) (d : String) : (c.drop d).Keyed where
  key d' t ht := h.key d' t (session_of_drop ht)
  fresh d' t ht := h.fresh d' t (session_of_drop ht)
  status := h.status
  reset := h.reset

theorem record (h : c.Keyed) (effects : List Effect) : (c.record effects).Keyed :=
  ⟨h.key, h.fresh, h.status, h.reset⟩

theorem withDownloader (h : c.Keyed) (x : Option δ) : Core.Keyed { c with downloader := x } :=
  ⟨h.key, h.fresh, h.status, h.reset⟩

theorem move (h : c.Keyed) (hm : Moves ctx e c c') : c'.Keyed := by
  cases hm with
  | idle => exact h
  | upload => exact h.start rfl
  | download _ hs => subst hs; exact (h.start rfl).withDownloader _
  | chunk hs => exact h.put hs (FileTransferSession.kept_pushChunk _ _ _)
  | abort hs => exact (h.withDownloader _).put hs FileTransferSession.kept_abort
  | status hq =>
    have hp := h.status _ _ (by rw [hq]; exact List.mem_cons_self)
    exact ((h.pop hq).push_deletion hp _).record _
  | dropped hq => exact h.pop hq
  | reset hq => exact ((h.pop hq).drop _).record _
  | moved => exact h.withDownloader _
  | @called _ _ _ x' _ _ _ _ hs =>
    exact ((h.withDownloader (some x')).put hs
      (FileTransferSession.kept_onDownloadStatus _ _ _)).record _

end Core.Keyed

end WolkConnect
