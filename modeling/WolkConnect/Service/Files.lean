import WolkConnect.Service.Quiet

/-!
# The published file list

What the service knows about files is kept in `m_files`: a list reports what is
there, and reads only the files that are not. A stored file is not entered.
-/

namespace WolkConnect

/-- The device and the files of a published list. -/
def Effect.listing : Effect → Option (String × List FileInformation)
  | .published deviceKey (.fileListResponse files) _ => some (deviceKey, files)
  | _ => none

/-- The service, as far as files go. -/
structure FileShelf (φ : Type) where
  config : Configuration
  files : OrderedMap String DeviceFiles
  disk : φ
  listings : List (String × List FileInformation)

theorem Effect.listing_of_quiet {e : Effect} (h : e.isQuiet = true) : e.listing = none := by
  cases e with
  | published d message session =>
    cases message with
    | fileListResponse files => cases h
    | _ => rfl
  | _ => rfl

namespace FileManagementService

variable {δ μ φ : Type} {ctx : Context δ μ φ} {svc svc' : FileManagementService δ φ} {d : String}

def shelf (svc : FileManagementService δ φ) : FileShelf φ where
  config := svc.config
  files := svc.files
  disk := svc.disk
  listings := svc.log.filterMap Effect.listing

/-! ## What does not touch the shelf -/

theorem Quiet.shelf (h : Quiet svc svc') : svc'.shelf = svc.shelf := by
  obtain ⟨said, hlog, hsaid⟩ := h.log
  unfold FileManagementService.shelf
  rw [h.config, h.files, h.disk, hlog, List.filterMap_append,
    filterMap_of_none fun e he => Effect.listing_of_quiet (hsaid e he), List.append_nil]

@[simp] theorem shelf_notifyListenerAddedFile (fileName absolutePath : String) :
    (svc.notifyListenerAddedFile d fileName absolutePath).shelf = svc.shelf := by
  unfold notifyListenerAddedFile
  split <;> rfl

@[simp] theorem shelf_notifyListenerRemovedFile (fileName : String) :
    (svc.notifyListenerRemovedFile d fileName).shelf = svc.shelf := by
  unfold notifyListenerRemovedFile
  split <;> rfl

theorem shelf_placed (ctx : Context δ μ φ) (svc : FileManagementService δ φ)
    (s : FileTransferSession) (d : String) (bytes : Bytes) :
    (svc.placed ctx s d bytes).shelf = (svc.placeFile ctx s bytes).2.shelf := by
  unfold placed
  dsimp only
  split_ifs
  · exact shelf_notifyListenerAddedFile _ _
  · rfl

/-- Telling the listener is not publishing a list. -/
theorem shelf_notice {command : Command} {rest : List Command} {e : Effect}
    (hc : command.isNotice = true) (he : e.fileNotice = command.fileNotice) :
    { svc.taken rest with log := svc.log ++ [e] }.shelf = svc.shelf := by
  have hlisting : e.listing = none := by
    cases e with
    | published d message session => cases command <;> cases hc <;> cases he
    | _ => rfl
  simp [shelf, taken, List.filterMap_append, hlisting]

end FileManagementService

end WolkConnect
