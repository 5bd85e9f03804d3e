import WolkConnect.Lib.OrderedMap
import Mathlib.Data.String.Basic

/-!
# The firmware update service

`FirmwareUpdateService.cpp`. An installation that is going on is recorded twice: in
`m_installation`, and in a session file that is there after a restart too.
-/

namespace WolkConnect

inductive FirmwareUpdateStatus
  | installing | success | error
  deriving DecidableEq, Repr

inductive FirmwareUpdateError
  | none | unknown | unknownFile | installationFailed
  deriving DecidableEq, Repr

structure FirmwareUpdateStatusMessage where
  status : FirmwareUpdateStatus
  error : FirmwareUpdateError
  deriving DecidableEq

/-- A status message for a device, after `makeOutboundMessage`. -/
structure FirmwareReport where
  deviceKey : String
  message : FirmwareUpdateStatusMessage
  deriving DecidableEq

/-- The report says that an installation on the device is over. -/
def FirmwareReport.ends (r : FirmwareReport) (deviceKey : String) : Bool :=
  decide (r.deviceKey = deviceKey) && decide (r.message.status ≠ .installing)

inductive InstallResponse
  | failedToInstall | noFile | willInstall | installed
  deriving DecidableEq, Repr

/-- What the installer of the user answers at the time of a call. -/
structure FirmwareInstaller where
  installFirmware : String → String → InstallResponse
  wasFirmwareInstallSuccessful : String → String → Bool
  getFirmwareVersion : String → String

/-- What the service reports of an installation that a session file is left of. -/
def FirmwareInstaller.outcome (installer : FirmwareInstaller) (deviceKey content : String) :
    FirmwareUpdateStatusMessage :=
  if installer.wasFirmwareInstallSuccessful deviceKey content then ⟨.success, .none⟩
  else ⟨.error, .installationFailed⟩

/-- The members of the service that it does not change, the protocol, which may make a message or
not, and the file system, whose operations on a session file may fail. `deviceFile` is the path of a
file of a device, which depends on whether there is a file management service. -/
structure FirmwareContext where
  firmwareInstaller : Option FirmwareInstaller
  makeOutboundMessage : String → FirmwareUpdateStatusMessage → Bool
  deviceFile : String → String → String
  readFileContent : Bool
  createFileWithContent : Bool
  deleteFile : Bool

/-- An installer whose installations succeed. -/
def FirmwareInstaller.succeeding : FirmwareInstaller :=
  ⟨fun _ _ => .willInstall, fun _ _ => true, fun _ => "1.0"⟩

/-- Messages are made, and file operations succeed. -/
def FirmwareContext.working : FirmwareContext :=
  ⟨some .succeeding, fun _ _ => true, fun _ file => file, true, true, true⟩

/-- `sessionFiles` has the contents of the session files, by device, and `published` what was given
to the connectivity service. -/
structure FirmwareUpdateService where
  installation : OrderedMap String Bool
  queue : List FirmwareReport
  sessionFiles : OrderedMap String String
  published : List FirmwareReport

namespace FirmwareUpdateService

variable (ctx : FirmwareContext) (svc : FirmwareUpdateService) (deviceKey : String)

def create : FirmwareUpdateService := ⟨.empty, [], .empty, []⟩

def storeSessionFile (version : String) : FirmwareUpdateService :=
  if ctx.createFileWithContent then
    { svc with sessionFiles := svc.sessionFiles.insert deviceKey version }
  else svc

def deleteSessionFile : FirmwareUpdateService :=
  if ctx.deleteFile then { svc with sessionFiles := svc.sessionFiles.erase deviceKey } else svc

def readSessionFile : Option String :=
  if ctx.readFileContent then svc.sessionFiles.find? deviceKey else none

def sendStatusMessage (status : FirmwareUpdateStatus) (error : FirmwareUpdateError) :
    FirmwareUpdateService :=
  if ctx.makeOutboundMessage deviceKey ⟨status, error⟩ then
    { svc with published := svc.published ++ [⟨deviceKey, status, error⟩] }
  else svc

def queueStatusMessage (status : FirmwareUpdateStatus) (error : FirmwareUpdateError) :
    FirmwareUpdateService :=
  if ctx.makeOutboundMessage deviceKey ⟨status, error⟩ then
    { svc with queue := svc.queue ++ [⟨deviceKey, status, error⟩] }
  else svc

def loadState : FirmwareUpdateService :=
  match svc.readSessionFile ctx deviceKey with
  | none => (svc.deleteSessionFile ctx deviceKey).queueStatusMessage ctx deviceKey .error .unknown
  | some content =>
    match ctx.firmwareInstaller with
    | none => (svc.deleteSessionFile ctx deviceKey).queueStatusMessage ctx deviceKey .error .unknown
    | some installer =>
      let queued :=
        if installer.wasFirmwareInstallSuccessful deviceKey content then
          svc.queueStatusMessage ctx deviceKey .success .none
        else svc.queueStatusMessage ctx deviceKey .error .installationFailed
      queued.deleteSessionFile ctx deviceKey

/-- `m_installation` has the device, and says that an installation is going on. -/
def ongoing : Bool := (svc.installation.find? deviceKey).getD false

/-- `onFirmwareInstall` up to `installFirmware`. -/
def beginInstall (installer : FirmwareInstaller) : FirmwareUpdateService :=
  (svc.storeSessionFile ctx deviceKey (installer.getFirmwareVersion deviceKey)).sendStatusMessage ctx
    deviceKey .installing .none

/-- `onFirmwareInstall` after `installFirmware`. -/
def finishInstall (response : InstallResponse) : FirmwareUpdateService :=
  match response with
  | .failedToInstall =>
    (svc.sendStatusMessage ctx deviceKey .error .installationFailed).deleteSessionFile ctx deviceKey
  | .noFile =>
    (svc.sendStatusMessage ctx deviceKey .error .unknownFile).deleteSessionFile ctx deviceKey
  | .willInstall =>
    sendStatusMessage ctx { svc with installation := svc.installation.insert deviceKey true } deviceKey
      .installing .none
  | .installed => (svc.sendStatusMessage ctx deviceKey .success .none).deleteSessionFile ctx deviceKey

def onFirmwareInstall (installer : FirmwareInstaller) (file : String) : FirmwareUpdateService :=
  if svc.ongoing deviceKey then svc
  else
    (svc.beginInstall ctx deviceKey installer).finishInstall ctx deviceKey
      (installer.installFirmware deviceKey (ctx.deviceFile deviceKey file))

/-- Tells whether the installer is asked to abort, which is all that `onFirmwareAbort` does. -/
def onFirmwareAbort : Bool := svc.ongoing deviceKey && ctx.firmwareInstaller.isSome

/-- What the connectors do with `getQueue`. -/
def publishQueue : FirmwareUpdateService :=
  { svc with published := svc.published ++ svc.queue, queue := [] }

/-- The service in a new process, with the files of the old one. -/
def restart : FirmwareUpdateService := { svc with installation := .empty, queue := [] }

/-! ## What the functions change -/

section
variable (status : FirmwareUpdateStatus) (error : FirmwareUpdateError)

/-- What a status message comes to. -/
def reports : List FirmwareReport :=
  if ctx.makeOutboundMessage deviceKey ⟨status, error⟩ then [⟨deviceKey, status, error⟩] else []

theorem mem_reports {r : FirmwareReport} (h : r ∈ reports ctx deviceKey status error) :
    r = ⟨deviceKey, status, error⟩ := by
  unfold reports at h
  split_ifs at h
  · exact List.mem_singleton.mp h
  · cases h

theorem sendStatusMessage_eq : svc.sendStatusMessage ctx deviceKey status error =
    { svc with published := svc.published ++ reports ctx deviceKey status error } := by
  unfold sendStatusMessage reports
  split_ifs
  · rfl
  · rw [List.append_nil]

theorem queueStatusMessage_eq : svc.queueStatusMessage ctx deviceKey status error =
    { svc with queue := svc.queue ++ reports ctx deviceKey status error } := by
  unfold queueStatusMessage reports
  split_ifs
  · rfl
  · rw [List.append_nil]

end

/-- The two records of a device are the same. -/
def SameRecords (svc svc' : FirmwareUpdateService) (d : String) : Prop :=
  svc'.installation.find? d = svc.installation.find? d ∧
    svc'.sessionFiles.find? d = svc.sessionFiles.find? d

variable {ctx svc deviceKey} {svc' : FirmwareUpdateService} {d : String}

theorem SameRecords.ongoing (h : SameRecords svc svc' d) : svc'.ongoing d = svc.ongoing d := by
  unfold FirmwareUpdateService.ongoing
  rw [h.1]

theorem SameRecords.send (h : SameRecords svc svc' d) (status : FirmwareUpdateStatus)
    (error : FirmwareUpdateError) :
    SameRecords svc (svc'.sendStatusMessage ctx deviceKey status error) d := by
  rw [sendStatusMessage_eq]
  exact h

theorem SameRecords.store (h : SameRecords svc svc' d) (hother : deviceKey ≠ d) (version : String) :
    SameRecords svc (svc'.storeSessionFile ctx deviceKey version) d := by
  unfold storeSessionFile
  split_ifs
  · exact ⟨h.1, (OrderedMap.find?_insert_ne _ _ hother).trans h.2⟩
  · exact h

theorem SameRecords.delete (h : SameRecords svc svc' d) (hother : deviceKey ≠ d) :
    SameRecords svc (svc'.deleteSessionFile ctx deviceKey) d := by
  unfold deleteSessionFile
  split_ifs
  · refine ⟨h.1, (OrderedMap.find?_erase _ _ _).trans ?_⟩
    rw [if_neg hother]
    exact h.2
  · exact h

variable (ctx svc) in
theorem sameRecords_beginInstall (hother : deviceKey ≠ d) (installer : FirmwareInstaller) :
    SameRecords svc (svc.beginInstall ctx deviceKey installer) d :=
  (SameRecords.store ⟨rfl, rfl⟩ hother _).send _ _

variable (ctx svc) in
theorem sameRecords_finishInstall (hother : deviceKey ≠ d) (response : InstallResponse) :
    SameRecords svc (svc.finishInstall ctx deviceKey response) d := by
  have hrefl : SameRecords svc svc d := ⟨rfl, rfl⟩
  cases response with
  | failedToInstall => exact (hrefl.send _ _).delete hother
  | noFile => exact (hrefl.send _ _).delete hother
  | willInstall =>
    have hflag : SameRecords svc
        { svc with installation := svc.installation.insert deviceKey true } d :=
      ⟨OrderedMap.find?_insert_ne _ _ hother, rfl⟩
    exact hflag.send _ _
  | installed => exact (hrefl.send _ _).delete hother

theorem deleteSessionFile_eq (ctx : FirmwareContext) (svc : FirmwareUpdateService)
    (deviceKey : String) : svc.deleteSessionFile ctx deviceKey =
      { svc with sessionFiles := (svc.deleteSessionFile ctx deviceKey).sessionFiles } := by
  unfold deleteSessionFile
  split_ifs <;> rfl

/-- What `loadState` reports. -/
def loaded (ctx : FirmwareContext) (svc : FirmwareUpdateService) (deviceKey : String) :
    FirmwareUpdateStatusMessage :=
  match svc.readSessionFile ctx deviceKey, ctx.firmwareInstaller with
  | some content, some installer => installer.outcome deviceKey content
  | _, _ => ⟨.error, .unknown⟩

/-- What `loadState` queues. -/
def loadedReports (ctx : FirmwareContext) (svc : FirmwareUpdateService) (deviceKey : String) :
    List FirmwareReport :=
  reports ctx deviceKey (loaded ctx svc deviceKey).status (loaded ctx svc deviceKey).error

/-- The session file is deleted, and there is a report. -/
theorem loadState_eq (ctx : FirmwareContext) (svc : FirmwareUpdateService) (deviceKey : String) :
    svc.loadState ctx deviceKey = { svc.deleteSessionFile ctx deviceKey with
      queue := svc.queue ++ svc.loadedReports ctx deviceKey } := by
  have hdelete : ∀ svc' : FirmwareUpdateService, svc'.sessionFiles = svc.sessionFiles →
      (svc'.deleteSessionFile ctx deviceKey).sessionFiles =
        (svc.deleteSessionFile ctx deviceKey).sessionFiles := by
    intro svc' hsame
    unfold deleteSessionFile
    split_ifs
    · rw [hsame]
    · exact hsame
  unfold loadState loadedReports loaded
  cases svc.readSessionFile ctx deviceKey with
  | none =>
    rw [queueStatusMessage_eq, deleteSessionFile_eq]
  | some content =>
    cases ctx.firmwareInstaller with
    | none =>
      rw [queueStatusMessage_eq, deleteSessionFile_eq]
    | some installer =>
      dsimp only
      unfold FirmwareInstaller.outcome
      split_ifs
      · rw [queueStatusMessage_eq, deleteSessionFile_eq, deleteSessionFile_eq ctx svc]
        simp only [hdelete]
      · rw [queueStatusMessage_eq, deleteSessionFile_eq, deleteSessionFile_eq ctx svc]
        simp only [hdelete]

theorem installation_loadState (ctx : FirmwareContext) (svc : FirmwareUpdateService)
    (deviceKey : String) : (svc.loadState ctx deviceKey).installation = svc.installation := by
  rw [loadState_eq, deleteSessionFile_eq]

/-- A session file that is still there is the one that was there. -/
theorem find?_of_loadState {version : String}
    (h : (svc.loadState ctx deviceKey).sessionFiles.find? deviceKey = some version) :
    svc.sessionFiles.find? deviceKey = some version := by
  rw [loadState_eq] at h
  dsimp only at h
  unfold deleteSessionFile at h
  split_ifs at h
  · rw [OrderedMap.find?_erase, if_pos rfl] at h
    cases h
  · exact h

theorem loaded_status (ctx : FirmwareContext) (svc : FirmwareUpdateService) (deviceKey : String) :
    (loaded ctx svc deviceKey).status ≠ .installing := by
  unfold loaded
  split
  · unfold FirmwareInstaller.outcome
    split_ifs <;> decide
  · decide

variable (ctx svc) in
theorem sameRecords_loadState (hother : deviceKey ≠ d) :
    SameRecords svc (svc.loadState ctx deviceKey) d := by
  have hdelete : SameRecords svc (svc.deleteSessionFile ctx deviceKey) d :=
    SameRecords.delete ⟨rfl, rfl⟩ hother
  rw [loadState_eq]
  exact hdelete

end FirmwareUpdateService

end WolkConnect
