import SbbTicketing.DownloadsCore
import SbbTicketing.WindowCore

/-! `main`: the windows a process opens for its arguments, what happens to them, and several
processes on one machine, which meet in its files only. -/

namespace SbbTicketing

open Qt

variable {ρ ι : Type} (rnp : Rnp ρ) (lib : QtLibrary) (images : ImageLibrary)

structure Modes where
  inspectorMode : Bool := false
  userMode : Bool := false
  bothMode : Bool := false
  deriving DecidableEq, Repr

namespace Modes

def read (modes : Modes) (argument : QString) : Modes :=
  if argument = text "--inspector" ∨ argument = text "-i" then { modes with inspectorMode := true }
  else if argument = text "--user" ∨ argument = text "-u" then { modes with userMode := true }
  else if argument = text "--both" ∨ argument = text "-b" then { modes with bothMode := true }
  else modes

/-- From the arguments after the program's name, less those `QApplication` has taken. -/
def ofArguments (arguments : List QString) : Modes :=
  let modes := arguments.foldl read {}
  if !modes.inspectorMode && !modes.userMode && !modes.bothMode then { modes with userMode := true }
  else modes

end Modes

/-- A process: its windows, and the RNP they share. -/
structure Application (ρ : Type) where
  userWindow : Option (Session ρ)
  inspectorWindow : Option (Inspection ρ)
  rnpState : RnpState ρ

inductive ProcessEvent
  | user (event : WindowEvent)
  | downloadPIT (timestamp : QString) (dialog : SaveDialog) (attempt : Nat)
  | downloadTicket (timestamp : QString) (dialog : SaveDialog) (attempt : Nat)
  | loadPIT (fileName : QString) (inTime : Bool)
  | loadTicket (fileName : QString) (inTime : Bool)
  | verifyClicked (now : Int64)
  | clearClicked

namespace Application

def launch (arguments : List QString) (random : RandomGenerator) (state : RnpState ρ) : Application ρ :=
  let modes := Modes.ofArguments arguments
  if modes.bothMode || (modes.inspectorMode && modes.userMode) then
    let userWindow := Session.start rnp lib random state
    let inspectorWindow := Inspection.start rnp lib userWindow.rnpState
    { userWindow := some userWindow
      inspectorWindow := some inspectorWindow
      rnpState := inspectorWindow.rnpState }
  else if modes.inspectorMode then
    let inspectorWindow := Inspection.start rnp lib state
    { userWindow := none, inspectorWindow := some inspectorWindow, rnpState := inspectorWindow.rnpState }
  else
    let userWindow := Session.start rnp lib random state
    { userWindow := some userWindow, inspectorWindow := none, rnpState := userWindow.rnpState }

/-- The user window with RNP as the process has it now. -/
def user? (application : Application ρ) : Option (Session ρ) :=
  application.userWindow.map fun session => { session with rnpState := application.rnpState }

def inspector? (application : Application ρ) : Option (Inspection ρ) :=
  application.inspectorWindow.map fun inspection => { inspection with rnpState := application.rnpState }

def userStep (application : Application ρ) (event : WindowEvent) : Application ρ :=
  match application.user? with
  | none => application
  | some session =>
      let session := session.step rnp lib event
      { application with userWindow := some session, rnpState := session.rnpState }

def inspectorStep (application : Application ρ) (event : InspectorEvent) : Application ρ :=
  match application.inspector? with
  | none => application
  | some inspection =>
      let inspection := inspection.step rnp lib event
      { application with inspectorWindow := some inspection, rnpState := inspection.rnpState }

def downloadPIT (application : Application ρ) (timestamp : QString) (dialog : SaveDialog) (attempt : Nat)
    (disk : Disk) : Disk :=
  match application.user? with
  | none => disk
  | some session =>
      if session.onPage 2 then
        (session.window.identificationToken.downloadPIT images timestamp dialog attempt disk).disk
      else disk

def downloadTicket (application : Application ρ) (timestamp : QString) (dialog : SaveDialog)
    (attempt : Nat) (disk : Disk) : Disk :=
  match application.user? with
  | none => disk
  | some session =>
      if session.onPage 1 && !session.window.bookingReference.overlayHidden then
        (session.window.bookingReference.saveCurrentQRCode images timestamp dialog attempt disk).disk
      else disk

def step (application : Application ρ) (disk : Disk) : ProcessEvent → Application ρ × Disk
  | .user event => (application.userStep rnp lib event, disk)
  | .downloadPIT timestamp dialog attempt =>
      (application, application.downloadPIT images timestamp dialog attempt disk)
  | .downloadTicket timestamp dialog attempt =>
      (application, application.downloadTicket images timestamp dialog attempt disk)
  | .loadPIT fileName inTime =>
      (application.inspectorStep rnp lib (.loadPIT (disk.chosen images fileName inTime)), disk)
  | .loadTicket fileName inTime =>
      (application.inspectorStep rnp lib (.loadTicket (disk.chosen images fileName inTime)), disk)
  | .verifyClicked now => (application.inspectorStep rnp lib (.verifyClicked now), disk)
  | .clearClicked => (application.inspectorStep rnp lib .clearClicked, disk)

end Application

structure System (ι ρ : Type) where
  process : ι → Application ρ
  disk : Disk

/-- A process takes a step, or another program writes or removes a file. -/
inductive SystemEvent (ι : Type)
  | process (who : ι) (event : ProcessEvent)
  | foreign (fileName : QString) (contents : Option QByteArray)

structure Launch (ρ : Type) where
  arguments : List QString
  random : RandomGenerator
  state : RnpState ρ

namespace System

def start (launches : ι → Launch ρ) (disk : Disk) : System ι ρ where
  process who :=
    Application.launch rnp lib (launches who).arguments (launches who).random (launches who).state
  disk := disk

variable [DecidableEq ι]

def step (system : System ι ρ) : SystemEvent ι → System ι ρ
  | .process who event =>
      let moved := (system.process who).step rnp lib images system.disk event
      { process := Function.update system.process who moved.1, disk := moved.2 }
  | .foreign fileName contents => { system with disk := Function.update system.disk fileName contents }

def run : System ι ρ → List (SystemEvent ι) → System ι ρ := Runs.run (step rnp lib images)

end System

end SbbTicketing
