import Clusterflux.Core.Ids
import Clusterflux.Foundation.Checks
import Clusterflux.Foundation.Program
import Clusterflux.Foundation.Totals

/-!
# The operator panel

A process shows its operators a panel of widgets, with actions of the control plane
beside them.  Every operation checks some of the limits of a panel: adding a widget
counts widgets and bytes, replacing the actions counts actions, and the action that
comes with a download is not counted at all.
-/

namespace Clusterflux.OperatorPanel

open Checks OrderedMaps StatefulProgram

def maxPanelWidgets : ℕ := 64
def maxPanelSelectOptions : ℕ := 128
def maxPanelTextBytes : ℕ := 16 * 1024
def maxPanelStateBytes : ℕ := 256 * 1024
def maxPanelControlActions : ℕ := maxPanelWidgets

inductive PanelWidgetKind where
  | text (value : String)
  | progress (current total : ℕ)
  | button (action : String)
  | toggle (value : Bool)
  | select (options : List String) (selected : String)
  | artifactDownload (artifact : ArtifactId)

structure PanelWidget where
  id : String
  label : String
  kind : PanelWidgetKind

inductive ControlPlaneAction where
  | restartTask (task : TaskInstanceId)
  | cancelProcess
  | debugProcess
  | downloadArtifact (artifact : ArtifactId)

/-- The panel that a process shows to its operators. -/
structure PanelState where
  tenant : TenantId
  project : ProjectId
  process : ProcessId
  widgets : OrderedMap String PanelWidget
  programUiEventsEnabled : Bool
  controlPlaneActions : List ControlPlaneAction

inductive PanelError where
  | credentialCollectionDenied (widget : String)
  | downloadUnavailable (reason : String)
  | limitExceeded (reason : String)

/-! ## Widgets -/

def validateBoundedText (name value : String) (maximum : ℕ) : Except PanelError Unit :=
  refuseIf (value.utf8ByteSize > maximum)
    (.limitExceeded (name ++ " may not exceed " ++ toString maximum ++ " bytes"))

/-- The texts of a widget that must not ask for credentials. -/
def PanelWidget.checkedText (widget : PanelWidget) : List String :=
  widget.id :: widget.label ::
    match widget.kind with
    | .button action => [action]
    | .select options selected => selected :: options
    | _ => []

def validateWidget (widget : PanelWidget) : Except PanelError Unit := do
  validateBoundedText "widget id" widget.id maxPanelTextBytes
  validateBoundedText "widget label" widget.label maxPanelTextBytes
  match widget.kind with
  | .text value => validateBoundedText "text widget value" value maxPanelTextBytes
  | .button action => validateBoundedText "button action" action maxPanelTextBytes
  | .select options selected =>
    refuseIf (options.length > maxPanelSelectOptions) (.limitExceeded
      ("at most " ++ toString maxPanelSelectOptions ++ " select options are allowed"))
    validateBoundedText "selected option" selected maxPanelTextBytes
    options.forM fun option => validateBoundedText "select option" option maxPanelTextBytes
  | _ => pure ()
  let combined := ([' '].intercalate (widget.checkedText.map (·.toList))).map Char.toLower
  refuseIf (["password", "token", "oauth", "secret"].any (·.toList <:+: combined))
    (.credentialCollectionDenied widget.id)

def PanelWidget.sizeBytes (widget : PanelWidget) : ℕ :=
  widget.id.utf8ByteSize + widget.label.utf8ByteSize +
    match widget.kind with
    | .text value => value.utf8ByteSize
    | .progress _ _ => 16
    | .button action => action.utf8ByteSize
    | .toggle _ => 1
    | .select options selected => (options.map (·.utf8ByteSize)).sum + selected.utf8ByteSize
    | .artifactDownload artifact => artifact.value.utf8ByteSize

def ControlPlaneAction.sizeBytes : ControlPlaneAction → ℕ
  | .restartTask task => task.value.utf8ByteSize
  | .downloadArtifact artifact => artifact.value.utf8ByteSize
  | .cancelProcess | .debugProcess => 1

/-! ## Operations -/

abbrev PanelProgram := EStateM PanelError PanelState

namespace PanelState

def new (tenant : TenantId) (project : ProjectId) (process : ProcessId) : PanelState :=
  ⟨tenant, project, process, ∅, true, []⟩

variable (panel : PanelState)

/-- The bytes of everything but the actions. -/
def fixedBytes : ℕ :=
  panel.tenant.value.utf8ByteSize + panel.project.value.utf8ByteSize +
    panel.process.value.utf8ByteSize + total PanelWidget.sizeBytes panel.widgets

def encodedSizeBytes : ℕ :=
  panel.fixedBytes + (panel.controlPlaneActions.map (·.sizeBytes)).sum

def projectedBytes (widget : PanelWidget) : ℕ :=
  panel.encodedSizeBytes - measureAt PanelWidget.sizeBytes panel.widgets widget.id +
    widget.sizeBytes

end PanelState

/-- A widget with the identifier of another takes its place. -/
def addWidget (widget : PanelWidget) : PanelProgram Unit := do
  liftExcept (validateWidget widget) id
  let panel ← get
  ensure (panel.widgets.contains widget.id ∨ panel.widgets.size < maxPanelWidgets)
    (.limitExceeded ("at most " ++ toString maxPanelWidgets ++ " widgets are allowed"))
  ensure (panel.projectedBytes widget ≤ maxPanelStateBytes) (.limitExceeded
    ("serialized state may not exceed " ++ toString maxPanelStateBytes ++ " bytes"))
  set { panel with widgets := panel.widgets.insert widget.id widget }

/-- The download is refused with a reason, or gives the artifact. -/
def addDownloadWidgetFromAction (widgetId label : String) (action : Except String ArtifactId) :
    PanelProgram Unit := do
  let artifact ← liftExcept action .downloadUnavailable
  addWidget ⟨widgetId, label, .artifactDownload artifact⟩
  modify fun panel => { panel with
    controlPlaneActions := panel.controlPlaneActions ++ [.downloadArtifact artifact] }

def freezeProgramUiEvents : PanelProgram Unit :=
  modify fun panel => { panel with programUiEventsEnabled := false }

def setControlPlaneActions (actions : List ControlPlaneAction) : PanelProgram Unit := do
  ensure (actions.length ≤ maxPanelControlActions) (.limitExceeded
    ("at most " ++ toString maxPanelControlActions ++ " control-plane actions are allowed"))
  modify fun panel => { panel with controlPlaneActions := actions }

end Clusterflux.OperatorPanel
