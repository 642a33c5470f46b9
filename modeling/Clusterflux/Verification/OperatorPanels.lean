import Clusterflux.Core.OperatorPanel
import Clusterflux.Foundation.Runs

/-!
# The limits of operator panels

A panel stays within its limits as long as every operation fits, which the
operations that change its actions do not check.
-/

namespace Clusterflux.OperatorPanel

open LabelledRuns OrderedMaps StatefulProgram

inductive PanelOperation where
  | addWidget (widget : PanelWidget)
  | addDownloadWidgetFromAction (widgetId label : String) (action : Except String ArtifactId)
  | freezeProgramUiEvents
  | setControlPlaneActions (actions : List ControlPlaneAction)

namespace PanelOperation

def perform : PanelOperation → PanelProgram Unit
  | .addWidget widget => OperatorPanel.addWidget widget
  | .addDownloadWidgetFromAction widgetId label action =>
    OperatorPanel.addDownloadWidgetFromAction widgetId label action
  | .freezeProgramUiEvents => OperatorPanel.freezeProgramUiEvents
  | .setControlPlaneActions actions => OperatorPanel.setControlPlaneActions actions

def next (operation : PanelOperation) (panel : PanelState) : PanelState :=
  finalState (operation.perform panel)

/-- There is room for the action of a download, and for the bytes of the actions. -/
def Fits : PanelOperation → PanelState → Prop
  | .addDownloadWidgetFromAction widgetId label (.ok artifact), panel =>
    panel.controlPlaneActions.length < maxPanelControlActions ∧
      panel.projectedBytes ⟨widgetId, label, .artifactDownload artifact⟩ +
        artifact.value.utf8ByteSize ≤ maxPanelStateBytes
  | .setControlPlaneActions actions, panel =>
    panel.fixedBytes + (actions.map (·.sizeBytes)).sum ≤ maxPanelStateBytes
  | _, _ => True

end PanelOperation

/-! ## The limits -/

structure PanelState.Bounded (panel : PanelState) : Prop where
  widgets : panel.widgets.size ≤ maxPanelWidgets
  actions : panel.controlPlaneActions.length ≤ maxPanelControlActions
  bytes : panel.encodedSizeBytes ≤ maxPanelStateBytes

theorem PanelState.new_bounded (tenant : TenantId) (project : ProjectId) (process : ProcessId) :
    (new tenant project process).Bounded where
  widgets := Nat.zero_le _
  actions := Nat.zero_le _
  bytes := by
    have htenant := tenant.utf8ByteSize_le
    have hproject := project.utf8ByteSize_le
    have hprocess := process.utf8ByteSize_le
    change tenant.value.utf8ByteSize + project.value.utf8ByteSize + process.value.utf8ByteSize +
      0 + 0 ≤ maxPanelStateBytes
    simp only [maxExternalIdBytes, maxPanelStateBytes] at *
    omega

/-- A widget that is added replaces the one of its name, within both of its limits. -/
theorem addWidget_leads (widget : PanelWidget) (panel : PanelState) :
    Leads (addWidget widget) panel (fun _ after =>
      after = { panel with widgets := panel.widgets.insert widget.id widget } ∧
        (panel.widgets.size ≤ maxPanelWidgets → after.widgets.size ≤ maxPanelWidgets) ∧
        after.encodedSizeBytes ≤ panel.projectedBytes widget ∧
        panel.projectedBytes widget ≤ maxPanelStateBytes) (· = panel) := by
  refine Leads.bind_guards (Guards.liftExcept _ _) rfl fun _ _ => Leads.bind_ok rfl ?_
  refine Leads.bind_guards (Guards.ensure _ _) rfl fun _ hroom => ?_
  refine Leads.bind_guards (Guards.ensure _ _) rfl fun _ hbytes => ⟨fun hrun => ?_, nofun⟩
  cases hrun
  refine ⟨rfl, fun hsize => ?_, ?_, (ensure_eq_ok_iff.mp hbytes).1⟩
  · have hroom := (ensure_eq_ok_iff.mp hroom).1
    rw [Std.ExtTreeMap.contains_iff_mem] at hroom
    change (panel.widgets.insert widget.id widget).size ≤ _
    rw [Std.ExtTreeMap.size_insert]
    split
    case isTrue => exact hsize
    case isFalse habsent => exact hroom.resolve_left habsent
  · have htotal := total_insert PanelWidget.sizeBytes panel.widgets widget.id widget
    simp only [PanelState.projectedBytes, PanelState.encodedSizeBytes, PanelState.fixedBytes]
    omega

/-- A rejected operation changes nothing, and one that fits keeps the limits. -/
theorem PanelOperation.perform_leads (operation : PanelOperation) (panel : PanelState) :
    Leads operation.perform panel
      (fun _ after => panel.Bounded → operation.Fits panel → after.Bounded) (· = panel) := by
  cases operation with
  | addWidget widget =>
    apply (addWidget_leads widget panel).mono _ fun _ => id
    rintro _ _ ⟨rfl, hsize, hbytes, hlimit⟩ hbounded -
    exact ⟨hsize hbounded.widgets, hbounded.actions, hbytes.trans hlimit⟩
  | addDownloadWidgetFromAction widgetId label action =>
    cases action with
    | error reason => exact ⟨nofun, fun hrun => (EStateM.Result.error.inj hrun).2.symm⟩
    | ok artifact =>
      apply Leads.bind_ok rfl ((addWidget_leads _ panel).bind _)
      rintro _ _ ⟨rfl, hsize, hbytes, -⟩
      refine ⟨fun hrun hbounded hfits => ?_, nofun⟩
      cases hrun
      refine ⟨hsize hbounded.widgets, ?_, ?_⟩
      · rw [List.length_append]
        exact hfits.1
      · refine le_trans (le_of_eq ?_) ((Nat.add_le_add_right hbytes _).trans hfits.2)
        simp only [PanelState.encodedSizeBytes, List.map_append, List.sum_append, Nat.add_assoc]
        rfl
  | freezeProgramUiEvents =>
    refine ⟨fun hrun hbounded _ => ?_, nofun⟩
    cases hrun
    exact ⟨hbounded.widgets, hbounded.actions, hbounded.bytes⟩
  | setControlPlaneActions actions =>
    refine Leads.bind_guards (Guards.ensure _ _) rfl fun _ hcount => ⟨fun hrun => ?_, nofun⟩
    cases hrun
    exact fun hbounded hfits => ⟨hbounded.widgets, (ensure_eq_ok_iff.mp hcount).1, hfits⟩

theorem PanelOperation.next_bounded {operation : PanelOperation} {panel : PanelState}
    (hbounded : panel.Bounded) (hfits : operation.Fits panel) :
    (operation.next panel).Bounded := by
  apply Leads.finalState
  apply (operation.perform_leads panel).mono
  · exact fun _ _ hkeeps => hkeeps hbounded hfits
  · rintro _ rfl
    exact hbounded

/-- A rejected operation leaves the panel as it was.  In a run in which every download finds
room for its action, and the actions that are set fit the state, the panel stays within its
limits. -/
theorem panel_stays_bounded (tenant : TenantId) (project : ProjectId) (process : ProcessId)
    (operations : List PanelOperation) (hfits : Follows PanelOperation.next PanelOperation.Fits
      (.new tenant project process) operations) :
    (replay PanelOperation.next (.new tenant project process) operations).Bounded ∧
      ∀ (operation : PanelOperation) (panel after : PanelState) (failure : PanelError),
        operation.perform panel = .error failure after → after = panel := by
  refine ⟨?_, fun operation panel _ _ => (operation.perform_leads panel).of_error⟩
  apply (Run.of_follows hfits).invariant (PanelState.new_bounded tenant project process)
  rintro operation before _ hbounded hfits rfl
  exact PanelOperation.next_bounded hbounded hfits

/-- A panel with a widget, an action and a download. -/
theorem small_panel_is_bounded :
    (replay PanelOperation.next (.new ⟨"tenant", by decide⟩ ⟨"project", by decide⟩
      ⟨"process", by decide⟩) [.addWidget ⟨"done", "Done", .progress 1 2⟩,
        .setControlPlaneActions [.cancelProcess],
        .addDownloadWidgetFromAction "log" "Log" (.ok ⟨"log", by decide⟩)]).Bounded := by
  refine (panel_stays_bounded _ _ _ _ ?_).1
  refine ⟨trivial, ?_, ⟨?_, ?_⟩, trivial⟩
  · change _ + _ ≤ maxPanelStateBytes
    decide
  · change _ + 1 ≤ maxPanelControlActions
    decide
  · decide

/-- The action of a download comes on top of the 64 that were set. -/
theorem download_action_exceeds_limit :
    ¬ (replay PanelOperation.next (.new ⟨"tenant", by decide⟩ ⟨"project", by decide⟩
      ⟨"process", by decide⟩) [.setControlPlaneActions (List.replicate 64 .cancelProcess),
        .addDownloadWidgetFromAction "log" "Log" (.ok ⟨"log", by decide⟩)]).Bounded := by
  intro hbounded
  exact absurd hbounded.actions (by decide)

end Clusterflux.OperatorPanel
