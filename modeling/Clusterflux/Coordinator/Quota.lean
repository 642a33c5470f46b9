import Clusterflux.Coordinator.Durable

/-!
# Quota

Charges against windowed limits of a project, and the admission limits of a
tenant.
-/

namespace Clusterflux

inductive LimitKind where
  | apiCall
  | spawn
  | logBytes
  | metadataBytes
  | debugReadBytes
  | uiEvent
  deriving DecidableEq

/-- The position in the declaration, by which kinds compare. -/
def LimitKind.index : LimitKind → ℕ
  | .apiCall => 0
  | .spawn => 1
  | .logBytes => 2
  | .metadataBytes => 3
  | .debugReadBytes => 4
  | .uiEvent => 5

instance : Ord LimitKind := ⟨compareOn LimitKind.index⟩

instance : Std.TransOrd LimitKind := inferInstanceAs (Std.TransCmp (compareOn LimitKind.index))

instance : Std.TransOrd (TenantId × ProjectId × LimitKind × ℕ) := inferInstance

instance : Std.LawfulEqOrd LimitKind where
  eq_of_compare {left right} hcompare := by
    have hindex : left.index = right.index := Std.LawfulEqOrd.eq_of_compare hcompare
    cases left <;> cases right <;> simp_all [LimitKind.index]

inductive LimitError where
  | exceeded (kind : LimitKind) (requested used limit : ℕ)
  deriving DecidableEq

structure AdmissionQuotaLimits where
  maxProjects : ℕ
  maxNodes : ℕ
  maxActiveProcesses : ℕ

/-- The default configuration is unlimited. -/
structure CoordinatorQuotaConfiguration where
  /-- The limit of each kind; a kind without an entry has limit zero. -/
  limits : LimitKind → ℕ := fun _ => u64Max
  windowSeconds : LimitKind → ℕ := fun _ => u64Max
  admission : AdmissionQuotaLimits := ⟨u64Max, u64Max, u64Max⟩

/-- The meter of one kind for a project in one window. -/
abbrev MeterKey := TenantId × ProjectId × LimitKind × ℕ

structure CoordinatorQuota where
  configuration : CoordinatorQuotaConfiguration := {}
  meters : OrderedMap MeterKey ℕ := ∅

namespace CoordinatorQuota

variable (quota : CoordinatorQuota)

def effectiveAdmissionLimits (tenantOverride : Option TenantQuotaOverrideValues) :
    AdmissionQuotaLimits :=
  let defaults := quota.configuration.admission
  { maxProjects := (tenantOverride.bind (·.maxProjects)).getD defaults.maxProjects
    maxNodes := (tenantOverride.bind (·.maxNodes)).getD defaults.maxNodes
    maxActiveProcesses :=
      (tenantOverride.bind (·.maxActiveProcesses)).getD defaults.maxActiveProcesses }

def key (tenant : TenantId) (project : ProjectId) (kind : LimitKind) (nowEpochSeconds : ℕ) :
    MeterKey :=
  (tenant, project, kind, nowEpochSeconds / max (quota.configuration.windowSeconds kind) 1)

def used (tenant : TenantId) (project : ProjectId) (kind : LimitKind) (nowEpochSeconds : ℕ) : ℕ :=
  quota.meters[quota.key tenant project kind nowEpochSeconds]?.getD 0

def canCharge (tenant : TenantId) (project : ProjectId) (kind : LimitKind)
    (amount nowEpochSeconds : ℕ) : Except LimitError Unit :=
  let used := quota.used tenant project kind nowEpochSeconds
  let limit := quota.configuration.limits kind
  if saturatingAdd used amount > limit then .error (.exceeded kind amount used limit)
  else .ok ()

/-- Opening the meter of the present window forgets the earlier windows, also
when the charge is refused. -/
def charge (tenant : TenantId) (project : ProjectId) (kind : LimitKind)
    (amount nowEpochSeconds : ℕ) : Except LimitError Unit × CoordinatorQuota :=
  let key := quota.key tenant project kind nowEpochSeconds
  let used := quota.used tenant project kind nowEpochSeconds
  let meters := quota.meters.filter fun existing _ =>
    existing.1 ≠ tenant ∨ existing.2.1 ≠ project ∨ existing.2.2.1 ≠ kind ∨ existing = key
  match quota.canCharge tenant project kind amount nowEpochSeconds with
  | .error error => (.error error, { quota with meters := meters.insert key used })
  | .ok () =>
    (.ok (), { quota with meters := meters.insert key ((used + amount) % 2 ^ 64) })

end CoordinatorQuota

end Clusterflux
