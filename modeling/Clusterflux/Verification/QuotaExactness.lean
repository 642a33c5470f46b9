import Clusterflux.Coordinator.Quota
import Clusterflux.Foundation.OrderedMaps

/-!
# Quota exactness

A charge is admitted by a saturating sum and recorded by a plain one.  The two
agree unless the limit is the largest 64-bit number: then every charge is
admitted, and the record wraps around.  This module follows a sequence of charges
with the list of those that were accepted and compares the meters with their
sums.
-/

namespace Clusterflux

structure QuotaCharge where
  tenant : TenantId
  project : ProjectId
  kind : LimitKind
  amount : ℕ
  nowEpochSeconds : ℕ
  deriving DecidableEq

namespace CoordinatorQuotaConfiguration

variable (configuration : CoordinatorQuotaConfiguration)

/-- The meter a charge is recorded in. -/
def meterKey (charge : QuotaCharge) : MeterKey :=
  CoordinatorQuota.key { configuration := configuration } charge.tenant charge.project charge.kind
    charge.nowEpochSeconds

/-- The exact sum of the charges of one meter. -/
def usage (charges : List QuotaCharge) (key : MeterKey) : ℕ :=
  ((charges.filter fun charge => configuration.meterKey charge = key).map (·.amount)).sum

variable {configuration} {charges : List QuotaCharge} {charge : QuotaCharge} {key : MeterKey}

@[simp]
theorem usage_nil : configuration.usage [] key = 0 := rfl

theorem usage_append_singleton : configuration.usage (charges ++ [charge]) key =
      configuration.usage charges key +
        if configuration.meterKey charge = key then charge.amount else 0 := by
  rw [usage, List.filter_append, List.map_append, List.sum_append, ← usage]
  by_cases hkey : configuration.meterKey charge = key <;> simp [hkey]

theorem usage_le_append (key : MeterKey) {rest : List QuotaCharge} :
    configuration.usage charges key ≤ configuration.usage (charges ++ rest) key := by
  rw [usage, usage, List.filter_append, List.map_append, List.sum_append]
  exact Nat.le_add_right _ _

theorem usage_eq_zero (hother : ∀ charge ∈ charges, configuration.meterKey charge ≠ key) :
    configuration.usage charges key = 0 := by
  have hnone : (charges.filter fun charge => configuration.meterKey charge = key) = [] := by
    apply List.filter_eq_nil_iff.mpr
    intro charge hmem
    simpa using hother charge hmem
  rw [usage, hnone, List.map_nil, List.sum_nil]

end CoordinatorQuotaConfiguration

open CoordinatorQuotaConfiguration (usage_append_singleton)

namespace CoordinatorQuota

/-- The quota after charges, with the charges it accepted. -/
structure Log where
  quota : CoordinatorQuota
  accepted : List QuotaCharge

/-- The outcome of a charge and the quota after it. -/
def perform (quota : CoordinatorQuota) (charge : QuotaCharge) :
    Except LimitError Unit × CoordinatorQuota :=
  quota.charge charge.tenant charge.project charge.kind charge.amount charge.nowEpochSeconds

def Log.record (log : Log) (charge : QuotaCharge) : Log :=
  match log.quota.perform charge with
  | (.ok (), quota) => ⟨quota, log.accepted ++ [charge]⟩
  | (.error _, quota) => ⟨quota, log.accepted⟩

/-- The log of charges from the empty meters. -/
def log (configuration : CoordinatorQuotaConfiguration) (charges : List QuotaCharge) : Log :=
  charges.foldl Log.record ⟨{ configuration := configuration }, []⟩

/-- The recorded usage of the project in the window of a time. -/
def usedAt (quota : CoordinatorQuota) (charge : QuotaCharge) : ℕ :=
  quota.used charge.tenant charge.project charge.kind charge.nowEpochSeconds

section Step

variable {quota : CoordinatorQuota} {charge : QuotaCharge}

/-- A charge is accepted when the saturated sum is within the limit. -/
def Admits (quota : CoordinatorQuota) (charge : QuotaCharge) : Prop :=
  saturatingAdd (quota.usedAt charge) charge.amount ≤ quota.configuration.limits charge.kind

/-- The meters left when the meter of the charge is opened. -/
def openMeters (quota : CoordinatorQuota) (charge : QuotaCharge) : OrderedMap MeterKey ℕ :=
  quota.meters.filter fun existing _ =>
    existing.1 ≠ charge.tenant ∨ existing.2.1 ≠ charge.project ∨ existing.2.2.1 ≠ charge.kind ∨
      existing = quota.configuration.meterKey charge

theorem perform_of_admits (hadmits : quota.Admits charge) : quota.perform charge =
      (.ok (), { quota with
        meters := (quota.openMeters charge).insert (quota.configuration.meterKey charge)
          ((quota.usedAt charge + charge.amount) % 2 ^ 64) }) := by
  have hcan : quota.canCharge charge.tenant charge.project charge.kind charge.amount
      charge.nowEpochSeconds = .ok () := by
    rw [canCharge]
    exact if_neg (not_lt.mpr hadmits)
  rw [perform, CoordinatorQuota.charge, hcan]
  rfl

theorem perform_of_not_admits (hrefused : ¬ quota.Admits charge) : quota.perform charge =
      (.error (.exceeded charge.kind charge.amount (quota.usedAt charge)
          (quota.configuration.limits charge.kind)),
        { quota with
          meters := (quota.openMeters charge).insert (quota.configuration.meterKey charge)
            (quota.usedAt charge) }) := by
  have hcan : quota.canCharge charge.tenant charge.project charge.kind charge.amount
      charge.nowEpochSeconds = .error (.exceeded charge.kind charge.amount (quota.usedAt charge)
        (quota.configuration.limits charge.kind)) := by
    rw [canCharge]
    exact if_pos (not_le.mp hrefused)
  rw [perform, CoordinatorQuota.charge, hcan]
  rfl

theorem configuration_perform : (quota.perform charge).2.configuration = quota.configuration := by
  by_cases hadmits : quota.Admits charge
  · rw [perform_of_admits hadmits]
  · rw [perform_of_not_admits hadmits]

/-- The meters of the same project and kind as the charge. -/
def SameSeries (charge : QuotaCharge) (key : MeterKey) : Prop :=
  key.1 = charge.tenant ∧ key.2.1 = charge.project ∧ key.2.2.1 = charge.kind

instance {key : MeterKey} : Decidable (SameSeries charge key) :=
  inferInstanceAs (Decidable (_ ∧ _ ∧ _))

/-- Opening a meter drops the other windows of its series and nothing else. -/
theorem lookup_openMeters_insert {key : MeterKey} {value : ℕ} :
    ((quota.openMeters charge).insert (quota.configuration.meterKey charge) value)[key]? =
      if quota.configuration.meterKey charge = key then some value
      else if SameSeries charge key then none else quota.meters[key]? := by
  rw [Std.ExtTreeMap.getElem?_insert]
  by_cases hkey : quota.configuration.meterKey charge = key
  · simp [hkey]
  have hkept : (decide (key.1 ≠ charge.tenant ∨ key.2.1 ≠ charge.project ∨
      key.2.2.1 ≠ charge.kind ∨ key = quota.configuration.meterKey charge)) =
        !decide (SameSeries charge key) := by
    rw [← decide_not, decide_eq_decide, SameSeries]
    simp only [Ne.symm hkey, or_false]
    tauto
  rw [if_neg (by simpa using hkey), if_neg hkey, openMeters, Std.ExtTreeMap.getElem?_filter', hkept]
  cases quota.meters[key]? with
  | none => simp
  | some found => by_cases hseries : SameSeries charge key <;> simp [hseries]

end Step

section Exactness

/-- At a time not before the last charge, every recorded meter holds the exact
sum of the accepted charges of its window and respects the limit, and for the
windows of that time and of later ones the usage is the exact sum also where no
meter is recorded. -/
structure Log.Exact (log : Log) (now : ℕ) : Prop where
  recorded : ∀ (key : MeterKey) used, log.quota.meters[key]? = some used →
    used = log.quota.configuration.usage log.accepted key ∧
      used ≤ log.quota.configuration.limits key.2.2.1
  current : ∀ charge : QuotaCharge, now ≤ charge.nowEpochSeconds → log.quota.usedAt charge =
      log.quota.configuration.usage log.accepted (log.quota.configuration.meterKey charge)
  past : ∀ charge ∈ log.accepted, charge.nowEpochSeconds ≤ now

variable {log : Log} {charge : QuotaCharge} {now : ℕ}

/-- The log after a charge whose meter then holds `value`. -/
def Log.extend (log : Log) (charge : QuotaCharge) (value : ℕ) (accepted : List QuotaCharge) : Log :=
  ⟨{ log.quota with
      meters := (log.quota.openMeters charge).insert (log.quota.configuration.meterKey charge)
        value }, accepted⟩

theorem Log.record_of_admits (hadmits : log.quota.Admits charge) : log.record charge =
      log.extend charge ((log.quota.usedAt charge + charge.amount) % 2 ^ 64)
        (log.accepted ++ [charge]) := by
  rw [Log.record, perform_of_admits hadmits, Log.extend]

theorem Log.record_of_not_admits (hrefused : ¬ log.quota.Admits charge) :
    log.record charge = log.extend charge (log.quota.usedAt charge) log.accepted := by
  rw [Log.record, perform_of_not_admits hrefused, Log.extend]

variable (hexact : log.Exact now)
include hexact

/-- Windows that start after all charges have no usage yet. -/
theorem usage_of_later_window (hnow : now ≤ charge.nowEpochSeconds)
    {later : QuotaCharge} (hlater : charge.nowEpochSeconds ≤ later.nowEpochSeconds)
    (hseries : SameSeries charge (log.quota.configuration.meterKey later))
    (hother : log.quota.configuration.meterKey charge ≠ log.quota.configuration.meterKey later) :
    log.quota.configuration.usage log.accepted (log.quota.configuration.meterKey later) = 0 := by
  apply CoordinatorQuotaConfiguration.usage_eq_zero
  intro accepted hmem hkey
  apply hother
  obtain ⟨htenant, hproject, hkind⟩ := hseries
  -- The accepted charge is not after the present one, which is not after the later one.
  have hwindow : ∀ first second : QuotaCharge, first.nowEpochSeconds ≤ second.nowEpochSeconds →
      first.kind = second.kind → (log.quota.configuration.meterKey first).2.2.2 ≤
          (log.quota.configuration.meterKey second).2.2.2 := by
    intro first second htime hkinds
    change first.nowEpochSeconds / _ ≤ second.nowEpochSeconds / _
    rw [hkinds]
    exact Nat.div_le_div_right htime
  have hkinds : accepted.kind = charge.kind :=
    (congrArg (fun key : MeterKey => key.2.2.1) hkey).trans hkind
  have hbefore := hwindow accepted charge ((hexact.past accepted hmem).trans hnow) hkinds
  have hafter := hwindow charge later hlater hkind.symm
  rw [hkey] at hbefore
  have hsame : (log.quota.configuration.meterKey charge).2.2.2 =
      (log.quota.configuration.meterKey later).2.2.2 := le_antisymm hafter hbefore
  exact Prod.ext htenant.symm (Prod.ext hproject.symm (Prod.ext hkind.symm hsame))

/-- A charge that is recorded with the exact new sum keeps the log exact. -/
theorem Log.Exact.extend (hnow : now ≤ charge.nowEpochSeconds)
    {value : ℕ} {accepted : List QuotaCharge}
    (hvalue : value = log.quota.configuration.usage accepted
      (log.quota.configuration.meterKey charge))
    (hlimit : value ≤ log.quota.configuration.limits charge.kind)
    (hothers : ∀ key, log.quota.configuration.meterKey charge ≠ key →
      log.quota.configuration.usage accepted key = log.quota.configuration.usage log.accepted key)
    (hpast : ∀ entry ∈ accepted, entry.nowEpochSeconds ≤ charge.nowEpochSeconds) :
    (log.extend charge value accepted).Exact charge.nowEpochSeconds := by
  refine ⟨fun key used hlookup => ?_, fun later hlater => ?_, hpast⟩
  · rw [Log.extend, lookup_openMeters_insert] at hlookup
    by_cases hkey : log.quota.configuration.meterKey charge = key
    · rw [if_pos hkey, Option.some_inj] at hlookup
      subst hkey
      exact ⟨hlookup ▸ hvalue, hlookup ▸ hlimit⟩
    · rw [if_neg hkey] at hlookup
      by_cases hseries : SameSeries charge key
      · rw [if_pos hseries] at hlookup
        cases hlookup
      · rw [if_neg hseries] at hlookup
        obtain ⟨hused, hbound⟩ := hexact.recorded key used hlookup
        exact ⟨hused.trans (hothers key hkey).symm, hbound⟩
  · change ((log.quota.openMeters charge).insert (log.quota.configuration.meterKey charge)
      value)[log.quota.configuration.meterKey later]?.getD 0 =
        log.quota.configuration.usage accepted (log.quota.configuration.meterKey later)
    rw [lookup_openMeters_insert]
    by_cases hkey : log.quota.configuration.meterKey charge = log.quota.configuration.meterKey later
    · rw [if_pos hkey, ← hkey, Option.getD_some, hvalue]
    · rw [if_neg hkey, hothers _ hkey]
      by_cases hseries : SameSeries charge (log.quota.configuration.meterKey later)
      · rw [if_pos hseries, usage_of_later_window hexact hnow hlater hseries hkey, Option.getD_none]
      · rw [if_neg hseries]
        exact hexact.current later (hnow.trans hlater)

theorem Log.Exact.usedAt_le_limit :
    log.quota.usedAt charge ≤ log.quota.configuration.limits charge.kind := by
  change log.quota.meters[log.quota.configuration.meterKey charge]?.getD 0 ≤ _
  cases hlookup : log.quota.meters[log.quota.configuration.meterKey charge]? with
  | none => exact Nat.zero_le _
  | some used => exact (hexact.recorded _ used hlookup).2

theorem Log.Exact.mono {later : ℕ} (hlater : now ≤ later) : log.Exact later where
  recorded := hexact.recorded
  current charge hcharge := hexact.current charge (hlater.trans hcharge)
  past charge hmem := (hexact.past charge hmem).trans hlater

/-- A charge within the limit as an exact sum keeps the log exact. -/
theorem Log.Exact.record (hnow : now ≤ charge.nowEpochSeconds)
    (hlimits : log.quota.configuration.limits charge.kind ≤ u64Max)
    (hfits : log.quota.Admits charge →
      log.quota.usedAt charge + charge.amount ≤ log.quota.configuration.limits charge.kind) :
    (log.record charge).Exact charge.nowEpochSeconds := by
  have hcurrent := hexact.current charge hnow
  by_cases hadmits : log.quota.Admits charge
  · have hexactSum : (log.quota.usedAt charge + charge.amount) % 2 ^ 64 =
        log.quota.usedAt charge + charge.amount := by
      apply Nat.mod_eq_of_lt
      have hbound := (hfits hadmits).trans hlimits
      rw [u64Max] at hbound
      omega
    rw [Log.record_of_admits hadmits, hexactSum]
    apply hexact.extend hnow
    · rw [usage_append_singleton, if_pos rfl, hcurrent]
    · exact hfits hadmits
    · intro key hkey
      rw [usage_append_singleton, if_neg hkey, Nat.add_zero]
    · intro entry hmem
      rcases List.mem_append.mp hmem with hold | hnew
      · exact (hexact.past entry hold).trans hnow
      · rw [List.mem_singleton.mp hnew]
  · rw [Log.record_of_not_admits hadmits]
    apply hexact.extend hnow hcurrent
    · exact hexact.usedAt_le_limit
    · intro key _
      rfl
    · intro entry hmem
      exact (hexact.past entry hmem).trans hnow

end Exactness

section Runs

variable {configuration : CoordinatorQuotaConfiguration} {charges : List QuotaCharge}
  {charge : QuotaCharge}

theorem log_append_singleton :
    log configuration (charges ++ [charge]) = (log configuration charges).record charge := by
  rw [log, List.foldl_append]
  rfl

theorem configuration_record {entries : Log} :
    (entries.record charge).quota.configuration = entries.quota.configuration := by
  by_cases hadmits : entries.quota.Admits charge
  · rw [Log.record_of_admits hadmits]
    rfl
  · rw [Log.record_of_not_admits hadmits]
    rfl

@[simp]
theorem configuration_log : (log configuration charges).quota.configuration = configuration := by
  induction charges using List.reverseRecOn with
  | nil => rfl
  | append_singleton charges charge ih => rw [log_append_singleton, configuration_record, ih]

/-- Under the largest limit every charge is accepted. -/
theorem admits_of_unlimited {quota : CoordinatorQuota}
    (hlimit : quota.configuration.limits charge.kind = u64Max) : quota.Admits charge := by
  rw [Admits, hlimit, saturatingAdd]
  exact min_le_right _ _

theorem usage_accepted_le (key : MeterKey) :
    configuration.usage (log configuration charges).accepted key ≤
      configuration.usage charges key := by
  induction charges using List.reverseRecOn with
  | nil => exact le_refl _
  | append_singleton charges charge ih =>
    rw [log_append_singleton, usage_append_singleton]
    by_cases hadmits : (log configuration charges).quota.Admits charge
    · rw [Log.record_of_admits hadmits, Log.extend, usage_append_singleton]
      exact Nat.add_le_add_right ih _
    · rw [Log.record_of_not_admits hadmits, Log.extend]
      exact ih.trans (Nat.le_add_right _ _)

theorem usage_accepted_of_unlimited {key : MeterKey}
    (hlimit : configuration.limits key.2.2.1 = u64Max) :
    configuration.usage (log configuration charges).accepted key =
      configuration.usage charges key := by
  induction charges using List.reverseRecOn with
  | nil => rfl
  | append_singleton charges charge ih =>
    rw [log_append_singleton, usage_append_singleton]
    by_cases hadmits : (log configuration charges).quota.Admits charge
    · rw [Log.record_of_admits hadmits, Log.extend, usage_append_singleton, ih]
    · have hother : configuration.meterKey charge ≠ key := by
        intro hkey
        apply hadmits
        apply admits_of_unlimited
        rw [configuration_log, ← hlimit, ← hkey]
        rfl
      rw [Log.record_of_not_admits hadmits, Log.extend, if_neg hother, ih, Nat.add_zero]

/-- A charge that is accepted fits as an exact sum, unless the limit is the
largest number and the charges of the meter exceed it. -/
theorem fits_of_admits {now : ℕ} (hexact : (log configuration charges).Exact now)
    (hnow : now ≤ charge.nowEpochSeconds) (hlimits : configuration.limits charge.kind ≤ u64Max)
    (hunlimited : configuration.limits charge.kind = u64Max →
      configuration.usage (charges ++ [charge]) (configuration.meterKey charge) ≤ u64Max)
    (hadmits : (log configuration charges).quota.Admits charge) :
    (log configuration charges).quota.usedAt charge + charge.amount ≤
      configuration.limits charge.kind := by
  rw [Admits, configuration_log, saturatingAdd] at hadmits
  by_cases hlimit : configuration.limits charge.kind = u64Max
  · have htotal := hunlimited hlimit
    have haccepted : configuration.usage (log configuration charges).accepted
        (configuration.meterKey charge) ≤
          configuration.usage charges (configuration.meterKey charge) := usage_accepted_le _
    rw [usage_append_singleton, if_pos rfl] at htotal
    rw [hexact.current charge hnow, configuration_log, hlimit]
    omega
  · have hbelow : configuration.limits charge.kind < u64Max := lt_of_le_of_ne hlimits hlimit
    omega

/-- In a run with a clock that does not go back, the log is exact if the charges of
each meter whose limit is the largest number sum up to at most that number. -/
theorem log_exact (hlimits : ∀ kind, configuration.limits kind ≤ u64Max)
    (hclock : charges.Pairwise (·.nowEpochSeconds ≤ ·.nowEpochSeconds))
    (hunlimited : ∀ key : MeterKey, configuration.limits key.2.2.1 = u64Max →
      configuration.usage charges key ≤ u64Max)
    {now : ℕ} (hnow : ∀ charge ∈ charges, charge.nowEpochSeconds ≤ now) :
    (log configuration charges).Exact now := by
  induction charges using List.reverseRecOn generalizing now with
  | nil =>
    refine ⟨fun key used hlookup => ?_, fun charge _ => ?_, fun charge hmem => ?_⟩
    · change (∅ : OrderedMap MeterKey ℕ)[key]? = some used at hlookup
      simp at hlookup
    · change (∅ : OrderedMap MeterKey ℕ)[configuration.meterKey charge]?.getD 0 = 0
      simp
    · cases hmem
  | append_singleton charges charge ih =>
    rw [List.pairwise_append] at hclock
    have hbefore : ∀ earlier ∈ charges, earlier.nowEpochSeconds ≤ charge.nowEpochSeconds :=
      fun earlier hmem => hclock.2.2 earlier hmem charge (List.mem_singleton_self _)
    have hearlier : ∀ key : MeterKey, configuration.limits key.2.2.1 = u64Max →
        configuration.usage charges key ≤ u64Max := by
      intro key hlimit
      have htotal := hunlimited key hlimit
      rw [usage_append_singleton] at htotal
      exact (Nat.le_add_right _ _).trans htotal
    have hexact := ih hclock.1 hearlier hbefore
    rw [log_append_singleton]
    have hstep : ((log configuration charges).record charge).Exact charge.nowEpochSeconds := by
      apply hexact.record (le_refl _)
      · rw [configuration_log]
        exact hlimits charge.kind
      · rw [configuration_log]
        exact fits_of_admits hexact (le_refl _) (hlimits charge.kind)
          (hunlimited (configuration.meterKey charge))
    exact hstep.mono (hnow charge (List.mem_append_right _ (List.mem_singleton_self _)))

/-- What one charge does: an accepted one does not overflow, a refused one leaves
the usage of the present window and of later ones, and neither touches what other
projects may charge. -/
structure ChargesExactly (quota : CoordinatorQuota) (charge : QuotaCharge) : Prop where
  no_overflow : (quota.perform charge).1 = .ok () → quota.usedAt charge + charge.amount ≤ u64Max
  refused : (quota.perform charge).1 ≠ .ok () → ∀ later : QuotaCharge,
    charge.nowEpochSeconds ≤ later.nowEpochSeconds →
      (quota.perform charge).2.usedAt later = quota.usedAt later
  isolated : ∀ other : QuotaCharge,
    (other.tenant, other.project) ≠ (charge.tenant, charge.project) →
      ((quota.perform charge).2.perform other).1 = (quota.perform other).1

theorem perform_fst (quota : CoordinatorQuota) (charge : QuotaCharge) : (quota.perform charge).1 =
      if saturatingAdd (quota.usedAt charge) charge.amount ≤
          quota.configuration.limits charge.kind then .ok ()
      else .error (.exceeded charge.kind charge.amount (quota.usedAt charge)
        (quota.configuration.limits charge.kind)) := by
  by_cases hadmits : quota.Admits charge
  · rw [perform_of_admits hadmits]
    exact (if_pos hadmits).symm
  · rw [perform_of_not_admits hadmits]
    exact (if_neg hadmits).symm

theorem perform_eq_ok_iff {quota : CoordinatorQuota} :
    (quota.perform charge).1 = .ok () ↔ quota.Admits charge := by
  rw [perform_fst, Admits]
  by_cases hadmits : saturatingAdd (quota.usedAt charge) charge.amount ≤
      quota.configuration.limits charge.kind
  · simp [hadmits]
  · simp [hadmits]

theorem usedAt_perform_of_other_project (quota : CoordinatorQuota) {other : QuotaCharge}
    (hother : (other.tenant, other.project) ≠ (charge.tenant, charge.project)) :
    (quota.perform charge).2.usedAt other = quota.usedAt other := by
  have hseries : ¬ SameSeries charge (quota.configuration.meterKey other) :=
    fun hsame => hother (Prod.ext hsame.1 hsame.2.1)
  have hkey : quota.configuration.meterKey charge ≠ quota.configuration.meterKey other :=
    fun hsame => hseries (hsame ▸ ⟨rfl, rfl, rfl⟩)
  have hkept : ∀ value : ℕ, ((quota.openMeters charge).insert
      (quota.configuration.meterKey charge) value)[quota.configuration.meterKey other]? =
        quota.meters[quota.configuration.meterKey other]? := by
    intro value
    rw [lookup_openMeters_insert, if_neg hkey, if_neg hseries]
  by_cases hadmits : quota.Admits charge
  · rw [perform_of_admits hadmits]
    exact congrArg (Option.getD · 0) (hkept _)
  · rw [perform_of_not_admits hadmits]
    exact congrArg (Option.getD · 0) (hkept _)

theorem quota_record (entries : Log) :
    (entries.record charge).quota = (entries.quota.perform charge).2 := by
  by_cases hadmits : entries.quota.Admits charge
  · rw [Log.record, perform_of_admits hadmits]
  · rw [Log.record, perform_of_not_admits hadmits]

theorem chargesExactly_of_exact {now : ℕ} (hexact : (log configuration charges).Exact now)
    (hnow : now ≤ charge.nowEpochSeconds) (hlimits : configuration.limits charge.kind ≤ u64Max)
    (hunlimited : configuration.limits charge.kind = u64Max →
      configuration.usage (charges ++ [charge]) (configuration.meterKey charge) ≤ u64Max) :
    ChargesExactly (log configuration charges).quota charge where
  no_overflow hok :=
    (fits_of_admits hexact hnow hlimits hunlimited (perform_eq_ok_iff.mp hok)).trans hlimits
  refused hrefused later hlater := by
    have hrefuses : ¬ (log configuration charges).quota.Admits charge :=
      fun hadmits => hrefused (perform_eq_ok_iff.mpr hadmits)
    have hnext : ((log configuration charges).record charge).Exact charge.nowEpochSeconds := by
      apply hexact.record hnow
      · rw [configuration_log]
        exact hlimits
      · exact fun hadmits => absurd hadmits hrefuses
    have hafter := hnext.current later hlater
    rw [quota_record, configuration_perform, Log.record_of_not_admits hrefuses] at hafter
    exact hafter.trans (hexact.current later (hnow.trans hlater)).symm
  isolated other hother := by
    rw [perform_fst, perform_fst, usedAt_perform_of_other_project _ hother, configuration_perform]

end Runs

end CoordinatorQuota

open CoordinatorQuota in
/-- Every state of a run of charges is exact, and every charge of it charges
exactly, if and only if no meter whose limit is the largest 64-bit number is
charged more than that number in one window. -/
theorem quota_exact_iff (configuration : CoordinatorQuotaConfiguration)
    (hlimits : ∀ kind, configuration.limits kind ≤ u64Max) (charges : List QuotaCharge)
    (hclock : charges.Pairwise (·.nowEpochSeconds ≤ ·.nowEpochSeconds)) :
    ((∀ before now, before <+: charges → (∀ charge ∈ before, charge.nowEpochSeconds ≤ now) →
          (log configuration before).Exact now) ∧
        ∀ before charge, before ++ [charge] <+: charges →
          ChargesExactly (log configuration before).quota charge) ↔
      ∀ key : MeterKey, configuration.limits key.2.2.1 = u64Max →
        configuration.usage charges key ≤ u64Max := by
  constructor
  · rintro ⟨hexact, hstep⟩ key hlimit
    -- The usage of every prefix fits, by induction on the prefix.
    have hprefix : ∀ before, before <+: charges → configuration.usage before key ≤ u64Max := by
      intro before
      induction before using List.reverseRecOn with
      | nil => exact fun _ => Nat.zero_le _
      | append_singleton before charge ih =>
        intro hbefore
        have hearlier : before <+: charges := (List.prefix_append _ _).trans hbefore
        rw [usage_append_singleton]
        by_cases hkey : configuration.meterKey charge = key
        · have htimes : ∀ earlier ∈ before, earlier.nowEpochSeconds ≤ charge.nowEpochSeconds :=
            fun earlier hmem => (List.pairwise_append.mp
              (hclock.sublist hbefore.sublist)).2.2 earlier hmem charge (List.mem_singleton_self _)
          have hused := (hexact before charge.nowEpochSeconds hearlier htimes).current charge
            (le_refl _)
          have hunlimited :
              (log configuration before).quota.configuration.limits charge.kind = u64Max := by
            rw [configuration_log, ← hlimit, ← hkey]
            rfl
          have hfits := (hstep before charge hbefore).no_overflow
            (perform_eq_ok_iff.mpr (admits_of_unlimited hunlimited))
          rw [hused, configuration_log, hkey, usage_accepted_of_unlimited hlimit] at hfits
          rwa [if_pos hkey]
        · rw [if_neg hkey, Nat.add_zero]
          exact ih hearlier
    exact hprefix charges (List.prefix_refl _)
  · intro hunlimited
    have hbefore : ∀ before, before <+: charges → ∀ key : MeterKey,
        configuration.limits key.2.2.1 = u64Max → configuration.usage before key ≤ u64Max := by
      rintro before ⟨rest, rfl⟩ key hlimit
      exact (CoordinatorQuotaConfiguration.usage_le_append key).trans (hunlimited key hlimit)
    refine ⟨fun before now hprefix hnow => ?_, fun before charge hprefix => ?_⟩
    · exact log_exact hlimits (hclock.sublist hprefix.sublist) (hbefore before hprefix) hnow
    · have hpairs := List.pairwise_append.mp (hclock.sublist hprefix.sublist)
      have hexact : (log configuration before).Exact charge.nowEpochSeconds := by
        apply log_exact hlimits hpairs.1 (hbefore before ((List.prefix_append _ _).trans hprefix))
        exact fun earlier hmem => hpairs.2.2 earlier hmem charge (List.mem_singleton_self _)
      exact chargesExactly_of_exact hexact (le_refl _) (hlimits charge.kind)
        (hbefore _ hprefix (configuration.meterKey charge))

namespace QuotaSample

/-- A charge of log bytes. -/
def logBytes (amount : ℕ) : QuotaCharge where
  tenant := ⟨"tenant", tenant_valid⟩
  project := ⟨"project", project_valid⟩
  kind := .logBytes
  amount := amount
  nowEpochSeconds := 7

end QuotaSample

open CoordinatorQuota QuotaSample in
/-- Without a limit, one byte after the largest number of bytes is accepted and
the meter is back at zero. -/
theorem unlimited_meter_wraps :
    (log {} [logBytes u64Max, logBytes 1]).accepted = [logBytes u64Max, logBytes 1] ∧
      (log {} [logBytes u64Max, logBytes 1]).quota.usedAt (logBytes 0) = 0 := by
  decide +kernel

open CoordinatorQuota QuotaSample in
/-- Two charges of an unlimited meter that sum up to a 64-bit number. -/
theorem unlimited_meter_exact : (log {} [logBytes 5, logBytes 7]).quota.usedAt (logBytes 0) = 12 ∧
      (log {} [logBytes 5, logBytes 7]).Exact 7 := by
  refine ⟨by decide +kernel, ?_⟩
  have hclock : [logBytes 5, logBytes 7].Pairwise (·.nowEpochSeconds ≤ ·.nowEpochSeconds) := by
    decide
  refine ((quota_exact_iff {} (fun _ => le_refl _) _ hclock).mpr ?_).1 _ 7 (List.prefix_refl _) ?_
  · intro key _
    rw [CoordinatorQuotaConfiguration.usage, List.filter_cons, List.filter_cons, List.filter_nil]
    split <;> split <;> simp [logBytes, u64Max]
  · decide

end Clusterflux
