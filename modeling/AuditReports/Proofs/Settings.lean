import AuditReports.Proofs.Text.Integers
import AuditReports.Proofs.Text.Trimming
import AuditReports.Settings

/-!
# Settings that are accepted

The command line and a client on its own read the same environment, each in its own order and with
defaults of its own. Once the two settings of the polling are in order, the base alone decides for
both whether they have a service, and both have the same one: the default prefix stands for a prefix
that is not set, whether it is put in before or after the service is built.
-/

namespace AuditReports

namespace Environment

/-- The interval is left to the default, or it is a number of milliseconds but not zero. -/
def HasInterval (environment : Environment) : Prop :=
  ∀ text, environment.pollIntervalMs = some text → ∃ milliseconds, milliseconds ≠ 0 ∧
    Text.IsNatural Settings.largest milliseconds (Text.trimList text.toList)

/-- There is no limit, or it is blank, or it is a number of seconds. -/
def HasTimeout (environment : Environment) : Prop :=
  ∀ text, environment.pollTimeoutSecs = some text → Text.blank text = false → ∃ seconds,
    Text.IsNatural Settings.largest seconds (Text.trimList text.toList)

end Environment

namespace Settings

variable {environment : Environment}

theorem exists_interval_iff :
    (∃ milliseconds, interval environment = .ok milliseconds) ↔ environment.HasInterval := by
  simp only [interval, Environment.HasInterval, ← Text.natural_eq_ok_iff]
  cases environment.pollIntervalMs with
  | none => simp
  | some text =>
      cases read : Text.natural largest (Text.trimList text.toList) with
      | error error => simp [read]
      | ok number => cases number <;> simp [read]

theorem interval_ne_zero {milliseconds : Nat} (read : interval environment = .ok milliseconds) :
    milliseconds ≠ 0 := by
  rw [interval] at read
  cases unset : environment.pollIntervalMs with
  | none =>
      rw [unset] at read
      cases read
      decide
  | some text =>
      simp only [unset] at read
      split at read
      · cases read
      · cases read
      · rename_i positive _
        cases read
        exact positive

theorem exists_timeout_iff :
    (∃ limit, timeout environment = .ok limit) ↔ environment.HasTimeout := by
  simp only [timeout, Environment.HasTimeout, ← Text.natural_eq_ok_iff]
  cases environment.pollTimeoutSecs with
  | none => simp
  | some text =>
      cases shown : Text.blank text with
      | true => simp [shown, Text.content?, Text.blank_iff.mp shown]
      | false =>
          have content := Text.content?_eq_some_iff.mpr ⟨rfl, Text.not_blank_iff.mp shown⟩
          have trimmed : (Text.trim text).toList = Text.trimList text.toList :=
            String.toList_ofList
          simp only [Option.bind_some, content, trimmed]
          cases read : Text.natural largest (Text.trimList text.toList) <;> simp [read, shown]

theorem ofEnvironment_eq_ok_iff {settings : Settings} :
    ofEnvironment environment = .ok settings ↔
      interval environment = .ok settings.pollIntervalMs ∧
        timeout environment = .ok settings.pollTimeoutSecs ∧
        environment.baseUrl = some settings.baseUrl ∧ Text.blank settings.baseUrl = false ∧
        settings.apiPath = environment.apiPath.getD Mount.standardPath := by
  rcases settings with ⟨base, path, milliseconds, seconds⟩
  rw [ofEnvironment]
  cases interval environment with
  | error error => simp
  | ok given =>
      cases timeout environment with
      | error error => simp
      | ok limit =>
          cases environment.baseUrl with
          | none => simp
          | some url =>
              cases blank : Text.blank url with
              | true =>
                  simp only [blank, if_true, Option.some.injEq, reduceCtorEq, false_iff]
                  rintro ⟨_, _, rfl, shown, _⟩
                  cases blank.symm.trans shown
              | false =>
                  simp only [blank, Bool.false_eq_true, if_false, Except.ok.injEq,
                    Settings.mk.injEq, Option.some.injEq]
                  constructor
                  · rintro ⟨rfl, rfl, rfl, rfl⟩
                    exact ⟨rfl, rfl, rfl, blank, rfl⟩
                  · rintro ⟨rfl, rfl, rfl, _, rfl⟩
                    exact ⟨rfl, rfl, rfl, rfl⟩

end Settings

theorem Mount.ofEnvironment_eq_ok_iff {environment : Environment} {mount : Mount} :
    Mount.ofEnvironment environment = .ok mount ↔
      ∃ base, environment.baseUrl = some base ∧ Text.blank base = false ∧
        mount = (Mount.ofBase base).under (environment.apiPath.getD Mount.standardPath) := by
  rw [Mount.ofEnvironment]
  cases environment.baseUrl with
  | none => simp
  | some base =>
      cases blank : Text.blank base with
      | true => simp [blank]
      | false =>
          simp only [blank, Bool.false_eq_true, if_false, Option.some.injEq, exists_eq_left',
            true_and]
          cases environment.apiPath <;>
            exact ⟨fun accepted => (Except.ok.inj accepted).symm, fun same => same ▸ rfl⟩

namespace Settings

/-- The two ways to read an environment agree. If the interval and the limit are acceptable, the
settings are accepted exactly if the client on its own is; and then both have the same base, the
same prefix, and the same address for every path. -/
theorem agrees_with_client {environment : Environment} (interval : environment.HasInterval)
    (timeout : environment.HasTimeout) :
    ((∃ settings, ofEnvironment environment = .ok settings) ↔
      ∃ mount, Mount.ofEnvironment environment = .ok mount) ∧
    ∀ settings mount, ofEnvironment environment = .ok settings →
      Mount.ofEnvironment environment = .ok mount →
        settings.mount.base = mount.base ∧ settings.mount.apiPath = mount.apiPath ∧
          ∀ path, settings.mount.address path = mount.address path := by
  rcases exists_interval_iff.mpr interval with ⟨milliseconds, interval⟩
  rcases exists_timeout_iff.mpr timeout with ⟨limit, timeout⟩
  constructor
  · constructor
    · rintro ⟨settings, accepted⟩
      rcases ofEnvironment_eq_ok_iff.mp accepted with ⟨_, _, base, shown, _⟩
      exact ⟨_, Mount.ofEnvironment_eq_ok_iff.mpr ⟨_, base, shown, rfl⟩⟩
    · rintro ⟨mount, accepted⟩
      rcases Mount.ofEnvironment_eq_ok_iff.mp accepted with ⟨base, given, shown, _⟩
      exact ⟨⟨base, environment.apiPath.getD Mount.standardPath, milliseconds, limit⟩,
        ofEnvironment_eq_ok_iff.mpr ⟨interval, timeout, given, shown, rfl⟩⟩
  · intro settings mount accepted acceptedAlone
    rcases ofEnvironment_eq_ok_iff.mp accepted with ⟨_, _, base, _, path⟩
    rcases Mount.ofEnvironment_eq_ok_iff.mp acceptedAlone with ⟨other, given, _, rfl⟩
    rcases Option.some.inj (base.symm.trans given) with rfl
    have same : settings.mount =
        (Mount.ofBase settings.baseUrl).under (environment.apiPath.getD Mount.standardPath) := by
      rw [Settings.mount, path]
    exact ⟨congrArg Mount.base same, congrArg Mount.apiPath same,
      fun _ => congrArg (Mount.address · _) same⟩

/-- White space and slashes around the base, a prefix of slashes only, a plus sign and a blank
limit. -/
def untidyEnvironment : Environment :=
  ⟨some " https://audits.example.com// ", some " // ", some " +250 ", some " "⟩

theorem agrees_with_client_when_untidy :
    untidyEnvironment.HasInterval ∧ untidyEnvironment.HasTimeout ∧
      ∃ settings mount, ofEnvironment untidyEnvironment = .ok settings ∧
        Mount.ofEnvironment untidyEnvironment = .ok mount ∧
        settings.mount.address "/reports" = mount.address "/reports" ∧
        mount.address "/reports" = "https://audits.example.com/reports" := by
  have interval : untidyEnvironment.HasInterval := exists_interval_iff.mp ⟨250, by decide +kernel⟩
  have timeout : untidyEnvironment.HasTimeout := exists_timeout_iff.mp ⟨none, by decide +kernel⟩
  have main := agrees_with_client interval timeout
  have alone : Mount.ofEnvironment untidyEnvironment =
      .ok ⟨"https://audits.example.com", "/"⟩ := by decide +kernel
  rcases main.1.mpr ⟨_, alone⟩ with ⟨settings, accepted⟩
  refine ⟨interval, timeout, settings, _, accepted, alone, (main.2 _ _ accepted alone).2.2 _, ?_⟩
  decide +kernel

end Settings

end AuditReports
