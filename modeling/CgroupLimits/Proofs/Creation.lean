import CgroupLimits.Creation

/-! What every subsystem starts with. -/

namespace CgroupLimits.Subsystem

/-- A subsystem that was just made: its caches were never filled. -/
structure Fresh (settings : Settings) (host : Host) (s : Subsystem) : Prop where
  host_eq : s.host = host
  grace_eq : s.grace = settings.cacheTimeout
  cpuCache_eq : s.cpuCache = .empty
  memoryCache_eq : s.memoryCache = .empty

theorem fresh_of_ofLegacy {settings : Settings} {host : Host} {bindings : Bindings} {s : Subsystem}
    (h : (ofLegacy settings host bindings).value = some s) : Fresh settings host s := by
  unfold ofLegacy at h
  split at h
  all_goals
    simp only [Logged.value_bind, Logged.value_pure, Option.bind_eq_bind, Option.bind_eq_some_iff,
      Option.pure_def, Option.some.injEq] at h
    obtain ⟨cpu, -, memory, -, cpuset, -, rfl⟩ := h
    exact ⟨rfl, rfl, rfl, rfl⟩

theorem fresh_of_ofUnified {settings : Settings} {host : Host} {bindings : Bindings}
    {s : Subsystem} (h : (ofUnified settings host bindings).value = some s) :
    Fresh settings host s := by
  obtain ⟨d, -, rfl⟩ := Option.map_eq_some_iff.1 h
  exact ⟨rfl, rfl, rfl, rfl⟩

/-- Whatever detection finds, a new subsystem has the given host and two empty caches. -/
theorem fresh_of_create {files : Files} {settings : Settings} {host : Host} {s : Subsystem}
    (h : (create files settings host).value = .ok s) : Fresh settings host s := by
  simp only [create, Logged.value_bind] at h
  cases hversion : (detect files settings.controllersPath settings.membershipsPath
      settings.mountsPath).value.verdict.version? with
  | none =>
    rw [hversion] at h
    cases h
  | some version =>
    rw [hversion] at h
    cases version with
    | v1 =>
      cases hs : (ofLegacy settings host (detect files settings.controllersPath
          settings.membershipsPath settings.mountsPath).value.bindings).value with
      | none => simp [hs] at h
      | some s' =>
        simp only [hs, Logged.value_bind, Logged.value_pure, Except.ok.injEq] at h
        exact h ▸ fresh_of_ofLegacy hs
    | v2 =>
      cases hs : (ofUnified settings host (detect files settings.controllersPath
          settings.membershipsPath settings.mountsPath).value.bindings).value with
      | none => simp [hs] at h
      | some s' =>
        simp only [hs, Logged.value_bind, Logged.value_pure, Except.ok.injEq] at h
        exact h ▸ fresh_of_ofUnified hs

end CgroupLimits.Subsystem
