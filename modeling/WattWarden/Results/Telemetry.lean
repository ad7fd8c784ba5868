import WattWarden.Daemon.Telemetry

/-!
# How often the daemon tells

The health log, the temperature warning and the threshold warning, over whole runs of the daemon: any
calls of `maybe_sample_health` and `enforce_charge_limit`, in any order, each with any configuration,
tree, device and clock.

* `requests_nonneg` — the clock of a request is not negative;
* `telemetry_paced` — **PROVED**: the three keep their distance and miss nothing that is due, as far as
  the clock allows: a notice at the epoch counts as none, and one in the future as a recent one.
-/

namespace WattWarden

open Library.Runs Library.Throttle

variable {σ : Type*} (threshold : ChargeThreshold σ) (battery : LinuxBattery)

theorem requests_nonneg (k : Limited) (events : List (TelemetryEvent σ)) :
    ∀ r ∈ TelemetryEvent.requests threshold battery k events, 0 ≤ r.1 := by
  intro r hr
  rw [TelemetryEvent.requests, List.mem_filterMap] at hr
  obtain ⟨e, -, hask⟩ := hr
  obtain ⟨n, -, rfl⟩ := Option.map_eq_some_iff.mp hask
  exact e.clock.epochSecs_nonneg

theorem Limited.gap_pos (k : Limited) : 0 < k.gap := by
  cases k <;> decide

/-- The notices of a runner that has just started. -/
theorem noticesOf_run_start (healthLog : String) (k : Limited) (events : List (TelemetryEvent σ)) :
    (run (telemetryStep threshold battery) (.start healthLog) events).noticesOf k
      = (passed k.gap 0 (TelemetryEvent.requests threshold battery k events)).map
          fun r => (r.1, r.2.2) := by
  have hstart : (Telemetry.start healthLog).last k = 0 := by
    cases k <;> rfl
  rw [(telemetry_run _ events k).2, hstart]
  rfl

/-- **The daemon keeps its distance.**  After any calls, for each of the three: consecutive notices are
an hour, resp. ten minutes apart, but after one at the epoch itself, which counts as none; a call logs
what it asks for, or it logs nothing, and then it does not ask or comes less than that long after the
last one, or before it where the clock was set back; and in `n` seconds after the epoch there are at
most as many as fit, and one more. -/
theorem telemetry_paced (healthLog : String) (k : Limited) (events : List (TelemetryEvent σ)) :
    let after := run (telemetryStep threshold battery) (.start healthLog)
    let times := ((after events).noticesOf k).map Prod.fst
    times.IsChain (FarEnough k.gap) ∧
    (∀ e : TelemetryEvent σ,
      (∃ n, e.asks threshold battery k = some n ∧ (after (events ++ [e])).noticesOf k
        = (after events).noticesOf k ++ [(e.clock.epochSecs, n)]) ∨
      ((after (events ++ [e])).noticesOf k = (after events).noticesOf k ∧
        (e.asks threshold battery k = none ∨ ∃ time, times.getLast? = some time ∧ time ≠ 0 ∧
          e.clock.epochSecs - time < k.gap))) ∧
    ∀ lo n : ℕ, ((times.filter fun time =>
      decide ((lo : ℤ) < time ∧ time ≤ lo + n)).length : ℤ) ≤ n / k.gap + 1 := by
  intro after times
  have htimes : times
      = (passed k.gap 0 (TelemetryEvent.requests threshold battery k events)).map Prod.fst := by
    show ((after events).noticesOf k).map Prod.fst = _
    rw [noticesOf_run_start, List.map_map]
    rfl
  refine ⟨?_, ?_, ?_⟩
  · rw [htimes]
    exact passed_apart _ _ _
  · intro e
    have hlast : (after events).last k
        = memory k.gap 0 (TelemetryEvent.requests threshold battery k events) := by
      have hstart : (Telemetry.start healthLog).last k = 0 := by
        cases k <;> rfl
      rw [← hstart]
      exact (telemetry_run _ events k).1
    have hnext : after (events ++ [e]) = telemetryStep threshold battery (after events) e :=
      run_concat _ _ _
    have hstep := (telemetry_step threshold battery (after events) e k).notices
    rw [hnext, hstep]
    cases hask : e.asks threshold battery k with
    | none => exact .inr ⟨by simp, .inl rfl⟩
    | some n =>
      by_cases hdue : due k.gap ((after events).last k) e.clock.epochSecs = true
      · left
        exact ⟨n, rfl, by simp [hdue, Option.filter]⟩
      · right
        rw [Bool.not_eq_true] at hdue
        refine ⟨by simp [hdue, Option.filter], .inr ?_⟩
        rw [hlast] at hdue
        rw [htimes]
        exact refused_recent hdue
  · intro lo n
    rw [htimes]
    exact passed_window k.gap_pos (requests_nonneg threshold battery k events) lo n

end WattWarden
