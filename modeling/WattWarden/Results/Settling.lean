import WattWarden.Daemon.Runner
import WattWarden.Platform.Storing

/-!
# When the charge limit settles

`enforce_charge_limit` compares the configured limit with the first end threshold that reads, held
inside `1..=100`, and asks every battery for the limit held inside `20..=100`.

* `limitCall_units` — **PROVED**: on a fleet, a tick makes its call exactly when the fleet shows
  something else;
* `enforcement_settles_iff` — **PROVED**: after a call that succeeded the next tick writes nothing
  if and only if the first battery with a number to show has moved to the limit itself;
* `stored_limit_iff` — **PROVED**: a battery that stores what it is asked for moves to the limit
  itself for the limits in `20..=100` and no others;
* `limit_ten_never_settles` — a limit of 10, asked for as 20 in every tick.
-/

namespace WattWarden

open Library.FileTree Library.Numerals Threshold

variable {δ : Type*}

/-- One enforcement tick on a fleet. -/
def enforceUnits (config : Config) (units : List (BatteryUnit δ)) : List (BatteryUnit δ) :=
  enforceChargeLimit linuxChargeThreshold config units

/-- When a tick makes its call. -/
theorem limitCall_units {config : Config} {units : List (BatteryUnit δ)} {limit : ℕ} :
    limitCall linuxChargeThreshold config units = some limit ↔
      config.batteryChargeLimit = some limit ∧ units ≠ [] ∧
        (chargeThreshold units).toOption ≠ some limit := by
  have hsupports : linuxChargeThreshold.supportsThreshold units = true ↔ units ≠ [] := by
    rw [← Bool.not_eq_false]
    exact (supportsThreshold_units units).not
  rw [limitCall_eq_some, hsupports, linux_chargeThreshold]

/-- **A quiet tick.**  Where there is a battery, a tick under a configured limit writes nothing
exactly when the limit is what the fleet shows. -/
theorem enforceUnits_quiet_iff (fleet : Fleet δ) {config : Config} {limit : ℕ}
    (hlimit : config.batteryChargeLimit = some limit) (hsome : fleet.units ≠ []) :
    (enforceUnits config fleet.units).map BatteryUnit.attempts
        = fleet.units.map BatteryUnit.attempts ↔
      (chargeThreshold fleet.units).toOption = some limit := by
  rw [enforceUnits, enforceChargeLimit_eq]
  by_cases hshown : (chargeThreshold fleet.units).toOption = some limit
  · have hcall : limitCall linuxChargeThreshold config fleet.units = none :=
      (limitCall_eq_none hlimit).mpr (.inr hshown)
    simp [hcall, hshown]
  · have hcall := limitCall_units.mpr ⟨hlimit, hsome, hshown⟩
    rw [hcall, Option.elim_some, linux_setChargeThreshold,
      (setChargeThreshold_fleet fleet limit).1, List.map_map]
    refine iff_of_false ?_ hshown
    intro heq
    obtain ⟨b, hb⟩ := List.exists_mem_of_ne_nil _ hsome
    exact attempts_written_ne _ b (List.map_inj_left.mp heq b hb)

/-- A fleet that showed something else shows the limit after a call, when the first battery with a
number to show has moved to it. -/
theorem shows_after_iff (f : StoringFleet δ) {value limit : ℕ}
    (hbefore : f.shows StoringBattery.reading ≠ some limit) :
    f.shows (·.after value) = some limit ↔
      ∃ b m, f.batteries.find? (fun b => (b.after value).isSome) = some b ∧
        b.driver.stores value = some m ∧ clamp 1 100 m = limit := by
  rw [StoringFleet.shows] at hbefore ⊢
  -- batteries without a number show none before the call either, so both searches stop at one
  generalize f.batteries = batteries at hbefore ⊢
  induction batteries with
  | nil => simp
  | cons b batteries ih =>
    rw [List.findSome?_cons] at hbefore ⊢
    rw [List.find?_cons]
    cases hstores : b.driver.stores value with
    | some m => simp [StoringBattery.after, hstores]
    | none =>
      have hafter : b.after value = b.reading := by simp [StoringBattery.after, hstores]
      rw [hafter]
      cases hreading : b.reading with
      | none =>
        rw [hreading] at hbefore
        simpa using ih hbefore
      | some n =>
        rw [hreading] at hbefore
        simpa [hstores] using hbefore

/-- A battery that stores what it is asked for. -/
theorem stored_limit_iff {limit : ℕ} {b : StoringBattery δ}
    (hstores : b.driver.stores (clamp 20 100 limit) = some (clamp 20 100 limit)) :
    (∃ m, b.driver.stores (clamp 20 100 limit) = some m ∧ clamp 1 100 m = limit) ↔
      20 ≤ limit ∧ limit ≤ 100 := by
  have hlo : 20 ≤ clamp 20 100 limit := le_clamp (by omega)
  have hhi : clamp 20 100 limit ≤ 100 := clamp_le (by omega)
  have hread : clamp 1 100 (clamp 20 100 limit) = clamp 20 100 limit :=
    clamp_eq_self (by omega) hhi
  constructor
  · intro h
    obtain ⟨m, hm, hlimit⟩ := h
    obtain rfl : clamp 20 100 limit = m := Option.some.inj (hstores.symm.trans hm)
    omega
  · intro h
    obtain ⟨hlow, hhigh⟩ := h
    exact ⟨_, hstores, hread.trans (clamp_eq_self hlow hhigh)⟩

/-- **Settling, exactly.**  For every limit and every fleet with fixed answers: when a tick made a
set call that succeeded, the next tick makes no write, if and only if the fleet shows the limit to
begin with (so that no call is made), or no battery takes the clamped limit (so that the call fails),
or the first battery with a number to show is one that moves to the limit. -/
theorem enforcement_settles_iff (f : StoringFleet δ) (config : Config) :
    (∀ limit, limitCall linuxChargeThreshold config f.fleet.units = some limit →
      (setChargeThreshold f.fleet.units limit).2 = .ok () →
      (enforceUnits config (enforceUnits config f.fleet.units)).map BatteryUnit.attempts
        = (enforceUnits config f.fleet.units).map BatteryUnit.attempts) ↔
    ∀ limit, config.batteryChargeLimit = some limit →
      f.shows StoringBattery.reading = some limit ∨
      (∀ b ∈ f.batteries, b.takes (clamp 20 100 limit) = false) ∨
      ∃ b m, f.batteries.find? (fun b => (b.after (clamp 20 100 limit)).isSome) = some b ∧
        b.driver.stores (clamp 20 100 limit) = some m ∧ clamp 1 100 m = limit := by
  refine forall_congr' fun limit => ?_
  by_cases hlimit : config.batteryChargeLimit = some limit
  swap
  · exact iff_of_true (fun hcall => absurd (limitCall_units.mp hcall).1 hlimit)
      (fun h => absurd h hlimit)
  rw [limitCall_units, f.chargeThreshold_toOption]
  by_cases hbefore : f.shows StoringBattery.reading = some limit
  · simp [hlimit, hbefore]
  rw [← shows_after_iff f hbefore, ← f.chargeThreshold_written,
    (setChargeThreshold_fleet f.fleet limit).2, f.exists_took]
  by_cases htaken : ∃ b ∈ f.batteries, b.takes (clamp 20 100 limit) = true
  · have hsome : f.fleet.units ≠ [] := by
      obtain ⟨b, hb, -⟩ := htaken
      exact List.ne_nil_of_mem (List.mem_map_of_mem hb)
    have hcall := limitCall_units.mpr
      ⟨hlimit, hsome, f.chargeThreshold_toOption.trans_ne hbefore⟩
    have htick : enforceUnits config f.fleet.units
        = (f.fleet.written (clamp 20 100 limit)).units := by
      rw [enforceUnits, enforceChargeLimit_eq, hcall]
      exact (setChargeThreshold_fleet f.fleet limit).1
    have hquiet := enforceUnits_quiet_iff (f.fleet.written (clamp 20 100 limit)) hlimit
      (by simpa [Fleet.written] using hsome)
    rw [htick, hquiet]
    have hnone : ¬ ∀ b ∈ f.batteries, b.takes (clamp 20 100 limit) = false := by
      simpa using htaken
    simp [hlimit, hbefore, hsome, htaken, hnone]
  · have hnone : ∀ b ∈ f.batteries, b.takes (clamp 20 100 limit) = false := by
      simpa using htaken
    exact iff_of_true (fun _ h => absurd h htaken) (fun _ => .inr (.inl hnone))

/-- Under a limit of 10 the battery is asked for 20, shows 20, and is asked for 20 again. -/
theorem limit_ten_never_settles :
    let node : ThresholdNode := ⟨["end"], none, none⟩
    let f : StoringFleet String :=
      ⟨[⟨node, by decide, registerDriver node fun _ => true, "80"⟩], by decide⟩
    let config : Config := { Config.default with batteryChargeLimit := some 10 }
    ¬∀ limit, limitCall linuxChargeThreshold config f.fleet.units = some limit →
      (setChargeThreshold f.fleet.units limit).2 = .ok () →
      (enforceUnits config (enforceUnits config f.fleet.units)).map BatteryUnit.attempts
        = (enforceUnits config f.fleet.units).map BatteryUnit.attempts := by
  intro node f config hsettles
  have hquiet := hsettles 10 (by decide +kernel) (by decide +kernel)
  have hlengths := congrArg (List.map List.length) hquiet
  revert hlengths
  decide +kernel

end WattWarden
