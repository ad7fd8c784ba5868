import WattWarden.Library.Nearest
import WattWarden.Platform.Plans

/-!
# What the resolvers choose

A request for an energy preference, a governor or an ASPM policy is mapped onto the list the
hardware advertises before anything is written.

* `eppDistance` — how far apart two known preferences are; unknown ones have no distance;
* `resolveEpp_eq_some_iff`, `resolveEpp_eq_none_iff` — **PROVED**: the request where it is listed or
  nothing is, else the first nearest listed preference;
* `resolveGovernor_mem`, `resolvePolicy_mem` — **PROVED**: what is chosen from a list is on it;
* `resolveGovernor_performance_iff` — **PROVED**: when the choice is the performance governor.
-/

namespace WattWarden

open Library.FileTree Library.Journaling Library.Numerals Library.Nearest

/-! ### Energy preferences -/

/-- The distance of two known preferences in `EPP_ORDER`. -/
def eppDistance (pref a : String) : Option ℕ :=
  (eppRank pref).bind fun target => (eppRank a).map fun r => absDiff r target

section Epp

variable {t : Tree} {pref tok : String}

/-- The request itself is written: nothing is advertised, or it is. -/
def EppPassed (t : Tree) (pref : String) : Prop := availableEpp t = [] ∨ pref ∈ availableEpp t

theorem resolveEpp_of_passed (h : EppPassed t pref) : resolveEpp t pref = some pref := by
  rw [resolveEpp]
  exact if_pos (h.imp_left List.isEmpty_iff.mpr)

theorem resolveEpp_of_not_passed (h : ¬EppPassed t pref) : resolveEpp t pref
    = ((measured (eppDistance pref) (availableEpp t)).argmin Prod.fst).map Prod.snd := by
  have hcond : ¬((availableEpp t).isEmpty = true ∨ pref ∈ availableEpp t) := by
    rwa [List.isEmpty_iff]
  rw [resolveEpp]
  rw [if_neg hcond]
  cases hrank : eppRank pref with
  | none =>
    have hnone : measured (eppDistance pref) (availableEpp t) = [] := by
      simp [measured, eppDistance, hrank]
    rw [hnone]
    rfl
  | some target => simp [measured, eppDistance, hrank, Function.comp_def]

/-- **The preference that is written.** -/
theorem resolveEpp_eq_some_iff : resolveEpp t pref = some tok ↔
    (EppPassed t pref ∧ tok = pref) ∨
      (¬EppPassed t pref ∧ FirstNearest (eppDistance pref) (availableEpp t) tok) := by
  by_cases h : EppPassed t pref
  · rw [resolveEpp_of_passed h, Option.some.injEq, eq_comm]
    simp [h]
  · rw [resolveEpp_of_not_passed h, argmin_eq_some_iff]
    simp [h]

/-- Nothing is written: no listed preference has a distance to the request. -/
theorem resolveEpp_eq_none_iff : resolveEpp t pref = none ↔
    ¬EppPassed t pref ∧ ∀ a ∈ availableEpp t, eppDistance pref a = none := by
  by_cases h : EppPassed t pref
  · simp [resolveEpp_of_passed h, h]
  · rw [resolveEpp_of_not_passed h, Option.map_eq_none_iff, argmin_eq_none_iff]
    simp [h]

end Epp

/-! ### Governors and policies -/

section Lists

variable {t : Tree} {gov policy choice : String}

theorem resolveGovernor_mem (hlist : availableGovernors t ≠ [])
    (h : resolveGovernor t gov = some choice) : choice ∈ availableGovernors t := by
  rw [resolveGovernor] at h
  split at h
  · rename_i hcond
    cases h
    exact hcond.resolve_left (by simpa using hlist)
  · have hfound := List.find?_some h
    exact of_decide_eq_true hfound

theorem resolvePolicy_mem (hlist : availablePolicies t ≠ [])
    (h : resolvePolicy t policy = some choice) : choice ∈ availablePolicies t := by
  rw [resolvePolicy] at h
  split at h
  · rename_i hcond
    cases h
    exact hcond.resolve_left (by simpa using hlist)
  · exact List.mem_of_find?_eq_some h

theorem resolvePolicy_of_mem (h : policy ∈ availablePolicies t) :
    resolvePolicy t policy = some policy := by
  rw [resolvePolicy]
  exact if_pos (.inr h)

/-- **When the performance governor is chosen.**  Asked for itself it is chosen if it is listed; asked
for `powersave` it is chosen if that one is not listed.  A governor of the fallbacks is listed. -/
theorem resolveGovernor_performance_iff
    (hlist : ∃ g ∈ ["powersave", "schedutil", "ondemand"], g ∈ availableGovernors t)
    (hgov : gov = "performance" ∨ gov = "powersave") :
    resolveGovernor t gov = some "performance" ↔
      "performance" ∈ availableGovernors t ∧
        (gov = "performance" ∨ "powersave" ∉ availableGovernors t) := by
  have hne : availableGovernors t ≠ [] := by
    obtain ⟨g, -, hg⟩ := hlist
    exact List.ne_nil_of_mem hg
  constructor
  · intro h
    refine ⟨resolveGovernor_mem hne h, ?_⟩
    rcases hgov with rfl | rfl
    · exact .inl rfl
    · right
      intro hmem
      rw [resolveGovernor, if_pos (.inr hmem)] at h
      exact absurd (Option.some.inj h) (by decide)
  · intro hgiven
    obtain ⟨hperf, hcase⟩ := hgiven
    rw [resolveGovernor]
    rcases hgov with rfl | rfl
    · exact if_pos (.inr hperf)
    · have hsave : "powersave" ∉ availableGovernors t := hcase.resolve_left (by decide)
      rw [if_neg (by simp [hne, hsave]), List.find?_cons_of_neg (by simpa using hsave),
        List.find?_cons_of_pos (by simpa using hperf)]

end Lists

end WattWarden
