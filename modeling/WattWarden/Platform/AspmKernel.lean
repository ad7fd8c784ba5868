import WattWarden.Library.Plans
import WattWarden.Library.Words
import WattWarden.Platform.Peripherals

/-!
# The ASPM node as the kernel shows it

The kernel lists every policy it has, the current one in brackets.  A write of a policy makes that
policy the current one; the node never holds the bare word.

* `AspmKernel` — the policies, names without blanks and brackets; `AspmKernel.text` — the line shown;
* `AspmKernel.resolve` — the policy a request gets; `AspmKernel.settle` — the node after a write;
* `availablePolicies_of_shown` — **PROVED**: the program reads the policies back from the line,
  whichever is current;
* `resolvePolicy_of_shown` — **PROVED**: a request for a policy gets what it should on such a node;
* `settle_content_writeAll` — **PROVED**: after a plan, the node shows the policy the plan ends with;
* `text_inj` — **PROVED**: two lines that trim to the same text show the same current policy.
-/

namespace WattWarden

open Library.FileTree Library.Journaling Library.Numerals

/-- A character of a policy's name. -/
def isPolicyChar (c : Char) : Bool := !isSpace c && c ≠ '[' && c ≠ ']'

/-- The policies of a kernel, in the order it lists them. -/
structure AspmKernel where
  policies : List String
  names : ∀ p ∈ policies, p ≠ "" ∧ ∀ c ∈ p.toList, isPolicyChar c = true

namespace AspmKernel

/-- How one policy is printed. -/
def shown (current p : String) : String := if p = current then "[" ++ p ++ "]" else p

/-- The line the node shows. -/
def text (k : AspmKernel) (current : String) : String :=
  String.ofList (unwords ((k.policies.map (shown current)).map String.toList) ++ ['\n'])

/-- The node shows the policies, or there is no such file. -/
def Shows (k : AspmKernel) (t : Tree) : Prop :=
  ∀ v, t.content aspmPolicyPath = some v → ∃ current ∈ k.policies, v = k.text current

/-- The policy a request gets: itself when listed, else `default` when that is. -/
def resolve (k : AspmKernel) (policy : String) : Option String :=
  if policy ∈ k.policies then some policy
  else if "default" ∈ k.policies then some "default" else none

theorem resolve_mem {k : AspmKernel} {policy got : String} (h : k.resolve policy = some got) :
    got ∈ k.policies := by
  rw [resolve] at h
  split at h
  · rename_i hmem
    exact Option.some.inj h ▸ hmem
  · split at h
    · rename_i hdefault
      exact Option.some.inj h ▸ hdefault
    · cases h

/-- After a policy was written, the kernel shows it as the current one. -/
def settle (k : AspmKernel) (s : SysfsRoot) : SysfsRoot :=
  match s.tree.content aspmPolicyPath with
  | some v => if v ∈ k.policies then s.write .environment aspmPolicyPath (k.text v) else s
  | none => s

end AspmKernel

/-! ### Reading the line back -/

section Text

variable {k : AspmKernel} {p current : String}

theorem isPolicyChar_iff {c : Char} :
    isPolicyChar c = true ↔ isSpace c = false ∧ c ≠ '[' ∧ c ≠ ']' := by
  simp [isPolicyChar, and_assoc]

theorem isWord_shown (hp : p ∈ k.policies) : IsWord (AspmKernel.shown current p).toList := by
  obtain ⟨hne, hchars⟩ := k.names p hp
  have hspace : ∀ c ∈ p.toList, isSpace c = false := fun c hc =>
    (isPolicyChar_iff.mp (hchars c hc)).1
  have hopen : isSpace '[' = false := by decide
  have hclose : isSpace ']' = false := by decide
  rw [AspmKernel.shown]
  split
  · refine ⟨by simp, ?_⟩
    intro c hc
    simp only [String.toList_append, List.mem_append] at hc
    rcases hc with (hc | hc) | hc
    · obtain rfl : c = '[' := by simpa using hc
      exact hopen
    · exact hspace c hc
    · obtain rfl : c = ']' := by simpa using hc
      exact hclose
  · refine ⟨fun h => hne (String.toList_inj.mp (by simpa using h)), hspace⟩

/-- The line reads back as the printed policies. -/
theorem splitWhitespace_text (k : AspmKernel) (current : String) :
    splitWhitespace (k.text current) = k.policies.map (AspmKernel.shown current) := by
  apply splitWhitespace_unwords
  intro w hw
  obtain ⟨p, hp, rfl⟩ := List.mem_map.mp hw
  exact isWord_shown hp

/-- Brackets are not part of a name. -/
theorem trimBrackets_shown (hp : p ∈ k.policies) :
    trimBrackets (AspmKernel.shown current p) = p := by
  have hchars : ∀ c ∈ p.toList, (decide (c = '[') || decide (c = ']')) = false := by
    intro c hc
    have hname := isPolicyChar_iff.mp ((k.names p hp).2 c hc)
    simp [hname.2.1, hname.2.2]
  have hdrop : ∀ (cs : List Char), (∀ c ∈ cs, c ∈ p.toList) → ∀ tail : List Char,
      cs ≠ [] → (cs ++ tail).dropWhile (fun c => decide (c = '[') || decide (c = ']'))
        = cs ++ tail := by
    intro cs hcs tail hne
    cases cs with
    | nil => exact absurd rfl hne
    | cons c cs => simp [hchars c (hcs c (List.mem_cons_self ..))]
  have hne : p.toList ≠ [] := fun h => (k.names p hp).1 (String.toList_inj.mp (by simpa using h))
  have hself := hdrop p.toList (fun _ hc => hc) [] hne
  have hrev := hdrop p.toList.reverse (fun c hc => List.mem_reverse.mp hc) [] (by simpa using hne)
  have hclosed := hdrop p.toList (fun _ hc => hc) [']'] hne
  rw [List.append_nil] at hself hrev
  rw [AspmKernel.shown]
  split
  · have hlist : ("[" ++ p ++ "]").toList = '[' :: (p.toList ++ [']']) := by simp
    simp only [trimBrackets]
    rw [hlist, List.dropWhile_cons_of_pos (by decide), hclosed, List.reverse_append,
      List.reverse_singleton, List.singleton_append, List.dropWhile_cons_of_pos (by decide), hrev,
      List.reverse_reverse, String.ofList_toList]
  · simp only [trimBrackets]
    rw [hself, hrev, List.reverse_reverse, String.ofList_toList]

/-- **Two lines that trim to the same text show the same current policy.** -/
theorem text_inj (hp : p ∈ k.policies) (h : trim (k.text p) = trim (k.text current)) :
    p = current := by
  have hlists : k.policies.map (AspmKernel.shown p)
      = k.policies.map (AspmKernel.shown current) := by
    rw [← splitWhitespace_text, ← splitWhitespace_text, ← splitWhitespace_trim, h,
      splitWhitespace_trim]
  have hshown := List.map_inj_left.mp hlists p hp
  by_contra hne
  rw [AspmKernel.shown, AspmKernel.shown, if_pos rfl, if_neg hne] at hshown
  have hlength := congrArg (fun s => s.toList.length) hshown
  simp at hlength
  omega

/-- The line is not the name of a policy: it ends in a newline. -/
theorem text_not_mem (k : AspmKernel) (current : String) : k.text current ∉ k.policies := by
  intro h
  have hnewline := (k.names _ h).2 '\n' (by simp [AspmKernel.text])
  revert hnewline
  decide

end Text

/-! ### What the program makes of it -/

section Reading

variable {k : AspmKernel} {t : Tree} {current policy : String}

/-- **The policies read back**, whichever is current. -/
theorem availablePolicies_of_shown (h : t.content aspmPolicyPath = some (k.text current)) :
    availablePolicies t = k.policies := by
  have hread : SysfsRoot.read t aspmPolicyPath = trim (k.text current) := by
    rw [SysfsRoot.read, h]
    rfl
  have htrim : ∀ p ∈ k.policies, (trimBrackets ∘ AspmKernel.shown current) p = id p :=
    fun p hp => trimBrackets_shown hp
  rw [availablePolicies, hread, splitWhitespace_trim, splitWhitespace_text, List.map_map,
    List.map_congr_left htrim, List.map_id, List.filter_eq_self]
  intro p hp
  simpa using (k.names p hp).1

/-- **A request resolves as the kernel's policies say.** -/
theorem resolvePolicy_of_shown (h : t.content aspmPolicyPath = some (k.text current))
    (hcurrent : current ∈ k.policies) (policy : String) :
    resolvePolicy t policy = k.resolve policy := by
  have hne : k.policies.isEmpty = false := by
    cases hlist : k.policies with
    | nil =>
      rw [hlist] at hcurrent
      cases hcurrent
    | cons p ps => rfl
  rw [resolvePolicy, availablePolicies_of_shown h, hne, find?_default, AspmKernel.resolve]
  simp

/-- Settled, the node shows the policy that was written. -/
theorem settle_content_of_mem {s : SysfsRoot} (h : s.tree.content aspmPolicyPath = some policy)
    (hpolicy : policy ∈ k.policies) :
    (k.settle s).tree.content aspmPolicyPath = some (k.text policy) := by
  have hfile : s.tree.isFile aspmPolicyPath = true := by rw [Tree.isFile, h]; rfl
  rw [AspmKernel.settle, h]
  dsimp only
  rw [if_pos hpolicy]
  exact Tree.content_write_self _ (Tree.writable_of_isFile hfile)

/-- A node that shows the policies is settled. -/
theorem settle_of_shows {s : SysfsRoot} (h : k.Shows s.tree) : k.settle s = s := by
  rw [AspmKernel.settle]
  split
  · rename_i v hv
    obtain ⟨current, -, rfl⟩ := h v hv
    rw [if_neg (text_not_mem k current)]
  · rfl

/-- **After a plan the node shows the policy the plan ends with**, if it lists one. -/
theorem settle_content_writeAll {s : SysfsRoot} (hs : k.Shows s.tree) {ws : List (Write Actor)}
    (hquiet : (planned ws aspmPolicyPath).isSome = true → Quiet s.tree aspmPolicyPath)
    (hlisted : ∀ v, planned ws aspmPolicyPath = some v → s.tree.isFile aspmPolicyPath = true →
      v ∈ k.policies) :
    (k.settle (s.writeAll ws)).tree.content aspmPolicyPath
      = (s.tree.content aspmPolicyPath).map fun line =>
          (planned ws aspmPolicyPath).elim line k.text := by
  have hcontent := s.content_writeAll ws aspmPolicyPath
  cases hplan : planned ws aspmPolicyPath with
  | none =>
    rw [hplan] at hcontent
    have hshows : k.Shows (s.writeAll ws).tree := fun v hv => hs v (hcontent.symm.trans hv)
    rw [settle_of_shows hshows, hcontent]
    simp
  | some policy =>
    rw [hplan] at hcontent hquiet
    dsimp only at hcontent
    cases hline : s.tree.content aspmPolicyPath with
    | none =>
      have hfile : s.tree.isFile aspmPolicyPath = false := by
        rw [Tree.isFile, hline]
        rfl
      have hfixed : s.tree.writable aspmPolicyPath ≠ true := fun hw => by
        have hnow := hquiet rfl hw
        rw [hfile] at hnow
        cases hnow
      rw [if_neg hfixed, hline] at hcontent
      rw [AspmKernel.settle, hcontent]
      exact hcontent
    | some line =>
      have hfile : s.tree.isFile aspmPolicyPath = true := by
        rw [Tree.isFile, hline]
        rfl
      rw [if_pos (Tree.writable_of_isFile hfile)] at hcontent
      exact settle_content_of_mem hcontent (hlisted policy hplan hfile)

theorem settle_content_ne (s : SysfsRoot) {p : Path} (hp : p ≠ aspmPolicyPath) :
    (k.settle s).tree.content p = s.tree.content p := by
  rw [AspmKernel.settle]
  split
  · split
    · exact Tree.content_write_ne _ hp
    · rfl
  · rfl

end Reading

end WattWarden
