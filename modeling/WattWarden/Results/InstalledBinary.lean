import WattWarden.FrontEnds.Service
import WattWarden.Library.Runs

/-!
# Processes that replace the installed binary

Any number of processes call `sync_installed_binary`; any of them may be refused a call by the
kernel, take it in small writes, or be killed.  A temporary file left over is no danger; two
processes in the same temporary file are.

* `Sync.Holds` / `Sync.Sound` — a process in the temporary file, and what it knows of it;
* `next_sound`, `next_installed`, `next_kept` — **PROVED**: what one call to the kernel does;
* `OneAtATime` — no process opens the temporary file while another holds it; `stepsMeet_alone` —
  **PROVED**: nor does a process by itself;
* `SyncInv` — **PROVED**: then at most one holds it, and what it knows is true;
* `installed_whole` — **PROVED**: the installed binary is never missing, and, one at a time, never a
  part of one, and an inode that was installed is never written again.
-/

namespace WattWarden

open Library.Inodes Library.Runs

namespace Sync

/-- Between opening the temporary file and being done with it.  A process that was refused has still to
remove the file, one that was refused the opening among them. -/
def Holds : Sync → Prop
  | .opens _ => False
  | _ => True

/-- What has been read of the executable. -/
def copied : Sync → Option (List UInt8)
  | .opens bytes => some bytes
  | .writes bytes _ _ => some bytes
  | .permits bytes => some bytes
  | .renames bytes => some bytes
  | .removes => none

/-- What a process relies on while it holds the temporary file. -/
def Sound (disk : Filesystem) : Sync → Prop
  | .opens _ => True
  | .writes bytes inode offset =>
      disk.entry newBinary = some inode ∧ offset ≤ bytes.length ∧
        (disk.content inode).bytes = bytes.take offset
  | .permits bytes => ∃ mode, disk.look newBinary = some ⟨bytes, mode⟩
  | .renames bytes => disk.look newBinary = some ⟨bytes, 0o755⟩
  | .removes => True

theorem sound_of_not_holds {sync : Sync} (h : ¬sync.Holds) (disk : Filesystem) :
    sync.Sound disk := by
  cases sync with
  | opens bytes => trivial
  | _ => exact absurd trivial h

theorem newBinary_ne : installedBinary ≠ newBinary := by decide

theorem sound_writing {disk : Filesystem} {bytes : List UInt8} {inode offset : ℕ}
    (hentry : disk.entry newBinary = some inode) (hoffset : offset ≤ bytes.length)
    (hbytes : (disk.content inode).bytes = bytes.take offset) :
    (writing bytes inode offset).Sound disk := by
  rw [writing]
  split
  · exact ⟨hentry, hoffset, hbytes⟩
  · rename_i hend
    refine ⟨(disk.content inode).mode, ?_⟩
    rw [List.take_of_length_le (by omega)] at hbytes
    rw [Disk.look_of_entry hentry, ← hbytes]

theorem copied_writing (bytes : List UInt8) (inode offset : ℕ) :
    (writing bytes inode offset).copied = some bytes := by
  rw [writing]
  split <;> rfl

/-- What one call to the kernel can do. -/
inductive Outcome (disk : Filesystem) : Sync → Filesystem → Option Sync → Prop
  | refused (sync : Sync) : Outcome disk sync disk (some .removes)
  | opened (bytes : List UInt8) (mode : ℕ) :
      Outcome disk (.opens bytes) (disk.create newBinary mode).1
        (some (writing bytes (disk.create newBinary mode).2 0))
  | wrote (bytes : List UInt8) (inode offset n : ℕ) :
      Outcome disk (.writes bytes inode offset)
        (disk.writeAt inode offset ((bytes.drop offset).take n))
        (some (writing bytes inode (offset + ((bytes.drop offset).take n).length)))
  | permitted (bytes : List UInt8) {disk' : Filesystem}
      (h : disk.setMode newBinary 0o755 = some disk') :
      Outcome disk (.permits bytes) disk' (some (.renames bytes))
  | renamed (bytes : List UInt8) {disk' : Filesystem}
      (h : disk.rename newBinary installedBinary = some disk') :
      Outcome disk (.renames bytes) disk' none
  | removed : Outcome disk .removes (disk.remove newBinary) none
  | given_up : Outcome disk .removes disk none

theorem next_outcome (disk : Filesystem) (answer : Option ℕ) (sync : Sync) :
    Outcome disk sync (sync.next disk answer).1 (sync.next disk answer).2 := by
  cases sync with
  | opens bytes =>
    cases answer with
    | none => exact .refused _
    | some mode => exact .opened bytes mode
  | writes bytes inode offset =>
    match answer with
    | none => exact .refused _
    | some 0 => exact .refused _
    | some (n + 1) => exact .wrote bytes inode offset (n + 1)
  | permits bytes =>
    cases answer with
    | none => exact .refused _
    | some _ =>
      cases h : disk.setMode newBinary 0o755 with
      | none =>
        simp only [next, h]
        exact .refused _
      | some disk' =>
        simp only [next, h]
        exact .permitted bytes h
  | renames bytes =>
    cases answer with
    | none => exact .refused _
    | some _ =>
      cases h : disk.rename newBinary installedBinary with
      | none =>
        simp only [next, h]
        exact .refused _
      | some disk' =>
        simp only [next, h]
        exact .renamed bytes h
  | removes =>
    cases answer with
    | none => exact .given_up
    | some _ => exact .removed

theorem take_append_chunk (bytes : List UInt8) (offset n : ℕ) :
    bytes.take offset ++ (bytes.drop offset).take n
      = bytes.take (offset + ((bytes.drop offset).take n).length) := by
  rw [List.take_add, List.length_take, List.take_eq_take_min (l := bytes.drop offset)]

variable {disk disk' : Filesystem} {sync : Sync} {rest : Option Sync}

/-- **What a call leaves is sound.** -/
theorem Outcome.sound (h : Outcome disk sync disk' rest) (hsound : sync.Sound disk) :
    ∀ sync' ∈ rest, sync'.Sound disk' := by
  intro sync' hrest
  cases h with
  | refused =>
    cases hrest
    trivial
  | opened bytes mode =>
    obtain ⟨hentry, hempty⟩ := disk.entry_create newBinary mode
    cases hrest
    exact sound_writing hentry (Nat.zero_le _) hempty
  | wrote bytes inode offset n =>
    obtain ⟨hentry, hoffset, hbytes⟩ := hsound
    cases hrest
    have hlength : (disk.content inode).bytes.length = offset := by
      rw [hbytes, List.length_take, Nat.min_eq_left hoffset]
    have hchunk : ((bytes.drop offset).take n).length ≤ bytes.length - offset := by
      rw [List.length_take, List.length_drop]
      exact Nat.min_le_right ..
    have hgrown := disk.bytes_writeAt_length inode ((bytes.drop offset).take n)
    rw [hlength, hbytes, take_append_chunk] at hgrown
    exact sound_writing hentry (by omega) hgrown
  | permitted bytes hset =>
    obtain ⟨mode, hlook⟩ := hsound
    cases hrest
    show disk'.look newBinary = some ⟨bytes, 0o755⟩
    rw [Disk.look_setMode hset, hlook]
    rfl
  | renamed bytes hrename => cases hrest
  | removed => cases hrest
  | given_up => cases hrest

/-- **The installed binary changes at a rename.**  There it becomes what was in the temporary
file. -/
theorem Outcome.installed (h : Outcome disk sync disk' rest) (hsound : sync.Sound disk) :
    disk'.look installedBinary = disk.look installedBinary ∨
      ∃ bytes, sync = .renames bytes ∧ disk'.look installedBinary = disk.look newBinary := by
  cases h with
  | refused => exact .inl rfl
  | opened bytes mode => exact .inl (Disk.look_create newBinary_ne mode)
  | wrote bytes inode offset n =>
    left
    apply Disk.look_writeAt
    intro hentry
    exact newBinary_ne (disk.entry_inj _ _ _ hentry hsound.1)
  | permitted bytes hset => exact .inl (Disk.look_setMode_of_ne newBinary_ne hset)
  | renamed bytes hrename => exact .inr ⟨bytes, rfl, Disk.look_rename hrename⟩
  | removed => exact .inl (Disk.look_remove newBinary_ne)
  | given_up => exact .inl rfl

/-- **It is never missing**, whoever else is in the temporary file. -/
theorem Outcome.present (h : Outcome disk sync disk' rest)
    (hpresent : (disk.entry installedBinary).isSome = true) :
    (disk'.entry installedBinary).isSome = true := by
  cases h with
  | refused => exact hpresent
  | opened bytes mode => exact Disk.isSome_create hpresent mode
  | wrote bytes inode offset n => exact hpresent
  | permitted bytes hset =>
    obtain ⟨i, -, rfl⟩ := Option.map_eq_some_iff.mp hset
    exact hpresent
  | renamed bytes hrename =>
    obtain ⟨i, hi, rfl⟩ := Disk.rename_eq_some hrename
    rw [show (disk.relink _ _ i hi).entry installedBinary = some i from Function.update_self ..]
    rfl
  | removed =>
    show (Function.update disk.entry newBinary none installedBinary).isSome = true
    rw [Function.update_of_ne newBinary_ne]
    exact hpresent
  | given_up => exact hpresent

/-- **An inode that is not the temporary file's is left alone.** -/
theorem Outcome.kept (h : Outcome disk sync disk' rest) (hsound : sync.Sound disk) {i : ℕ}
    {c : Content UInt8} (hkept : disk.Kept newBinary i c) : disk'.Kept newBinary i c := by
  cases h with
  | refused => exact hkept
  | opened bytes mode => exact hkept.create mode
  | wrote bytes inode offset n => exact hkept.writeAt hsound.1 _ _
  | permitted bytes hset => exact hkept.setMode hset
  | renamed bytes hrename => exact hkept.rename newBinary_ne hrename
  | removed => exact hkept.remove
  | given_up => exact hkept

/-- What is copied stays the same. -/
theorem Outcome.copied (h : Outcome disk sync disk' rest) {bytes : List UInt8} :
    ∀ sync' ∈ rest, sync'.copied = some bytes → sync.copied = some bytes := by
  intro sync' hrest hcopied
  cases h with
  | refused =>
    cases hrest
    cases hcopied
  | opened bytes mode =>
    cases hrest
    rwa [copied_writing] at hcopied
  | wrote bytes inode offset n =>
    cases hrest
    rwa [copied_writing] at hcopied
  | permitted bytes hset =>
    cases hrest
    exact hcopied
  | renamed bytes hrename => cases hrest
  | removed => cases hrest
  | given_up => cases hrest

end Sync

/-! ### The processes together -/

/-- No process opens the temporary file while another holds it. -/
def OneAtATime (m : SyncMachine) : SyncEvent → Prop
  | .kernel pid _ =>
      ∀ bytes, m.calls pid = some (.opens bytes) → ∀ p sync, m.calls p = some sync → ¬sync.Holds
  | _ => True

/-- The executable that the call copies, with what is in it. -/
def Reads (m : SyncMachine) (bytes : List UInt8) : SyncEvent → Prop
  | .call pid isRoot currentExe readable =>
      m.calls pid = none ∧ Sync.begins m.disk isRoot currentExe readable = some (.opens bytes)
  | _ => False

structure SyncInv (known : List UInt8 → Prop) (m : SyncMachine) : Prop where
  unique : ∀ p q s t, m.calls p = some s → m.calls q = some t → s.Holds → t.Holds → p = q
  sound : ∀ p s, m.calls p = some s → s.Sound m.disk
  known : ∀ p s bytes, m.calls p = some s → s.copied = some bytes → known bytes

theorem syncInv_start (known : List UInt8 → Prop) (disk : Filesystem) :
    SyncInv known (.start disk) where
  unique := fun _ _ _ _ h => nomatch h
  sound := fun _ _ h => nomatch h
  known := fun _ _ _ h => nomatch h

theorem begins_eq_some {disk : Filesystem} {isRoot readable : Bool} {currentExe : Option String}
    {sync : Sync} (h : Sync.begins disk isRoot currentExe readable = some sync) :
    ∃ bytes, sync = .opens bytes := by
  cases isRoot with
  | false => cases h
  | true =>
    cases currentExe with
    | none => cases h
    | some exe =>
      change (if exe = installedBinary then none else if !readable then none
        else (disk.look exe).map fun c => Sync.opens c.bytes) = some sync at h
      split at h
      · cases h
      · split at h
        · cases h
        · obtain ⟨c, -, rfl⟩ := Option.map_eq_some_iff.mp h
          exact ⟨c.bytes, rfl⟩

section Machine

variable {known : List UInt8 → Prop} {m : SyncMachine}

/-- The call of a process where no other process holds the temporary file. -/
theorem SyncInv.replace (h : SyncInv known m) {pid : ℕ} {disk : Filesystem} {rest : Option Sync}
    (hfree : ∀ p s, p ≠ pid → m.calls p = some s → s.Sound disk ∧
      (s.Holds → ∀ t ∈ rest, ¬t.Holds))
    (hsound : ∀ s ∈ rest, s.Sound disk)
    (hknown : ∀ s ∈ rest, ∀ bytes, s.copied = some bytes → known bytes) :
    SyncInv known ⟨disk, Function.update m.calls pid rest⟩ := by
  have hcalls : ∀ p s, Function.update m.calls pid rest p = some s →
      p = pid ∧ s ∈ rest ∨ p ≠ pid ∧ m.calls p = some s := by
    intro p s hp
    by_cases hpid : p = pid
    · rw [hpid, Function.update_self] at hp
      exact .inl ⟨hpid, hp⟩
    · rw [Function.update_of_ne hpid] at hp
      exact .inr ⟨hpid, hp⟩
  constructor
  · intro p q s t hs ht hsHolds htHolds
    rcases hcalls p s hs with ⟨hp, hs'⟩ | ⟨hp, hs'⟩ <;>
      rcases hcalls q t ht with ⟨hq, ht'⟩ | ⟨hq, ht'⟩
    · rw [hp, hq]
    · exact absurd hsHolds ((hfree q t hq ht').2 htHolds s hs')
    · exact absurd htHolds ((hfree p s hp hs').2 hsHolds t ht')
    · exact h.unique p q s t hs' ht' hsHolds htHolds
  · intro p s hs
    rcases hcalls p s hs with ⟨-, hs⟩ | ⟨hp, hs⟩
    · exact hsound s hs
    · exact (hfree p s hp hs).1
  · intro p s bytes hs hbytes
    rcases hcalls p s hs with ⟨-, hs⟩ | ⟨-, hs⟩
    · exact hknown s hs bytes hbytes
    · exact h.known p s bytes hs hbytes

theorem not_holds_iff {sync : Sync} : ¬sync.Holds ↔ ∃ bytes, sync = .opens bytes := by
  constructor
  · intro h
    cases sync with
    | opens bytes => exact ⟨bytes, rfl⟩
    | _ => exact absurd trivial h
  · rintro ⟨bytes, rfl⟩ h
    exact h

/-- While a process goes on, no other holds the temporary file. -/
theorem SyncInv.free (h : SyncInv known m) {pid : ℕ} {answer : Option ℕ}
    (hone : OneAtATime m (.kernel pid answer)) {sync : Sync} (hsync : m.calls pid = some sync)
    {p : ℕ} {s : Sync} (hp : p ≠ pid) (hs : m.calls p = some s) : ¬s.Holds := by
  by_cases hholds : sync.Holds
  · intro hsHolds
    exact hp (h.unique p pid s sync hs hsync hsHolds hholds)
  · obtain ⟨bytes, rfl⟩ := not_holds_iff.mp hholds
    exact hone bytes hsync p s hs

/-- **One event keeps the invariant.** -/
theorem SyncInv.step (h : SyncInv known m) (e : SyncEvent) (hone : OneAtATime m e)
    (hknown : ∀ bytes, Reads m bytes e → known bytes) : SyncInv known (syncStep m e) := by
  cases e with
  | call pid isRoot currentExe readable =>
    rw [syncStep]
    split
    · exact h
    · rename_i hnone
      apply h.replace
      · intro p s _ hs
        refine ⟨h.sound p s hs, fun _ t ht => ?_⟩
        exact not_holds_iff.mpr (begins_eq_some ht)
      · intro s hs
        exact Sync.sound_of_not_holds (not_holds_iff.mpr (begins_eq_some hs)) _
      · intro s hs bytes hbytes
        obtain ⟨bytes', rfl⟩ := begins_eq_some hs
        cases hbytes
        exact hknown _ ⟨hnone, hs⟩
  | kernel pid answer =>
    rw [syncStep]
    split
    · rename_i sync hsync
      have houtcome := Sync.next_outcome m.disk answer sync
      apply h.replace
      · intro p s hp hs
        have hfree : ¬s.Holds := h.free hone hsync hp hs
        exact ⟨Sync.sound_of_not_holds hfree _, fun hholds => absurd hholds hfree⟩
      · exact houtcome.sound (h.sound pid sync hsync)
      · intro s hs bytes hbytes
        exact h.known pid sync bytes hsync (houtcome.copied s hs hbytes)
    · exact h
  | killed pid =>
    rw [syncStep]
    apply h.replace
    · intro p s _ hs
      exact ⟨h.sound p s hs, fun _ t ht => nomatch ht⟩
    · intro s hs
      cases hs
    · intro s hs
      cases hs

/-- **One event** changes the installed binary to all of what was read, or not at all. -/
theorem SyncInv.installed (h : SyncInv known m) (e : SyncEvent) :
    (syncStep m e).disk.look installedBinary = m.disk.look installedBinary ∨
      ∃ bytes, known bytes ∧ (syncStep m e).disk.look installedBinary = some ⟨bytes, 0o755⟩ := by
  cases e with
  | call pid isRoot currentExe readable =>
    left
    rw [syncStep]
    split <;> rfl
  | kernel pid answer =>
    rw [syncStep]
    split
    · rename_i sync hsync
      have hsound := h.sound pid sync hsync
      rcases (Sync.next_outcome m.disk answer sync).installed hsound with hsame | ⟨bytes, rfl, hnew⟩
      · exact .inl hsame
      · refine .inr ⟨bytes, h.known pid _ bytes hsync rfl, ?_⟩
        rw [hnew]
        exact hsound
    · exact .inl rfl
  | killed pid => exact .inl rfl

theorem SyncInv.kept (h : SyncInv known m) (e : SyncEvent) {i : ℕ} {c : Content UInt8}
    (hkept : m.disk.Kept newBinary i c) : (syncStep m e).disk.Kept newBinary i c := by
  cases e with
  | call pid isRoot currentExe readable =>
    rw [syncStep]
    split <;> exact hkept
  | kernel pid answer =>
    rw [syncStep]
    split
    · rename_i sync hsync
      exact (Sync.next_outcome m.disk answer sync).kept (h.sound pid sync hsync) hkept
    · exact hkept
  | killed pid => exact hkept

theorem syncStep_present (m : SyncMachine) (e : SyncEvent)
    (hpresent : (m.disk.entry installedBinary).isSome = true) :
    ((syncStep m e).disk.entry installedBinary).isSome = true := by
  cases e with
  | call pid isRoot currentExe readable =>
    rw [syncStep]
    split <;> exact hpresent
  | kernel pid answer =>
    rw [syncStep]
    split
    · exact (Sync.next_outcome m.disk answer _).present hpresent
    · exact hpresent
  | killed pid => exact hpresent

end Machine

/-- **The installed binary is never missing and never a part of one.**  However many processes
replace it, and wherever they are refused, cut short or killed: once there, it stays there; and if
no process opens the temporary file while another holds it, then it is what it was, or all of an
executable that one of them read, with its permissions, and no inode that was ever installed, which
a process may be executing, is written again.  The disk has no hard links: no inode has two names. -/
theorem installed_whole (disk : Filesystem) (events : List SyncEvent) :
    let start := SyncMachine.start disk
    let after := run syncStep start events
    ((disk.entry installedBinary).isSome = true →
      (after.disk.entry installedBinary).isSome = true) ∧
    (StepsMeet OneAtATime syncStep start events →
      (after.disk.look installedBinary = disk.look installedBinary ∨
        ∃ v ∈ visits syncStep start events, ∃ bytes, Reads v.1 bytes v.2 ∧
          after.disk.look installedBinary = some ⟨bytes, 0o755⟩) ∧
      ∀ v ∈ visits syncStep start events, ∀ i, v.1.disk.entry installedBinary = some i →
        after.disk.content i = v.1.disk.content i) := by
  intro start after
  refine ⟨fun hpresent => run_inv (fun m : SyncMachine =>
    (m.disk.entry installedBinary).isSome = true) hpresent syncStep_present events, ?_⟩
  intro hone
  obtain ⟨known, hknown⟩ : ∃ known : List UInt8 → Prop,
      known = fun bytes => ∃ v ∈ visits syncStep start events, Reads v.1 bytes v.2 := ⟨_, rfl⟩
  have hmeet : StepsMeet (fun m e => OneAtATime m e ∧ ∀ bytes, Reads m bytes e → known bytes)
      syncStep start events := by
    rw [stepsMeet_iff_visits] at hone ⊢
    intro v hv
    refine ⟨hone v hv, fun bytes hreads => ?_⟩
    rw [hknown]
    exact ⟨v, hv, hreads⟩
  have hstart : SyncInv known start := syncInv_start known disk
  have hstep : ∀ m e, SyncInv known m →
      (OneAtATime m e ∧ ∀ bytes, Reads m bytes e → known bytes) → SyncInv known (syncStep m e) :=
    fun m e hm he => hm.step e he.1 he.2
  constructor
  · have hrun := hmeet.run_inv (fun m => SyncInv known m ∧
        (m.disk.look installedBinary = disk.look installedBinary ∨
          ∃ bytes, known bytes ∧ m.disk.look installedBinary = some ⟨bytes, 0o755⟩))
      ⟨hstart, .inl rfl⟩ ?_
    · rcases hrun.2 with hsame | ⟨bytes, hbytes, hnew⟩
      · exact .inl hsame
      · rw [hknown] at hbytes
        obtain ⟨v, hv, hreads⟩ := hbytes
        exact .inr ⟨v, hv, bytes, hreads, hnew⟩
    · intro m e hm he
      refine ⟨hstep m e hm.1 he, ?_⟩
      rcases hm.1.installed e with hsame | hnew
      · rw [hsame]
        exact hm.2
      · exact .inr hnew
  · intro v hv i hi
    have hinv : SyncInv known v.1 := hmeet.visit_inv _ hstart hstep v hv
    have hkept : v.1.disk.Kept newBinary i (v.1.disk.content i) := by
      refine ⟨v.1.disk.entry_lt _ i hi, ?_, rfl⟩
      intro hnew
      exact Sync.newBinary_ne (v.1.disk.entry_inj _ _ i hi hnew)
    have hrun := hmeet.run_inv_from
      (fun m => SyncInv known m ∧ m.disk.Kept newBinary i (v.1.disk.content i))
      (fun m e hm he => ⟨hstep m e hm.1 he, hm.1.kept e hm.2⟩) hv ⟨hinv, hkept⟩
    exact hrun.2.content_eq

/-! ### A process by itself -/

def SyncEvent.pid : SyncEvent → ℕ
  | .call pid _ _ _ => pid
  | .kernel pid _ => pid
  | .killed pid => pid

/-- No other process is in the middle of a call. -/
def Alone (pid : ℕ) (m : SyncMachine) : Prop := ∀ p, p ≠ pid → m.calls p = none

theorem Alone.step {pid : ℕ} {m : SyncMachine} (h : Alone pid m) {e : SyncEvent} (he : e.pid = pid) :
    Alone pid (syncStep m e) := by
  intro p hp
  have hother : p ≠ e.pid := he ▸ hp
  cases e with
  | call q isRoot currentExe readable =>
    rw [syncStep]
    split
    · exact h p hp
    · exact (Function.update_of_ne hother ..).trans (h p hp)
  | kernel q answer =>
    rw [syncStep]
    split
    · exact (Function.update_of_ne hother ..).trans (h p hp)
    · exact h p hp
  | killed q => exact (Function.update_of_ne hother ..).trans (h p hp)

/-- **A process by itself** opens nothing that another holds. -/
theorem stepsMeet_alone (disk : Filesystem) {pid : ℕ} {events : List SyncEvent}
    (h : ∀ e ∈ events, e.pid = pid) : StepsMeet OneAtATime syncStep (.start disk) events := by
  have hpids : StepsMeet (fun _ e => e.pid = pid) syncStep (.start disk) events :=
    stepsMeet_of_forall fun e he _ => h e he
  rw [stepsMeet_iff_visits]
  intro v hv
  have halone : Alone pid v.1 :=
    hpids.visit_inv _ (fun _ _ => rfl) (fun _ _ hm he => hm.step he) v hv
  have hpid := stepsMeet_iff_visits.mp hpids v hv
  obtain ⟨m, e⟩ := v
  cases e with
  | kernel q answer =>
    intro bytes hopens p sync hsync
    have hp : p = q := by
      by_contra hne
      rw [halone p (hpid ▸ hne)] at hsync
      cases hsync
    rw [hp, hopens] at hsync
    exact not_holds_iff.mpr ⟨bytes, (Option.some.inj hsync).symm⟩
  | call q isRoot currentExe readable => trivial
  | killed q => trivial

/-- Two executables, and nothing installed. -/
def twoBinaries : Filesystem :=
  (Disk.empty.link "/a" ⟨[1, 2], 0o755⟩).link "/b" ⟨[3, 4], 0o755⟩

/-- One process that installs the first of them, taken in two writes. -/
def installingA : List SyncEvent :=
  [.call 1 true (some "/a") true, .kernel 1 (some 0o644), .kernel 1 (some 1), .kernel 1 (some 2),
    .kernel 1 (some 0), .kernel 1 (some 0)]

theorem installed_whole_alone :
    let after := run syncStep (.start twoBinaries) installingA
    after.disk.look installedBinary = some ⟨[1, 2], 0o755⟩ ∧
      ∃ v ∈ visits syncStep (.start twoBinaries) installingA, ∃ bytes, Reads v.1 bytes v.2 ∧
        after.disk.look installedBinary = some ⟨bytes, 0o755⟩ := by
  have hafter : (run syncStep (.start twoBinaries) installingA).disk.look installedBinary
      = some ⟨[1, 2], 0o755⟩ := by decide
  have hpids : ∀ e ∈ installingA, e.pid = 1 := by decide
  have hone := stepsMeet_alone twoBinaries hpids
  refine ⟨hafter, ?_⟩
  rcases ((installed_whole twoBinaries installingA).2 hone).1 with hsame | hread
  · rw [hafter] at hsame
    exact absurd hsame (by decide)
  · exact hread

-- The guard is needed: a second process truncates what the first is about to rename.
example :
    (run syncStep (.start twoBinaries)
      [.call 1 true (some "/a") true, .call 2 true (some "/b") true, .kernel 1 (some 0o644),
        .kernel 1 (some 2), .kernel 2 (some 0o644), .kernel 2 (some 1), .kernel 1 (some 0),
        .kernel 1 (some 0), .killed 2]).disk.look installedBinary = some ⟨[3], 0o755⟩ := by
  decide

end WattWarden
