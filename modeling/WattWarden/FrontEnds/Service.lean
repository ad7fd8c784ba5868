import Mathlib.Data.UInt
import WattWarden.Library.Inodes

/-!
# The installed binary

`sync_installed_binary` copies the running executable to a temporary file and renames that to the
installed one.  Any number of processes may be at it at once, and each may be killed between two
calls; what the kernel answers to a call is an input.

* `Sync.begins` — what comes before the temporary file; `Sync.next` — one call to the kernel;
* `SyncMachine` / `syncStep` — the processes that are at it, one call of one of them at a time.
-/

namespace WattWarden

open Library.Inodes

/-- `INSTALLED_BINARY`. -/
def installedBinary : String := "/usr/local/bin/wattwarden"

/-- The temporary file. -/
def newBinary : String := "/usr/local/bin/.wattwarden.new"

abbrev Filesystem := Disk String UInt8

/-- Where `sync_installed_binary` is: about to open the temporary file, to write from an offset on, to
set its permissions, to rename it, or to remove it after a failure. -/
inductive Sync where
  | opens (bytes : List UInt8)
  | writes (bytes : List UInt8) (inode offset : ℕ)
  | permits (bytes : List UInt8)
  | renames (bytes : List UInt8)
  | removes
deriving DecidableEq

namespace Sync

/-- Root only, never from the installed binary itself, and with all of the executable in memory. -/
def begins (disk : Filesystem) (isRoot : Bool) (currentExe : Option String) (readable : Bool) :
    Option Sync :=
  if !isRoot then none
  else
    match currentExe with
    | none => none
    | some exe =>
        if exe = installedBinary then none
        else if !readable then none
        else (disk.look exe).map fun c => .opens c.bytes

/-- `write_all` of `fs::write`: as long as something is left. -/
def writing (bytes : List UInt8) (inode offset : ℕ) : Sync :=
  if offset < bytes.length then .writes bytes inode offset else .permits bytes

/-- One call to the kernel.  It answers with an error, or with the mode it gives a new file, resp. how
many bytes it takes; zero of them are an error of `write_all`. -/
def next (disk : Filesystem) (answer : Option ℕ) : Sync → Filesystem × Option Sync
  | .opens bytes =>
      match answer with
      | some mode =>
          let opened := disk.create newBinary mode
          (opened.1, some (writing bytes opened.2 0))
      | none => (disk, some .removes)
  | .writes bytes inode offset =>
      match answer with
      | some (n + 1) =>
          let chunk := (bytes.drop offset).take (n + 1)
          (disk.writeAt inode offset chunk, some (writing bytes inode (offset + chunk.length)))
      | _ => (disk, some .removes)
  | .permits bytes =>
      match answer, disk.setMode newBinary 0o755 with
      | some _, some disk' => (disk', some (.renames bytes))
      | _, _ => (disk, some .removes)
  | .renames _ =>
      match answer, disk.rename newBinary installedBinary with
      | some _, some disk' => (disk', none)
      | _, _ => (disk, some .removes)
  | .removes =>
      match answer with
      | some _ => (disk.remove newBinary, none)
      | none => (disk, none)

end Sync

/-- The file system, and the call each process is in the middle of. -/
structure SyncMachine where
  disk : Filesystem
  calls : ℕ → Option Sync

def SyncMachine.start (disk : Filesystem) : SyncMachine := ⟨disk, fun _ => none⟩

inductive SyncEvent where
  | call (pid : ℕ) (isRoot : Bool) (currentExe : Option String) (readable : Bool)
  | kernel (pid : ℕ) (answer : Option ℕ)
  | killed (pid : ℕ)

def syncStep (m : SyncMachine) : SyncEvent → SyncMachine
  | .call pid isRoot currentExe readable =>
      match m.calls pid with
      | some _ => m
      | none =>
          { m with calls :=
              Function.update m.calls pid (Sync.begins m.disk isRoot currentExe readable) }
  | .kernel pid answer =>
      match m.calls pid with
      | some sync =>
          let x := sync.next m.disk answer
          ⟨x.1, Function.update m.calls pid x.2⟩
      | none => m
  | .killed pid => { m with calls := Function.update m.calls pid none }

end WattWarden
