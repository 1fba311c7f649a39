import StorageManager.Fingerprint
import StorageManager.Lib.Journaled

/-!
# Privileged programs and their spawning

The closed list of programs a privileged layer may start, the identity of a trusted
executable, and the spawning of one pinned descriptor. Everything up to the fork is
one call of the surroundings, the fork and the wait for the child are another.
-/

namespace StorageManager.Executor

open Lib.Effects Lib.Journaled Lib.RecordFile Lib.WriteAhead
open Lib.Json (Value ToJson toJson)

set_option autoImplicit false

inductive PrivilegedProgram where
  | sfdisk | vgcfgbackup | e2fsck | xfsScrub | lsblk | findmnt | blkid | partprobe | udevadm
  | pvs | vgs | lvs | pvcreate | vgcreate | vgextend | lvcreate | umount | tune2fs | xfsInfo
  | xfsSpaceman | xfsRepair | cryptsetup | mdadm | btrfs | multipath | zpool | zfs | partx
  | pvresize | lvextend | resize2fs | xfsGrowfs | mkswap | swapon | swapoff | mount | mkfsExt4
  | mkfsXfs
  deriving DecidableEq

def PrivilegedProgram.asStr : PrivilegedProgram → String
  | .sfdisk => "sfdisk"
  | .vgcfgbackup => "vgcfgbackup"
  | .e2fsck => "e2fsck"
  | .xfsScrub => "xfs_scrub"
  | .lsblk => "lsblk"
  | .findmnt => "findmnt"
  | .blkid => "blkid"
  | .partprobe => "partprobe"
  | .udevadm => "udevadm"
  | .pvs => "pvs"
  | .vgs => "vgs"
  | .lvs => "lvs"
  | .pvcreate => "pvcreate"
  | .vgcreate => "vgcreate"
  | .vgextend => "vgextend"
  | .lvcreate => "lvcreate"
  | .umount => "umount"
  | .tune2fs => "tune2fs"
  | .xfsInfo => "xfs_info"
  | .xfsSpaceman => "xfs_spaceman"
  | .xfsRepair => "xfs_repair"
  | .cryptsetup => "cryptsetup"
  | .mdadm => "mdadm"
  | .btrfs => "btrfs"
  | .multipath => "multipath"
  | .zpool => "zpool"
  | .zfs => "zfs"
  | .partx => "partx"
  | .pvresize => "pvresize"
  | .lvextend => "lvextend"
  | .resize2fs => "resize2fs"
  | .xfsGrowfs => "xfs_growfs"
  | .mkswap => "mkswap"
  | .swapon => "swapon"
  | .swapoff => "swapoff"
  | .mount => "mount"
  | .mkfsExt4 => "mkfs.ext4"
  | .mkfsXfs => "mkfs.xfs"

/-- The snake_case name serde writes; it is the program's name but for mkfs. -/
def PrivilegedProgram.serdeName : PrivilegedProgram → String
  | .mkfsExt4 => "mkfs_ext4"
  | .mkfsXfs => "mkfs_xfs"
  | p => p.asStr

instance : ToJson PrivilegedProgram := ⟨fun p => toJson p.serdeName⟩

structure TrustedToolIdentity where
  program : PrivilegedProgram
  requestedPath : String
  canonicalPath : String
  deviceId : Nat
  inode : Nat
  uid : Nat
  mode : Nat
  sizeBytes : Nat
  sha256 : String
  deriving DecidableEq

instance : ToJson TrustedToolIdentity where
  toJson t := .obj [("program", toJson t.program), ("requested_path", toJson t.requestedPath),
    ("canonical_path", toJson t.canonicalPath), ("device_id", toJson t.deviceId),
    ("inode", toJson t.inode), ("uid", toJson t.uid), ("mode", toJson t.mode),
    ("size_bytes", toJson t.sizeBytes), ("sha256", toJson t.sha256)]

inductive ElfClass where
  | elf32
  | elf64
  deriving DecidableEq

instance : ToJson ElfClass := ⟨fun | .elf32 => toJson "elf32" | .elf64 => toJson "elf64"⟩

inductive ElfDataEncoding where
  | littleEndian
  | bigEndian
  deriving DecidableEq

instance : ToJson ElfDataEncoding :=
  ⟨fun | .littleEndian => toJson "little_endian" | .bigEndian => toJson "big_endian"⟩

structure ElfExecutionIdentity where
  elfClass : ElfClass
  dataEncoding : ElfDataEncoding
  version : Nat
  deriving DecidableEq

instance : ToJson ElfExecutionIdentity where
  toJson e := .obj [("class", toJson e.elfClass), ("data_encoding", toJson e.dataEncoding),
    ("version", toJson e.version)]

structure DescriptorExecOutcome where
  exitCode : Int
  stdout : List UInt8
  stderr : List UInt8
  stdoutTruncated : Bool
  stderrTruncated : Bool
  deriving DecidableEq

inductive PrivilegedDescriptorExecError where
  | permitIntegrityMismatch
  | launchIntegrityMismatch
  | pinIntegrityMismatch
  | bindingMismatch
  | stdinBindingMismatch
  | kernelRefreshBindingMismatch
  | productionMutationDisabled
  | embeddedNul
  | childSignaled
  | io (source : String)
  deriving DecidableEq

/-- What one spawn hands to the kernel: the pinned descriptor, its argv, the two
environment variables, and the bytes of its standard input. -/
structure DescriptorStage (τ : Type) where
  file : τ
  program : PrivilegedProgram
  argv : List String
  fixedPath : String
  fixedLocale : String
  stdinPayload : Option String

/-- `CString::new` on every argument and variable. -/
def DescriptorStage.hasNul {τ : Type} (d : DescriptorStage τ) : Bool :=
  (d.argv ++ [d.fixedPath, d.fixedLocale]).any fun s => s.toList.contains '\x00'

/-- `execute_descriptor_stage`: nothing is spawned before the argv matches its program,
no argument has an embedded NUL, and the pipes exist. -/
def executeDescriptorStage {I : Interface} {μ ε τ : Type}
    (pipes : Proc I μ ε (Except String Unit))
    (spawn : DescriptorStage τ →
      Proc I μ ε (Except PrivilegedDescriptorExecError DescriptorExecOutcome))
    (d : DescriptorStage τ) :
    Proc I μ ε (Except PrivilegedDescriptorExecError DescriptorExecOutcome) :=
  if d.argv.head? ≠ some d.program.asStr then pure (.error .bindingMismatch)
  else if d.hasNul then pure (.error .embeddedNul)
  else do
    match ← pipes with
    | .error source => pure (.error (.io source))
    | .ok () => spawn d

/-- A stage whose spawn is an action: when the action is ready, the stage performs at
most it. -/
theorem executeDescriptorStage_holds {ρ τ μ ε : Type} {E : Env} {J : Journal ρ E} {a : J.Act}
    {r : ρ} {m : μ} {s : St (interface ρ E)} {d : DescriptorStage τ}
    {pipes : FileProc ρ E μ ε (Except String Unit)}
    {spawn : DescriptorStage τ →
      FileProc ρ E μ ε (Except PrivilegedDescriptorExecError DescriptorExecOutcome)}
    (h : Ready J a r s)
    (hpipes : pipes.Holds m s (fun _ m' t => m' = m ∧ Silent J.toDiscipline s t)
      (fun _ _ _ => False) (Silent J.toDiscipline s))
    (hspawn : ∀ t, Ready J a r t → (spawn d).Holds m t
      (fun _ m' u => m' = m ∧ Lawful J u ∧ Performs J a t u) (fun _ _ _ => False) (Lawful J)) :
    (executeDescriptorStage pipes spawn d).Holds m s
      (fun _ m' t => m' = m ∧ Lawful J t ∧ Performs J a s t) (fun _ _ _ => False) (Lawful J) := by
  have same : Performs J a s s := .of_silent (refl_of _ s)
  unfold executeDescriptorStage
  split
  · exact ⟨rfl, h.law, same⟩
  split
  · exact ⟨rfl, h.law, same⟩
  refine Proc.holds_bind.mpr (hpipes.mono ?_ (fun _ _ _ h => h) fun t ht => h.law.silent ht)
  rintro answer m' t ⟨rfl, ht⟩
  cases answer with
  | error source => exact ⟨rfl, h.law.silent ht, .of_silent ht⟩
  | ok _ =>
    refine (hspawn t (h.silent ht)).mono ?_ (fun _ _ _ h => h) fun _ h => h
    rintro _ m'' u ⟨rfl, hl, hu⟩
    exact ⟨rfl, hl, hu.after ht⟩

end StorageManager.Executor
