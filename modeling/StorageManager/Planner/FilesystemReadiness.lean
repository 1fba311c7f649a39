import StorageManager.Planner.FilesystemPolicy
import StorageManager.Planner.IdentityStability
import StorageManager.Planner.PartitionCandidate

/-!
# A filesystem that is ready to grow

A growth is ready when the route, the mount, the tools and one record of evidence are in
order. The record is joined by the device or by the mountpoint, whichever it has.
-/

namespace StorageManager.Planner

open Core
open Lib.Checks

set_option autoImplicit false

variable {s : HostSnapshot} {capabilities : HostCapabilities} {target : String}

section Gates

variable {device : BlockDevice} {decision : FilesystemGrowthDecision} {mount : Option MountEntry}

/-- The one record that an online growth is decided by, of a mount in normal use. -/
structure OnlineGates (s : HostSnapshot) (capabilities : HostCapabilities) (device : BlockDevice)
    (fsType tool : String) (mount : MountEntry) (evidence : FilesystemPreflightEvidence) :
    Prop where
  tool : toolAvailable capabilities tool
  readWrite : mountIsNormalReadWrite mount
  matched : s.filesystemPreflight.filter (fun evidence => evidence.fsType = fsType &&
    (evidence.device = device.devicePath || evidence.mountpoint = some mount.target)) = [evidence]

theorem exactEvidence_eq_some_iff {mountpoint fsType : String}
    {evidence : FilesystemPreflightEvidence} :
    exactEvidence s device (some mountpoint) fsType = some evidence ↔
      s.filesystemPreflight.filter (fun evidence => evidence.fsType = fsType &&
        (evidence.device = device.devicePath || evidence.mountpoint = some mountpoint)) =
          [evidence] := by
  unfold exactEvidence
  simp only [Option.any_some]
  split
  · rename_i found hfound
    rw [hfound]
    simp
  · rename_i hnot
    refine iff_of_false (fun h => by cases h) (fun h => hnot evidence h)

theorem decideExt4_ready (hblocked : decision.state = .blocked)
    (h : (decideExt4 s capabilities device mount decision).state = .readyOnlineGrow) :
    ∃ m evidence, mount = some m ∧
      OnlineGates s capabilities device "ext4" "resize2fs" m evidence ∧
      evidence.state = .verified := by
  unfold decideExt4 at h
  by_cases htool : toolAvailable capabilities "resize2fs" = true
  · rw [if_neg (not_not.mpr htool)] at h
    cases mount with
    | none =>
      dsimp only at h
      split at h
      · rw [FilesystemGrowthDecision.refused, hblocked] at h
        cases h
      · cases h
    | some m =>
      dsimp only at h
      by_cases hrw : mountIsNormalReadWrite m = true
      · rw [if_neg (not_not.mpr hrw)] at h
        cases hevidence : exactEvidence s device (some m.target) "ext4" with
        | none =>
          rw [hevidence] at h
          dsimp only [FilesystemGrowthDecision.refused, FilesystemGrowthDecision.wanting] at h
          rw [hblocked] at h
          cases h
        | some evidence =>
          rw [hevidence] at h
          refine ⟨m, evidence, rfl, ⟨htool, hrw, exactEvidence_eq_some_iff.mp hevidence⟩, ?_⟩
          by_contra hstate
          dsimp only at h
          unfold decideMountedExt4 at h
          rw [if_pos hstate] at h
          dsimp only [FilesystemGrowthDecision.refused, FilesystemGrowthDecision.wanting] at h
          rw [hblocked] at h
          cases h
      · rw [if_pos hrw, FilesystemGrowthDecision.refused, hblocked] at h
        cases h
  · rw [if_pos htool, FilesystemGrowthDecision.refused, hblocked] at h
    cases h

theorem decideXfs_ready (hblocked : decision.state = .blocked)
    (h : (decideXfs s capabilities device mount decision).state = .readyOnlineGrow) :
    ∃ m evidence, mount = some m ∧
      OnlineGates s capabilities device "xfs" "xfs_growfs" m evidence := by
  unfold decideXfs at h
  by_cases htool : toolAvailable capabilities "xfs_growfs" = true
  · rw [if_neg (not_not.mpr htool)] at h
    cases mount with
    | none => cases h
    | some m =>
      dsimp only at h
      by_cases hrw : mountIsNormalReadWrite m = true
      · rw [if_neg (not_not.mpr hrw)] at h
        cases hevidence : exactEvidence s device (some m.target) "xfs" with
        | none =>
          rw [hevidence] at h
          dsimp only [FilesystemGrowthDecision.refused, FilesystemGrowthDecision.wanting] at h
          rw [hblocked] at h
          cases h
        | some evidence =>
          exact ⟨m, evidence, rfl, ⟨htool, hrw, exactEvidence_eq_some_iff.mp hevidence⟩⟩
      · rw [if_pos hrw, FilesystemGrowthDecision.refused, hblocked] at h
        cases h
  · rw [if_pos htool, FilesystemGrowthDecision.refused, hblocked] at h
    cases h

/-- A decision is about one target all along. -/
def SameTarget (a b : FilesystemGrowthDecision) : Prop :=
  a.device = b.device ∧ a.mountpoint = b.mountpoint ∧ a.fsType = b.fsType

theorem decideMountedExt4_sameTarget (evidence : FilesystemPreflightEvidence) :
    SameTarget (decideMountedExt4 device evidence decision) decision := by
  unfold decideMountedExt4
  dsimp only
  split
  · exact ⟨rfl, rfl, rfl⟩
  · split
    · exact ⟨rfl, rfl, rfl⟩
    · split
      · exact ⟨rfl, rfl, rfl⟩
      · exact ⟨rfl, rfl, rfl⟩

theorem decideExt4_sameTarget :
    SameTarget (decideExt4 s capabilities device mount decision) decision := by
  unfold decideExt4
  split
  · exact ⟨rfl, rfl, rfl⟩
  · split
    · split
      · exact ⟨rfl, rfl, rfl⟩
      · split
        · exact decideMountedExt4_sameTarget _
        · exact ⟨rfl, rfl, rfl⟩
    · split
      · exact ⟨rfl, rfl, rfl⟩
      · exact ⟨rfl, rfl, rfl⟩

theorem decideXfs_sameTarget :
    SameTarget (decideXfs s capabilities device mount decision) decision := by
  unfold decideXfs
  split
  · exact ⟨rfl, rfl, rfl⟩
  · split
    · exact ⟨rfl, rfl, rfl⟩
    · split
      · exact ⟨rfl, rfl, rfl⟩
      · split
        · exact ⟨rfl, rfl, rfl⟩
        · dsimp only
          split
          · exact ⟨rfl, rfl, rfl⟩
          · split
            · exact ⟨rfl, rfl, rfl⟩
            · exact ⟨rfl, rfl, rfl⟩

end Gates

section Routes

variable {b : Branch} {mountpoint : String} {mount : MountEntry}

theorem mountedFrom_eq_named {source : String} {d : BlockDevice} :
    mountedFrom s d source = named s source d := by
  unfold mountedFrom named
  rw [inventory_logicalVolumes]
  simp only [Bool.and_comm]

/-- A target that is a mountpoint is mounted from the device it is resolved to. -/
theorem mountpoint_mounted {source : String} (h : routeSource s target = (some mountpoint, .ok source))
    (hreached : reached s source = [b]) (hmount : s.mounts.filter (·.target = mountpoint) = [mount]) :
    mount.source.any (mountedFrom s b.device) := by
  have hnamed : named s source b.device = true := (mem_of_filter_eq_singleton hreached).2
  unfold routeSource at h
  split at h
  · cases h
  · split at h
    · rename_i found hfound
      have htarget : found.target = target :=
        of_decide_eq_true (mem_of_filter_eq_singleton hfound).2
      obtain ⟨hmountpoint, hsource⟩ := Prod.mk.inj h
      rw [← Option.some.inj hmountpoint, htarget, hfound] at hmount
      rw [← List.singleton_inj.mp hmount]
      rw [Lib.Checks.okOr_eq_ok_iff.mp hsource, Option.any_some, mountedFrom_eq_named]
      exact hnamed
    · cases h
    · cases h

/-- The one mount of a device is the only mount at its target, where that is unique. -/
theorem routeMount_mounted {d : BlockDevice} (h : (routeMount s d none).1 = some mountpoint)
    (hmount : s.mounts.filter (·.target = mountpoint) = [mount]) :
    mount.source.any (mountedFrom s d) := by
  unfold routeMount at h
  dsimp only at h
  split at h
  · rename_i found hfound
    have hfoundMem := mem_of_filter_eq_singleton hfound
    have hsame : found ∈ s.mounts.filter (·.target = mountpoint) :=
      List.mem_filter.mpr ⟨hfoundMem.1, decide_eq_true (Option.some.inj h)⟩
    rw [hmount] at hsame
    rw [← List.mem_singleton.mp hsame]
    exact hfoundMem.2
  · cases h
  · cases h

theorem resolvedRoute_mountpoint {node : Node} {source : Option String} :
    (resolvedRoute s target node source).mountpoint = (routeMount s node.device source).1 := by
  unfold resolvedRoute
  dsimp only
  split <;> rfl

/-- The one mount at the mountpoint of a route is of the device of the route. -/
theorem route_mounted (hvalid : ¬invalidTarget target) (hroute : OnRoute s target b)
    (hmountpoint : (analyzeLayerRoute s target).mountpoint = some mountpoint)
    (hmount : s.mounts.filter (·.target = mountpoint) = [mount]) :
    mount.source.any (mountedFrom s b.device) := by
  obtain ⟨source, hsource, hreached⟩ := hroute
  obtain ⟨node, hdevice, -, heq⟩ := analyzeLayerRoute_resolved hvalid hsource hreached
  rw [heq, resolvedRoute_mountpoint, hdevice] at hmountpoint
  cases hfirst : (routeSource s target).1 with
  | none =>
    rw [hfirst] at hmountpoint
    exact routeMount_mounted hmountpoint hmount
  | some found =>
    rw [hfirst] at hmountpoint
    obtain rfl : found = mountpoint := Option.some.inj hmountpoint
    exact mountpoint_mounted (Prod.ext hfirst hsource) hreached hmount

end Routes

section Ready

/-- What a decision for an online growth went through. -/
structure Decided (s : HostSnapshot) (capabilities : HostCapabilities) (target : String)
    (device mountpoint fsType : String) (mount : MountEntry)
    (evidence : FilesystemPreflightEvidence) : Prop where
  resolved : (analyzeLayerRoute s target).resolvedDevice = some device
  mountedAt : (analyzeLayerRoute s target).mountpoint = some mountpoint
  mounted : s.mounts.filter (·.target = mountpoint) = [mount]
  readWrite : mountIsNormalReadWrite mount
  tool : toolAvailable capabilities (Extend.growTool fsType)
  matched : s.filesystemPreflight.filter (fun evidence => evidence.fsType = fsType &&
    (evidence.device = device || evidence.mountpoint = some mountpoint)) = [evidence]
  ext4 : fsType = "ext4" → evidence.state = .verified

theorem activeMount_eq_some {route : LayerRoute} {mount : MountEntry}
    (h : activeMount s route = some mount) : route.mountpoint = some mount.target ∧
      s.mounts.filter (·.target = mount.target) = [mount] := by
  unfold activeMount at h
  obtain ⟨mountpoint, hmountpoint, h⟩ := Option.bind_eq_some_iff.mp h
  split at h
  · rename_i found hfound
    cases h
    have htarget : mount.target = mountpoint :=
      of_decide_eq_true (mem_of_filter_eq_singleton hfound).2
    rw [htarget]
    exact ⟨hmountpoint, hfound⟩
  · cases h

theorem decideFilesystemGrowth_decided
    (h : (decideFilesystemGrowth s capabilities target).state = .readyOnlineGrow) :
    ∃ device mountpoint fsType mount evidence,
      (decideFilesystemGrowth s capabilities target).device = some device ∧
      (decideFilesystemGrowth s capabilities target).mountpoint = some mountpoint ∧
      (decideFilesystemGrowth s capabilities target).fsType = some fsType ∧
      Decided s capabilities target device mountpoint fsType mount evidence := by
  unfold decideFilesystemGrowth at h ⊢
  dsimp only at h ⊢
  by_cases hblocked : (analyzeLayerRoute s target).status = .blocked
  · rw [if_pos hblocked] at h
    cases h
  · rw [if_neg hblocked] at h ⊢
    cases hresolved : (analyzeLayerRoute s target).resolvedDevice with
    | none =>
      rw [hresolved] at h
      cases h
    | some device =>
      rw [hresolved] at h
      dsimp only at h ⊢
      cases hfind : (flatten s.storage.blockDevices).find? (·.device.devicePath = device) with
      | none =>
        rw [hfind] at h
        cases h
      | some node =>
        rw [hfind] at h
        dsimp only at h ⊢
        have hpath : node.device.devicePath = device := by simpa using List.find?_some hfind
        cases hfilesystem : node.device.filesystem with
        | none =>
          rw [hfilesystem] at h
          cases h
        | some filesystem =>
          rw [hfilesystem] at h
          dsimp only at h ⊢
          by_cases hdiagnostic : hasTargetErrorDiagnostic s (analyzeLayerRoute s target) = true
          · rw [if_pos hdiagnostic] at h
            cases h
          · rw [if_neg hdiagnostic] at h ⊢
            by_cases hext4 : filesystem.fsType = "ext4"
            · rw [if_pos hext4] at h ⊢
              obtain ⟨mount, evidence, hmount, gates, hstate⟩ := decideExt4_ready rfl h
              obtain ⟨hdevice, hmountpoint, hfsType⟩ := @decideExt4_sameTarget s capabilities
                node.device _ (activeMount s (analyzeLayerRoute s target))
              obtain ⟨hroute, hmounted⟩ := activeMount_eq_some hmount
              refine ⟨device, mount.target, "ext4", mount, evidence, hdevice, hmountpoint.trans hroute,
                hfsType.trans (congrArg some hext4), hresolved, hroute, hmounted, gates.readWrite,
                gates.tool, hpath ▸ gates.matched, fun _ => hstate⟩
            · rw [if_neg hext4] at h ⊢
              by_cases hxfs : filesystem.fsType = "xfs"
              · rw [if_pos hxfs] at h ⊢
                obtain ⟨mount, evidence, hmount, gates⟩ := decideXfs_ready rfl h
                obtain ⟨hdevice, hmountpoint, hfsType⟩ := @decideXfs_sameTarget s capabilities
                  node.device _ (activeMount s (analyzeLayerRoute s target))
                obtain ⟨hroute, hmounted⟩ := activeMount_eq_some hmount
                refine ⟨device, mount.target, "xfs", mount, evidence, hdevice,
                  hmountpoint.trans hroute, hfsType.trans (congrArg some hxfs), hresolved, hroute,
                  hmounted, gates.readWrite, gates.tool, hpath ▸ gates.matched, nofun⟩
              · rw [if_neg hxfs] at h
                cases h

theorem not_invalid_of_resolved {device : String}
    (h : (analyzeLayerRoute s target).resolvedDevice = some device) : ¬invalidTarget target := by
  intro hinvalid
  unfold analyzeLayerRoute at h
  rw [if_pos hinvalid] at h
  cases h

/-- One device, its one mount in normal use, one verified record of its own filesystem, and the
tool that grows it. -/
structure Ready (s : HostSnapshot) (capabilities : HostCapabilities)
    (target device mountpoint fsType : String) : Prop where
  mounted : ∃ b mount, OnRoute s target b ∧ b.device.devicePath = device ∧
    s.mounts.filter (·.target = mountpoint) = [mount] ∧
    mount.source.any (mountedFrom s b.device) ∧ mountIsNormalReadWrite mount
  evidence : ∃ evidence, s.filesystemPreflight.filter (fun evidence =>
    evidence.fsType = fsType && evidence.device = device) = [evidence] ∧
      evidence.state = .verified
  tool : toolAvailable capabilities (Extend.growTool fsType)

/-- Every record of the filesystem's type at the mountpoint is the device's own, and every
record of the device's XFS is verified. -/
def EvidenceOwned (s : HostSnapshot) (device mountpoint fsType : String) : Prop :=
  ∀ evidence ∈ s.filesystemPreflight, evidence.fsType = fsType →
    (evidence.mountpoint = some mountpoint → evidence.device = device) ∧
      (fsType ≠ "ext4" → evidence.device = device → evidence.state = .verified)

/-- Where every record at the mountpoint is the device's, the records of either are those of the
device. -/
theorem filter_owned {device mountpoint fsType : String}
    (h : EvidenceOwned s device mountpoint fsType) :
    s.filesystemPreflight.filter (fun evidence => evidence.fsType = fsType &&
      (evidence.device = device || evidence.mountpoint = some mountpoint)) =
    s.filesystemPreflight.filter (fun evidence =>
      evidence.fsType = fsType && evidence.device = device) := by
  refine List.filter_congr fun evidence hmem => ?_
  by_cases hfsType : evidence.fsType = fsType
  · by_cases hmountpoint : evidence.mountpoint = some mountpoint
    · rw [decide_eq_true ((h evidence hmem hfsType).1 hmountpoint), Bool.true_or]
    · rw [decide_eq_false hmountpoint, Bool.or_false]
  · rw [decide_eq_false hfsType, Bool.false_and, Bool.false_and]

theorem Decided.ready_iff {device mountpoint fsType : String} {mount : MountEntry}
    {evidence : FilesystemPreflightEvidence}
    (h : Decided s capabilities target device mountpoint fsType mount evidence) :
    Ready s capabilities target device mountpoint fsType ↔
      EvidenceOwned s device mountpoint fsType := by
  constructor
  · intro ready other hother hfsType
    obtain ⟨own, hown, hverified⟩ := ready.evidence
    obtain ⟨hmem, howned⟩ := mem_of_filter_eq_singleton hown
    simp only [Bool.and_eq_true, decide_eq_true_eq] at howned
    -- the record of the device is the one that was matched, and so is the other
    have hsame : ∀ e ∈ s.filesystemPreflight, e.fsType = fsType →
        (e.device = device ∨ e.mountpoint = some mountpoint) → e = evidence :=
      fun e he hft hmatch => eq_of_filter_eq_singleton h.matched he (by simpa [hft] using hmatch)
    have hfound := hsame own hmem howned.1 (.inl howned.2)
    constructor
    · intro hmountpoint
      rw [hsame other hother hfsType (.inr hmountpoint), ← hfound]
      exact howned.2
    · intro _ hdevice
      rw [hsame other hother hfsType (.inl hdevice), ← hfound]
      exact hverified
  · intro howned
    obtain ⟨b, hroute, -, hdevice⟩ := onRoute_of_resolved h.resolved
    have hmatched := h.matched
    rw [filter_owned howned] at hmatched
    obtain ⟨hmem, hfits⟩ := mem_of_filter_eq_singleton hmatched
    simp only [Bool.and_eq_true, decide_eq_true_eq] at hfits
    refine ⟨⟨b, mount, hroute, hdevice, h.mounted, ?_, h.readWrite⟩, ⟨evidence, hmatched, ?_⟩, h.tool⟩
    · exact route_mounted (not_invalid_of_resolved h.resolved) hroute h.mountedAt h.mounted
    · by_cases hext4 : fsType = "ext4"
      · exact h.ext4 hext4
      · exact (howned evidence hmem hfits.1).2 hext4 hfits.2

/-- A decision for an online growth is ready exactly when the evidence is the device's own. -/
theorem decideFilesystemGrowth_ready_iff
    (h : (decideFilesystemGrowth s capabilities target).state = .readyOnlineGrow) :
    ∃ device mountpoint fsType,
      (decideFilesystemGrowth s capabilities target).device = some device ∧
      (decideFilesystemGrowth s capabilities target).mountpoint = some mountpoint ∧
      (decideFilesystemGrowth s capabilities target).fsType = some fsType ∧
      (Ready s capabilities target device mountpoint fsType ↔
        EvidenceOwned s device mountpoint fsType) := by
  obtain ⟨device, mountpoint, fsType, mount, evidence, hdevice, hmountpoint, hfsType, decided⟩ :=
    decideFilesystemGrowth_decided h
  exact ⟨device, mountpoint, fsType, hdevice, hmountpoint, hfsType, decided.ready_iff⟩

end Ready

section Samples

/-- A mounted XFS with one record of evidence. -/
def xfsHost (device : String) (state : FilesystemProbeState) : HostSnapshot :=
  { sampleHost [sampleDisk "xfs"]
      [{ source := some "/dev/sda1", target := "/a", fsType := some "xfs", options := ["rw"] }] none
    with filesystemPreflight :=
      [{ device, mountpoint := some "/a", fsType := "xfs", fsVersion := none, state,
         filesystemState := none, revision := none, features := [], blockSizeBytes := none,
         blockCount := none, sizeBytes := none, growCheckPassed := some true, detail := none }] }

def xfsTools : HostCapabilities := ⟨[⟨"xfs_growfs", true⟩, ⟨"xfs_scrub", true⟩]⟩

theorem decideFilesystemGrowth_ready_of_own :
    ∃ device mountpoint fsType,
      (decideFilesystemGrowth (xfsHost "/dev/sda1" .verified) xfsTools "/a").device =
        some device ∧
      (decideFilesystemGrowth (xfsHost "/dev/sda1" .verified) xfsTools "/a").mountpoint =
        some mountpoint ∧
      (decideFilesystemGrowth (xfsHost "/dev/sda1" .verified) xfsTools "/a").fsType =
        some fsType ∧
      (Ready (xfsHost "/dev/sda1" .verified) xfsTools "/a" device mountpoint fsType ↔
        EvidenceOwned (xfsHost "/dev/sda1" .verified) device mountpoint fsType) :=
  decideFilesystemGrowth_ready_iff (by decide +kernel)

/-- An XFS is ready on a record that was read only in part, and on the record of another device
at the same mountpoint. -/
theorem ready_without_own_evidence :
    ((decideFilesystemGrowth (xfsHost "/dev/sda1" .partiallyRead) xfsTools "/a").state =
        .readyOnlineGrow ∧
      ¬Ready (xfsHost "/dev/sda1" .partiallyRead) xfsTools "/a" "/dev/sda1" "/a" "xfs") ∧
    (decideFilesystemGrowth (xfsHost "/dev/sdb1" .verified) xfsTools "/a").state =
        .readyOnlineGrow ∧
      (decideFilesystemGrowth (xfsHost "/dev/sdb1" .verified) xfsTools "/a").device =
        some "/dev/sda1" ∧
      ¬Ready (xfsHost "/dev/sdb1" .verified) xfsTools "/a" "/dev/sda1" "/a" "xfs" := by
  refine ⟨⟨by decide +kernel, fun ready => ?_⟩, by decide +kernel, by decide +kernel, fun ready => ?_⟩
  · obtain ⟨evidence, hevidence, hverified⟩ := ready.evidence
    have hstate := (mem_of_filter_eq_singleton hevidence).1
    rw [List.mem_singleton.mp hstate] at hverified
    cases hverified
  · obtain ⟨evidence, hevidence, -⟩ := ready.evidence
    have hdevice := (mem_of_filter_eq_singleton hevidence).2
    rw [List.mem_singleton.mp (mem_of_filter_eq_singleton hevidence).1] at hdevice
    revert hdevice
    decide +kernel

end Samples

end StorageManager.Planner
