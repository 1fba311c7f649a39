import StorageManager.Core.HostSnapshot
import Mathlib.Data.List.Forall2
import Mathlib.Data.Option.Basic

/-!
# The tree of block devices

The program walks the device tree by references and compares references. A node is
named here by its place: the position of each ancestor among its siblings, root first.
-/

namespace StorageManager.Core

set_option autoImplicit false

variable {α : Type}

mutual

/-- The fold of one device: its place, itself, and the folds of its children. -/
def BlockDevice.foldAt (f : List Nat → BlockDevice → List α → α) (place : List Nat) :
    BlockDevice → α
  | d@⟨_, _, _, _, _, _, _, _, _, _, _, _, _, _, _, children⟩ =>
    f place d (BlockDevice.foldAll f place 0 children)

def BlockDevice.foldAll (f : List Nat → BlockDevice → List α → α) (place : List Nat) (i : Nat) :
    List BlockDevice → List α
  | [] => []
  | d :: ds => d.foldAt f (place ++ [i]) :: BlockDevice.foldAll f place (i + 1) ds

end

/-- A reference to a device of the tree. -/
structure Node where
  place : List Nat
  device : BlockDevice

def Node.visit (place : List Nat) (d : BlockDevice) (children : List (List Node)) : List Node :=
  ⟨place, d⟩ :: children.flatten

/-- Every device of the forest, each before its children. -/
def flatten (devices : List BlockDevice) : List Node :=
  (BlockDevice.foldAll Node.visit [] 0 devices).flatten

def BlockDevice.devicePath (d : BlockDevice) : String := d.path.getD d.name

/-- The device is known by this path, or by this kernel name under `/dev`. -/
def BlockDevice.nodeAlias (d : BlockDevice) (name : String) : Bool :=
  d.path == some name || d.kernelName.any fun n => s!"/dev/{n}" == name

/-- `str::replace('-', "--")`, as the device mapper escapes names. -/
def mapperName (name : String) : String :=
  String.ofList (name.toList.flatMap fun c => if c = '-' then ['-', '-'] else [c])

def LvmLogicalVolume.lvAlias (lv : LvmLogicalVolume) (name : String) : Bool :=
  lv.path == some name || s!"/dev/{lv.vgName}/{lv.name}" == name ||
    s!"/dev/mapper/{mapperName lv.vgName}-{mapperName lv.name}" == name

def LvmLogicalVolume.lvDevice (lv : LvmLogicalVolume) (d : BlockDevice) : Bool :=
  d.path.any lv.lvAlias

/-- The devices from the root to one node, found by descending. -/
def findPath (devices : List BlockDevice) (target : Node) : Option (List BlockDevice) :=
  (BlockDevice.foldAll (fun place d (children : List (Option (List BlockDevice))) =>
    if place = target.place then some [d] else (children.findSome? id).map (d :: ·)) [] 0
    devices).findSome? id

/-- The target stands somewhere below the parent. -/
def containsDevice (parent target : Node) : Bool :=
  (BlockDevice.foldAll (fun place _ (children : List Bool) =>
    place = target.place || children.any id) parent.place 0 parent.device.children).any id

def NodeKind.isPlain (kind : NodeKind) : Bool :=
  kind = .disk || kind = .partition || kind = .loop

/-- The target is reached through disks, partitions and loop devices only. -/
def supportedChain (devices : List BlockDevice) (target : Node) (safe : Bool) : Bool :=
  (BlockDevice.foldAll (fun place d (children : List (Bool → Bool)) safe =>
    if place = target.place then safe else children.any fun child => child (safe && d.kind.isPlain))
    [] 0 devices).any fun device => device safe

section Folds

variable {β : Type} {f : List Nat → BlockDevice → List α → α} {g : List Nat → BlockDevice → List β → β}

theorem BlockDevice.foldAt_eq (f : List Nat → BlockDevice → List α → α) (place : List Nat)
    (d : BlockDevice) : d.foldAt f place = f place d (BlockDevice.foldAll f place 0 d.children) := by
  cases d
  rw [BlockDevice.foldAt]

mutual

/-- Two folds are related when their steps keep the relation. -/
theorem BlockDevice.foldAt_rel {R : α → β → Prop}
    (h : ∀ place d as bs, List.Forall₂ R as bs → R (f place d as) (g place d bs))
    (place : List Nat) : ∀ d : BlockDevice, R (d.foldAt f place) (d.foldAt g place)
  | ⟨_, _, _, _, _, _, _, _, _, _, _, _, _, _, _, children⟩ => by
    unfold BlockDevice.foldAt
    exact h _ _ _ _ (BlockDevice.foldAll_rel h place 0 children)

theorem BlockDevice.foldAll_rel {R : α → β → Prop}
    (h : ∀ place d as bs, List.Forall₂ R as bs → R (f place d as) (g place d bs))
    (place : List Nat) (i : Nat) : ∀ ds : List BlockDevice,
    List.Forall₂ R (BlockDevice.foldAll f place i ds) (BlockDevice.foldAll g place i ds)
  | [] => by
    unfold BlockDevice.foldAll
    exact .nil
  | d :: ds => by
    unfold BlockDevice.foldAll
    exact .cons (BlockDevice.foldAt_rel h (place ++ [i]) d)
      (BlockDevice.foldAll_rel h place (i + 1) ds)

end

/-- Lists related piece by piece to the pieces of another, by a function that goes through
appending. -/
theorem flatten_rel {R : List α → List β → Prop} (hnil : R [] [])
    (happend : ∀ as bs as' bs', R as bs → R as' bs' → R (as ++ as') (bs ++ bs'))
    {as : List (List α)} {bs : List (List β)} (h : List.Forall₂ R as bs) :
    R as.flatten bs.flatten := by
  induction h with
  | nil => exact hnil
  | cons hhead _ ih => exact happend _ _ _ _ hhead ih

end Folds

section Children

theorem siblings_sublist (place : List Nat) (i : Nat) (ds : List BlockDevice) :
    ds.Sublist ((BlockDevice.foldAll Node.visit place i ds).flatten.map (·.device)) := by
  induction ds generalizing i with
  | nil => exact List.nil_sublist _
  | cons d ds ih =>
    unfold BlockDevice.foldAll
    rw [BlockDevice.foldAt_eq, List.flatten_cons, List.map_append]
    exact ((ih (i + 1)).trans (List.sublist_append_right _ _)).cons_cons d

mutual

theorem BlockDevice.children_at (place : List Nat) : ∀ d : BlockDevice,
    ∀ n ∈ d.foldAt Node.visit place,
      n.device.children.Sublist ((d.foldAt Node.visit place).map (·.device))
  | ⟨_, _, _, _, _, _, _, _, _, _, _, _, _, _, _, children⟩ => by
    unfold BlockDevice.foldAt
    intro n hn
    rcases List.mem_cons.mp hn with rfl | hn
    · exact (siblings_sublist place 0 children).cons _
    · exact (BlockDevice.children_all place 0 children n hn).cons _

theorem BlockDevice.children_all (place : List Nat) (i : Nat) : ∀ ds : List BlockDevice,
    ∀ n ∈ (BlockDevice.foldAll Node.visit place i ds).flatten,
      n.device.children.Sublist
        ((BlockDevice.foldAll Node.visit place i ds).flatten.map (·.device))
  | [] => by
    unfold BlockDevice.foldAll
    exact nofun
  | d :: ds => by
    unfold BlockDevice.foldAll
    intro n hn
    rw [List.flatten_cons, List.map_append]
    rcases List.mem_append.mp hn with hn | hn
    · exact (BlockDevice.children_at (place ++ [i]) d n hn).trans (List.sublist_append_left _ _)
    · exact (BlockDevice.children_all place (i + 1) ds n hn).trans (List.sublist_append_right _ _)

end

/-- The children of a device stand in the forest in their order. -/
theorem children_sublist {devices : List BlockDevice} {n : Node} (hn : n ∈ flatten devices) :
    n.device.children.Sublist ((flatten devices).map (·.device)) :=
  BlockDevice.children_all [] 0 devices n hn

end Children

end StorageManager.Core
