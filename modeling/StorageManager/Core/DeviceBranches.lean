import StorageManager.Core.DeviceTree
import Mathlib.Data.List.Nodup
import Mathlib.Data.List.Perm.Basic

/-!
# The branches of the device tree

A branch is a device with the devices from the root of its tree down to it. A branch does not
tell where its root stands among the roots, and no two nodes have one place: whatever is found
by the place of a node is found whatever the order of the roots is.
-/

namespace StorageManager.Core

set_option autoImplicit false

/-- A device, and the devices from its root to it. -/
structure Branch where
  device : BlockDevice
  path : List BlockDevice

/-- A branch at its place. -/
structure Located where
  place : List Nat
  branch : Branch

def Branch.below (d : BlockDevice) (b : Branch) : Branch := { b with path := d :: b.path }

def Located.below (d : BlockDevice) (l : Located) : Located := { l with branch := l.branch.below d }

def Located.node (l : Located) : Node := ⟨l.place, l.branch.device⟩

def Branch.visit (_ : List Nat) (d : BlockDevice) (children : List (List Branch)) : List Branch :=
  ⟨d, [d]⟩ :: children.flatten.map (·.below d)

def Located.visit (place : List Nat) (d : BlockDevice) (children : List (List Located)) :
    List Located :=
  ⟨place, ⟨d, [d]⟩⟩ :: children.flatten.map (·.below d)

def located (devices : List BlockDevice) : List Located :=
  (BlockDevice.foldAll Located.visit [] 0 devices).flatten

/-- The branches of every tree. -/
def branches (devices : List BlockDevice) : List Branch :=
  devices.flatMap (·.foldAt Branch.visit [])

section Folds

variable {α : Type}

mutual

/-- A fold that does not look at the place is the same at each. -/
theorem BlockDevice.foldAt_placeless {f : List Nat → BlockDevice → List α → α}
    (h : ∀ p q d as, f p d as = f q d as) (p q : List Nat) :
    ∀ d : BlockDevice, d.foldAt f p = d.foldAt f q
  | ⟨_, _, _, _, _, _, _, _, _, _, _, _, _, _, _, children⟩ => by
    unfold BlockDevice.foldAt
    rw [h p q, BlockDevice.foldAll_placeless h p 0 children,
      BlockDevice.foldAll_placeless h q 0 children]

theorem BlockDevice.foldAll_placeless {f : List Nat → BlockDevice → List α → α}
    (h : ∀ p q d as, f p d as = f q d as) (p : List Nat) (i : Nat) :
    ∀ ds : List BlockDevice, BlockDevice.foldAll f p i ds = ds.map (·.foldAt f [])
  | [] => by
    unfold BlockDevice.foldAll
    rfl
  | d :: ds => by
    unfold BlockDevice.foldAll
    rw [List.map_cons, BlockDevice.foldAt_placeless h (p ++ [i]) [] d,
      BlockDevice.foldAll_placeless h p (i + 1) ds]

end

theorem flatten_map_of_forall₂ {β : Type} {g : α → β} {as : List (List α)} {bs : List (List β)}
    (h : List.Forall₂ (fun as bs => as.map g = bs) as bs) : as.flatten.map g = bs.flatten := by
  refine flatten_rel (R := fun as bs => as.map g = bs) rfl ?_ h
  rintro as bs as' bs' rfl rfl
  exact List.map_append

end Folds

theorem flatten_eq (devices : List BlockDevice) :
    flatten devices = (located devices).map Located.node := by
  refine (flatten_map_of_forall₂ (BlockDevice.foldAll_rel ?_ [] 0 devices)).symm
  intro place d as bs h
  unfold Located.visit Node.visit
  rw [List.map_cons, List.map_map, ← flatten_map_of_forall₂ h]
  rfl

theorem branches_eq (devices : List BlockDevice) :
    branches devices = (located devices).map Located.branch := by
  have hplaceless : BlockDevice.foldAll Branch.visit [] 0 devices =
      devices.map (·.foldAt Branch.visit []) :=
    BlockDevice.foldAll_placeless (fun _ _ _ _ => rfl) [] 0 devices
  unfold branches
  rw [List.flatMap_def, ← hplaceless]
  refine (flatten_map_of_forall₂ (BlockDevice.foldAll_rel ?_ [] 0 devices)).symm
  intro place d as bs h
  unfold Located.visit Branch.visit
  rw [List.map_cons, List.map_map, ← flatten_map_of_forall₂ h, List.map_map]
  rfl

section Places

theorem Located.below_place (d : BlockDevice) (ls : List Located) :
    (ls.map (Located.below d)).map (·.place) = ls.map (·.place) := by
  rw [List.map_map]
  rfl

theorem BlockDevice.foldAt_located (place : List Nat) (d : BlockDevice) :
    d.foldAt Located.visit place = ⟨place, ⟨d, [d]⟩⟩ ::
      (BlockDevice.foldAll Located.visit place 0 d.children).flatten.map (Located.below d) :=
  BlockDevice.foldAt_eq _ _ _

/-- The places of a tree are its own and those below it. -/
theorem BlockDevice.places_of_children {place : List Nat} {d : BlockDevice}
    (hbelow : ∀ l ∈ (BlockDevice.foldAll Located.visit place 0 d.children).flatten,
      ∃ j rest, 0 ≤ j ∧ l.place = place ++ j :: rest)
    (hnodup : ((BlockDevice.foldAll Located.visit place 0 d.children).flatten.map
      (·.place)).Nodup) :
    (∀ l ∈ d.foldAt Located.visit place, place <+: l.place) ∧
      ((d.foldAt Located.visit place).map (·.place)).Nodup := by
  rw [BlockDevice.foldAt_located]
  constructor
  · intro l hl
    rcases List.mem_cons.mp hl with rfl | hl
    · exact List.prefix_rfl
    · obtain ⟨child, hchild, rfl⟩ := List.mem_map.mp hl
      obtain ⟨j, rest, -, hplace⟩ := hbelow child hchild
      exact ⟨j :: rest, hplace.symm⟩
  · rw [List.map_cons, Located.below_place, List.nodup_cons]
    refine ⟨fun hmem => ?_, hnodup⟩
    obtain ⟨l, hl, hsame⟩ := List.mem_map.mp hmem
    obtain ⟨j, rest, -, hplace⟩ := hbelow l hl
    have hlength := congrArg List.length (hplace.symm.trans hsame)
    simp only [List.length_append, List.length_cons] at hlength
    omega

mutual

theorem BlockDevice.places_at (place : List Nat) : ∀ d : BlockDevice,
    (∀ l ∈ d.foldAt Located.visit place, place <+: l.place) ∧
      ((d.foldAt Located.visit place).map (·.place)).Nodup
  | ⟨_, _, _, _, _, _, _, _, _, _, _, _, _, _, _, children⟩ => by
    obtain ⟨hbelow, hnodup⟩ := BlockDevice.places_all place 0 children
    exact BlockDevice.places_of_children hbelow hnodup

/-- The places below one place begin with it and the position of a child. -/
theorem BlockDevice.places_all (place : List Nat) (i : Nat) : ∀ ds : List BlockDevice,
    (∀ l ∈ (BlockDevice.foldAll Located.visit place i ds).flatten,
      ∃ j rest, i ≤ j ∧ l.place = place ++ j :: rest) ∧
      ((BlockDevice.foldAll Located.visit place i ds).flatten.map (·.place)).Nodup
  | [] => by
    unfold BlockDevice.foldAll
    exact ⟨nofun, List.nodup_nil⟩
  | d :: ds => by
    obtain ⟨hhead, hheadNodup⟩ := BlockDevice.places_at (place ++ [i]) d
    obtain ⟨htail, htailNodup⟩ := BlockDevice.places_all place (i + 1) ds
    have hbegins : ∀ l ∈ d.foldAt Located.visit (place ++ [i]),
        ∃ rest, l.place = place ++ i :: rest := by
      intro l hl
      obtain ⟨rest, hrest⟩ := hhead l hl
      exact ⟨rest, by rw [← hrest, List.append_assoc]; rfl⟩
    unfold BlockDevice.foldAll
    rw [List.flatten_cons]
    constructor
    · intro l hl
      rcases List.mem_append.mp hl with hl | hl
      · obtain ⟨rest, hplace⟩ := hbegins l hl
        exact ⟨i, rest, Nat.le_refl i, hplace⟩
      · obtain ⟨j, rest, hj, hplace⟩ := htail l hl
        exact ⟨j, rest, by omega, hplace⟩
    · rw [List.map_append]
      refine hheadNodup.append htailNodup ?_
      intro p hp hp'
      obtain ⟨l, hl, rfl⟩ := List.mem_map.mp hp
      obtain ⟨l', hl', hsame⟩ := List.mem_map.mp hp'
      obtain ⟨rest, hplace⟩ := hbegins l hl
      obtain ⟨j, rest', hj, hplace'⟩ := htail l' hl'
      have hposition := List.append_cancel_left (hplace'.symm.trans (hsame.trans hplace))
      have hequal := (List.cons.inj hposition).1
      omega

end

theorem places_nodup (devices : List BlockDevice) :
    ((located devices).map (·.place)).Nodup :=
  (BlockDevice.places_all [] 0 devices).2

/-- No two nodes have one place. -/
theorem located_unique {devices : List BlockDevice} {l l' : Located} (hl : l ∈ located devices)
    (hl' : l' ∈ located devices) (h : l.place = l'.place) : l = l' :=
  List.inj_on_of_nodup_map (places_nodup devices) hl hl' h

theorem flatten_nodup (devices : List BlockDevice) : (flatten devices).Nodup := by
  rw [flatten_eq]
  refine List.Nodup.of_map Node.place ?_
  rw [List.map_map]
  exact places_nodup devices

theorem node_unique {devices : List BlockDevice} {n n' : Node} (hn : n ∈ flatten devices)
    (hn' : n' ∈ flatten devices) (h : n.place = n'.place) : n = n' := by
  rw [flatten_eq] at hn hn'
  obtain ⟨l, hl, rfl⟩ := List.mem_map.mp hn
  obtain ⟨l', hl', rfl⟩ := List.mem_map.mp hn'
  rw [located_unique hl hl' h]

end Places

section Paths

/-- The first of the children that has the target is where the path goes on. -/
theorem findSome?_flatten {target : List Nat} {as : List (Option (List BlockDevice))}
    {bs : List (List Located)} (h : List.Forall₂ (fun path ls =>
      path = (ls.find? (·.place = target)).map (·.branch.path)) as bs) :
    as.findSome? id = (bs.flatten.find? (·.place = target)).map (·.branch.path) := by
  induction h with
  | nil => rfl
  | @cons a b as bs hhead _ ih =>
    rw [List.findSome?_cons, List.flatten_cons, List.find?_append, hhead, ih]
    cases b.find? (·.place = target) <;> rfl

theorem findPath_eq (devices : List BlockDevice) (target : Node) : findPath devices target =
    ((located devices).find? (·.place = target.place)).map (·.branch.path) := by
  unfold findPath located
  refine findSome?_flatten (BlockDevice.foldAll_rel ?_ [] 0 devices)
  intro place d as bs h
  unfold Located.visit
  rw [List.find?_cons]
  by_cases hplace : place = target.place
  · rw [if_pos hplace, decide_eq_true hplace]
    rfl
  · rw [if_neg hplace, decide_eq_false hplace, findSome?_flatten h, List.find?_map]
    simp only [Option.map_map]
    rfl

theorem findPath_located {devices : List BlockDevice} {l : Located} (h : l ∈ located devices) :
    findPath devices l.node = some l.branch.path := by
  rw [findPath_eq]
  cases hfind : (located devices).find? (·.place = l.node.place) with
  | none =>
    have hnone := List.find?_eq_none.mp hfind l h
    exact absurd (decide_eq_true rfl) hnone
  | some l' =>
    have hplace : l'.place = l.node.place := by simpa using List.find?_some hfind
    rw [located_unique (List.mem_of_find?_eq_some hfind) h hplace]
    rfl

end Paths

/-- Every branch of a list ends at its device. -/
def Branch.AllEnd (bs _other : List Branch) : Prop := ∀ b ∈ bs, b.device ∈ b.path

theorem Branch.allEnd_visit (place : List Nat) (d : BlockDevice) (as bs : List (List Branch))
    (h : List.Forall₂ Branch.AllEnd as bs) :
    Branch.AllEnd (Branch.visit place d as) (Branch.visit place d bs) := by
  have hchildren : Branch.AllEnd as.flatten bs.flatten := by
    refine flatten_rel (R := Branch.AllEnd) (fun _ hb => nomatch hb) ?_ h
    intro as bs as' bs' has has' b hb
    exact (List.mem_append.mp hb).elim (has b) (has' b)
  intro b hb
  unfold Branch.visit at hb
  rcases List.mem_cons.mp hb with rfl | hb
  · exact List.mem_singleton_self d
  · obtain ⟨child, hchild, rfl⟩ := List.mem_map.mp hb
    exact List.mem_cons_of_mem _ (hchildren child hchild)

theorem mem_path {devices : List BlockDevice} {b : Branch} (h : b ∈ branches devices) :
    b.device ∈ b.path := by
  obtain ⟨root, -, hb⟩ := List.mem_flatMap.mp h
  exact BlockDevice.foldAt_rel (R := Branch.AllEnd) Branch.allEnd_visit [] root b hb

section Order

theorem branches_append (ds ds' : List BlockDevice) :
    branches (ds ++ ds') = branches ds ++ branches ds' := List.flatMap_append

theorem branches_perm {ds ds' : List BlockDevice} (h : ds.Perm ds') :
    (branches ds).Perm (branches ds') := h.flatMap_right _

end Order

end StorageManager.Core
