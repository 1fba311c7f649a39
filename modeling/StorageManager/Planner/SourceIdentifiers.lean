import StorageManager.Planner.Provisioning

/-!
# What an identifier tells

The identifier of an opportunity is the digest of a text of its fields, separated by bars.
For the fields that a listing writes the text tells all of them, whatever the names of the
groups and the paths of the disks are.
-/

namespace StorageManager.Planner.Provisioning

set_option autoImplicit false

section Separated

variable {α : Type} {c : α} {u u' v v' : List α}

/-- What stands before the first separator is determined. -/
theorem split_first (hu : c ∉ u) (hu' : c ∉ u') (h : u ++ c :: v = u' ++ c :: v') :
    u = u' ∧ v = v' := by
  induction u generalizing u' with
  | nil =>
    cases u' with
    | nil => exact ⟨rfl, (List.cons.inj h).2⟩
    | cons a u' => exact absurd ((List.cons.inj h).1 ▸ List.mem_cons_self) hu'
  | cons a u ih =>
    cases u' with
    | nil => exact absurd ((List.cons.inj h).1 ▸ List.mem_cons_self) hu
    | cons b u' =>
      obtain ⟨rfl, htail⟩ := List.cons.inj h
      obtain ⟨rfl, hrest⟩ := ih (fun hmem => hu (List.mem_cons_of_mem _ hmem))
        (fun hmem => hu' (List.mem_cons_of_mem _ hmem)) htail
      exact ⟨rfl, hrest⟩

/-- What stands behind the last separator is determined. -/
theorem split_last (hv : c ∉ v) (hv' : c ∉ v') (h : u ++ c :: v = u' ++ c :: v') :
    u = u' ∧ v = v' := by
  have hrev := congrArg List.reverse h
  simp only [List.reverse_append, List.reverse_cons, List.append_assoc, List.singleton_append]
    at hrev
  obtain ⟨hlast, hfirst⟩ := split_first (fun hmem => hv (List.mem_reverse.mp hmem))
    (fun hmem => hv' (List.mem_reverse.mp hmem)) hrev
  exact ⟨List.reverse_injective hfirst, List.reverse_injective hlast⟩

/-- A word that stands twice in a text is told by the text. -/
theorem twice_inj {before between behind x y : List α}
    (h : before ++ x ++ between ++ x ++ behind = before ++ y ++ between ++ y ++ behind) :
    x = y := by
  have hlength := congrArg List.length h
  simp only [List.length_append] at hlength
  simp only [List.append_assoc] at h
  exact (List.append_inj (List.append_cancel_left h) (by omega)).1

end Separated

/-- The digits of a number, or a dash. -/
def numberText (n : Option Nat) : List Char := ((n.map toString).getD "-").toList

theorem numberText_some (n : Nat) : numberText (some n) = Nat.toDigits 10 n := Nat.toList_repr

theorem isDigit_numberText {n : Nat} {c : Char} (h : c ∈ numberText (some n)) :
    c.isDigit = true := by
  rw [numberText_some] at h
  exact Nat.isDigit_of_mem_toDigits (by decide) (by decide) h

theorem bar_notMem_numberText (n : Option Nat) : '|' ∉ numberText n := by
  cases n with
  | none => decide
  | some n => exact fun h => absurd (isDigit_numberText h) (by decide)

theorem numberText_inj {m n : Option Nat} (h : numberText m = numberText n) : m = n := by
  have hdash : ∀ k, numberText (some k) ≠ numberText none := by
    intro k hk
    have hmem : '-' ∈ numberText (some k) := by
      rw [hk]
      decide
    exact absurd (isDigit_numberText hmem) (by decide)
  cases m with
  | none =>
    cases n with
    | none => rfl
    | some n => exact absurd h.symm (hdash n)
  | some m =>
    cases n with
    | none => exact absurd h (hdash m)
    | some n =>
      rw [numberText_some, numberText_some] at h
      rw [← Nat.ofDigitChars_ten_toDigits (n := m), h, Nat.ofDigitChars_ten_toDigits]

/-- What the identifier of an opportunity is the digest of. -/
def material (o : ProvisioningOpportunity) : String :=
  opportunityMaterial o.kind o.source o.disk o.volumeGroup o.startSector o.sectorCount

/-- The place of an opportunity: what its resolution looks up. -/
def SamePlace (a b : ProvisioningOpportunity) : Prop :=
  a.kind = b.kind ∧ a.disk = b.disk ∧ a.volumeGroup = b.volumeGroup ∧
    a.startSector = b.startSector ∧ a.sectorCount = b.sectorCount

/-- The fields of an identifier, as a listing writes them: a group names itself, a disk its
path, and a free range its path and its sectors. -/
def Written (o : ProvisioningOpportunity) : Prop :=
  match o.kind with
  | .lvmFreeExtents => ∃ name, o.source = "VG " ++ name ∧ o.disk = none ∧
      o.volumeGroup = some name ∧ o.startSector = none ∧ o.sectorCount = none
  | .blankDisk | .blockedDisk => ∃ path, o.source = path ∧ o.disk = some path ∧
      o.volumeGroup = none ∧ o.startSector = none ∧ o.sectorCount = none
  | .diskTail => ∃ path, o.source = path ++ " tail" ∧ o.disk = some path ∧ o.volumeGroup = none
  | .diskGap => ∃ path start count, o.source = path ++ " free sectors " ++ toString start ++ ".." ++
      toString (start + count - 1) ∧ o.disk = some path ∧ o.volumeGroup = none ∧
      o.startSector = some start ∧ o.sectorCount = some count

theorem debugText_inj {a b : ProvisioningSpaceKind}
    (h : a.debugText.toList = b.debugText.toList) : a = b := by
  cases a <;> cases b <;> first | rfl | exact absurd h (by decide)

theorem bar_notMem_debugText (kind : ProvisioningSpaceKind) : '|' ∉ kind.debugText.toList := by
  cases kind <;> decide

/-- The text of a material, with its last two fields apart. -/
theorem material_toList (o : ProvisioningOpportunity) : (material o).toList =
    (o.kind.debugText.toList ++ '|' :: (o.source.toList ++ '|' :: ((o.disk.getD "-").toList ++
      '|' :: (o.volumeGroup.getD "-").toList))) ++ '|' :: (numberText o.startSector) ++
        '|' :: numberText o.sectorCount := by
  unfold material opportunityMaterial numberText
  simp only [String.toList_append, show "|".toList = ['|'] from rfl, List.append_assoc,
    List.cons_append, List.nil_append]

/-- The text tells the place. -/
theorem material_inj {a b : ProvisioningOpportunity} (ha : Written a) (hb : Written b)
    (h : material a = material b) : SamePlace a b := by
  have htext := congrArg String.toList h
  rw [material_toList, material_toList] at htext
  obtain ⟨htext, hcount⟩ := split_last (bar_notMem_numberText _) (bar_notMem_numberText _) htext
  obtain ⟨htext, hstart⟩ := split_last (bar_notMem_numberText _) (bar_notMem_numberText _) htext
  obtain ⟨hkind, htext⟩ := split_first (bar_notMem_debugText _) (bar_notMem_debugText _) htext
  have hkind := debugText_inj hkind
  have hcount := numberText_inj hcount
  have hstart := numberText_inj hstart
  unfold Written at ha hb
  rw [← hkind] at hb
  refine ⟨hkind, ?_⟩
  cases hk : a.kind with
  | lvmFreeExtents =>
    rw [hk] at ha hb
    obtain ⟨name, hsource, hdisk, hvg, -⟩ := ha
    obtain ⟨name', hsource', hdisk', hvg', -⟩ := hb
    rw [hsource, hsource', hdisk, hdisk', hvg, hvg'] at htext
    have hname : name.toList = name'.toList := by
      refine @twice_inj _ "VG ".toList "|-|".toList [] _ _ ?_
      simpa using htext
    rw [hdisk, hdisk', hvg, hvg', String.toList_inj.mp hname]
    exact ⟨rfl, rfl, hstart, hcount⟩
  | blankDisk =>
    rw [hk] at ha hb
    obtain ⟨path, hsource, hdisk, hvg, -⟩ := ha
    obtain ⟨path', hsource', hdisk', hvg', -⟩ := hb
    rw [hsource, hsource', hdisk, hdisk', hvg, hvg'] at htext
    have hpath : path.toList = path'.toList := by
      refine @twice_inj _ [] "|".toList "|-".toList _ _ ?_
      simpa using htext
    rw [hdisk, hdisk', hvg, hvg', String.toList_inj.mp hpath]
    exact ⟨rfl, rfl, hstart, hcount⟩
  | blockedDisk =>
    rw [hk] at ha hb
    obtain ⟨path, hsource, hdisk, hvg, -⟩ := ha
    obtain ⟨path', hsource', hdisk', hvg', -⟩ := hb
    rw [hsource, hsource', hdisk, hdisk', hvg, hvg'] at htext
    have hpath : path.toList = path'.toList := by
      refine @twice_inj _ [] "|".toList "|-".toList _ _ ?_
      simpa using htext
    rw [hdisk, hdisk', hvg, hvg', String.toList_inj.mp hpath]
    exact ⟨rfl, rfl, hstart, hcount⟩
  | diskTail =>
    rw [hk] at ha hb
    obtain ⟨path, hsource, hdisk, hvg⟩ := ha
    obtain ⟨path', hsource', hdisk', hvg'⟩ := hb
    rw [hsource, hsource', hdisk, hdisk', hvg, hvg'] at htext
    have hpath : path.toList = path'.toList := by
      refine @twice_inj _ [] " tail|".toList "|-".toList _ _ ?_
      simpa using htext
    rw [hdisk, hdisk', hvg, hvg', String.toList_inj.mp hpath]
    exact ⟨rfl, rfl, hstart, hcount⟩
  | diskGap =>
    rw [hk] at ha hb
    obtain ⟨path, start, count, hsource, hdisk, hvg, hstart', hcount'⟩ := ha
    obtain ⟨path', start', count', hsource', hdisk', hvg', hstart'', hcount''⟩ := hb
    rw [hstart', hstart''] at hstart
    rw [hcount', hcount''] at hcount
    cases hstart
    cases hcount
    rw [hsource, hsource', hdisk, hdisk', hvg, hvg'] at htext
    have hpath : path.toList = path'.toList := by
      refine @twice_inj _ [] (" free sectors " ++ toString start ++ ".." ++
        toString (start + count - 1) ++ "|").toList "|-".toList _ _ ?_
      simpa using htext
    rw [hdisk, hdisk', hvg, hvg', String.toList_inj.mp hpath, hstart', hstart'', hcount', hcount'']
    exact ⟨rfl, rfl, rfl, rfl⟩

end StorageManager.Planner.Provisioning
