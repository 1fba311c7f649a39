import StorageManager.Executor.SwapRuntime
import StorageManager.Executor.SwapStore
import StorageManager.Lib.Strategy

/-!
# A host on which every stage of a replacement has its effect

Nothing is refused: the swapfile is created and fully allocated, mkswap writes the
signature, swapon lists the file with its size less one page, swapoff removes the entry
of its device. Linux takes a priority from 0 to 32767 as it is given and puts a fresh
negative one in the place of any other.
-/

namespace StorageManager.Executor.Swap

open StorageManager.Core
open Lib.Checks
open Lib.Effects
open Lib.Json (toJson toBytes)
open Lib.RecordFile

set_option autoImplicit false

/-- What the host chooses: the identity of the created file, its blocks, and the fresh
priority. -/
structure IdealHost (bytes : Nat) (swaps : List SwapEntry) where
  uid : Nat
  page : Nat
  file : Nat
  directory : Nat
  dev : Nat
  ino : Nat
  blocks : Nat
  freshPriority : Int
  page_gt : 10 < page
  allocated : bytes ≤ blocks * 512
  addressable : bytes < 2 ^ 63 → blocks * 512 < 2 ^ 64
  fresh_neg : freshPriority < 0
  fresh_new : ∀ e ∈ swaps, e.priority ≠ freshPriority

/-- What the stages change on the host. -/
structure SwapHostState where
  fileBytes : Nat
  formatted : Bool
  swaps : List SwapEntry

namespace IdealHost

variable {bytes : Nat} {swaps : List SwapEntry}

/-- The priority Linux lists for `swapon --priority`. -/
def listedPriority (h : IdealHost bytes swaps) (priority : Int) : Int :=
  if 0 ≤ priority ∧ priority ≤ 32767 then priority else h.freshPriority

/-- The priority Linux lists is the one asked for exactly when it is not negative and
not too large. -/
theorem listedPriority_eq_iff (h : IdealHost bytes swaps) {e : SwapEntry} (he : e ∈ swaps) :
    h.listedPriority e.priority = e.priority ↔ 0 ≤ e.priority ∧ e.priority ≤ 32767 := by
  unfold listedPriority
  split
  · rename_i hrange
    exact iff_of_true rfl hrange
  · rename_i hrange
    exact iff_of_false (Ne.symm (h.fresh_new e he)) hrange

def metadata (h : IdealHost bytes swaps) (mode : Nat) : FileMetadata :=
  { isSymlink := false, isFile := true, isDir := false, dev := h.dev, ino := h.ino, uid := h.uid
    mode := 0o100000 + mode, nlink := 1, len := bytes, blocks := h.blocks }

variable (h : IdealHost bytes swaps) (activation : ProductionSwapReplacementActivationIntent)

/-- The effect of one call. -/
def effect (st : SwapHostState) (e : SwapLogEntry) : SwapHostState :=
  match e.op with
  | .inr (.fallocate _ length) => { st with fileBytes := length }
  | .inr (.spawn d) =>
    match d.file with
    | .mkswap => { st with formatted := true }
    | .swapon =>
      if d.argv = ["swapon", "--priority", toString activation.retiringSwapPriority,
          activation.swapfilePath] then
        { st with swaps := st.swaps ++ [{ name := activation.swapfilePath, kind := "file"
                                          sizeBytes := st.fileBytes - h.page, usedBytes := 0
                                          priority :=
                                            h.listedPriority activation.retiringSwapPriority }] }
      else st
    | .swapoff => { st with swaps := st.swaps.filter fun e => !d.argv.tail.contains e.name }
    | _ => st
  | _ => st

/-- The host after the calls of a log. -/
def stateOf (log : List SwapLogEntry) : SwapHostState :=
  log.foldl (effect h activation) ⟨0, false, swaps⟩

/-- The calls that a replacement does not make are refused. -/
def answer (st : SwapHostState) : (op : SwapOp) → swapEnv.Ans op
  | .geteuid => h.uid
  | .processId => (1 : Nat)
  | .pageSize => (h.page : Int)
  | .discoverSwaps => (.ok st.swaps : Except String (List SwapEntry))
  | .createNew _ _ => (.ok h.file : Except IoError Nat)
  | .openRead _ => (.ok h.directory : Except IoError Nat)
  | .fstat _ => (.ok (h.metadata activation.swapfileMode) : Except IoError FileMetadata)
  | .setPermissions _ _ => (.ok () : Except IoError Unit)
  | .fallocate _ _ => (.ok () : Except IoError Unit)
  | .writeAll _ _ => (.ok () : Except IoError Unit)
  | .syncAll _ => (.ok () : Except IoError Unit)
  | .readAt _ length _ =>
    (.ok (if st.formatted then "SWAPSPACE2".toUTF8.data.toList else List.replicate length 0) :
      Except IoError (List UInt8))
  | .openPipes => (.ok () : Except String Unit)
  | .spawn _ => (.ok ⟨0, [], [], false, false⟩ : Except PrivilegedDescriptorExecError _)
  | .revalidatePinnedConsent _ => (.error "unused" : Except String String)
  | .revalidateRuntimeTools _ => (.error "unused" : Except String Unit)
  | .revalidateRemovalTools _ => (.error "unused" : Except String Unit)
  | .discoverSnapshot => (.error "unused" : Except String HostSnapshot)
  | .sfdiskDump _ => (.error "unused" : Except String DescriptorExecOutcome)
  | .symlinkMetadata _ => (.error .notFound : Except IoError FileMetadata)
  | .readToEnd _ _ => (.error .notFound : Except IoError (List UInt8))
  | .rename _ _ => (.error .notFound : Except IoError Unit)
  | .removeFile _ => (.error .notFound : Except IoError Unit)

/-- The host as a strategy: the journal file works too. -/
def strategy : Strategy (interface ProductionSwapRuntimeJournal swapEnv) := fun s op =>
  match op with
  | .inl _ => (none : Option Fault)
  | .inr op => h.answer activation (h.stateOf activation s.log) op

/-- The journal file and the host are in this state. -/
def At (st : SwapHostState) (f : File ProductionSwapRuntimeJournal) (s : SwapSt) : Prop :=
  h.stateOf activation s.log = st ∧ s.world = f

variable {h activation} {st : SwapHostState} {f : File ProductionSwapRuntimeJournal} {s : SwapSt}
  {j m : ProductionSwapRuntimeJournal} {ε : Type}

theorem At.call (hs : At h activation st f s) (op : SwapOp) (a : swapEnv.Ans op) :
    At h activation (h.effect activation st ⟨.inr op, a, s.world⟩) f (s.call (.inr op) a) := by
  refine ⟨?_, hs.2⟩
  show (s.log ++ _).foldl (h.effect activation) _ = _
  rw [List.foldl_append, ← hs.1]
  rfl

/-- One call of the host and its answer. -/
theorem host_plays (hs : At h activation st f s) (op : SwapOp) : ∃ t,
    Proc.Plays (h.strategy activation) (host op : SwapProc ε _) m s
      (.ok (h.answer activation st op)) m t ∧
    At h activation (h.effect activation st ⟨.inr op, h.answer activation st op, s.world⟩) f t := by
  have hanswer : h.strategy activation s (.inr op) = h.answer activation st op := by
    show h.answer activation (h.stateOf activation s.log) op = _
    rw [hs.1]
  refine ⟨s.call (.inr op) (h.answer activation st op), ?_, hs.call op _⟩
  have hplays := Proc.Plays.perform (σ := h.strategy activation) (ε := ε) (m := m) (s := s)
    (.inr op)
  rw [hanswer] at hplays
  exact hplays

/-- A call without an effect on the host. -/
theorem host_quiet (hs : At h activation st f s) (op : SwapOp)
    (hop : ∀ a w, h.effect activation st ⟨.inr op, a, w⟩ = st) : ∃ t,
    Proc.Plays (h.strategy activation) (host op : SwapProc ε _) m s
      (.ok (h.answer activation st op)) m t ∧ At h activation st f t := by
  obtain ⟨t, hplays, ht⟩ := host_plays (ε := ε) (m := m) hs op
  rw [hop] at ht
  exact ⟨t, hplays, ht⟩

/-- File operations leave the host as it is. -/
theorem stateOf_undisturbed {t : SwapSt} (hs : h.stateOf activation s.log = st)
    (ht : Undisturbed s t) : h.stateOf activation t.log = st := by
  obtain ⟨ext, hext, hops⟩ := ht
  have hsame : ∀ (ext : List SwapLogEntry) (st : SwapHostState),
      (∀ e ∈ ext, ∃ op w, e = ⟨.inl op, (none : Option Fault), w⟩) →
      ext.foldl (h.effect activation) st = st := by
    intro ext
    induction ext with
    | nil => exact fun _ _ => rfl
    | cons e ext ih =>
      intro st hops
      obtain ⟨⟨op, w, rfl⟩, hrest⟩ := List.forall_mem_cons.mp hops
      exact ih st hrest
  rw [stateOf, hext, List.foldl_append]
  exact (hsame ext _ hops).trans hs

/-- Undisturbed file operations are what the host lets happen. -/
theorem plays_of_can {α : Type} {p : SwapProc ε α} {r : Except ε α} {m' : ProductionSwapRuntimeJournal}
    {t : SwapSt} (hcan : Proc.Can p m s r m' t) (ht : Undisturbed s t) :
    Proc.Plays (h.strategy activation) p m s r m' t := by
  refine Calls.Can.play ?_ hcan ht
  rintro s op c w ⟨op', w', he⟩
  cases he
  rfl

section Steps

variable {α σ : Type}

theorem orFail_plays {fault : σ → ε} {call : SwapProc ε (Except σ α)} {a : α} {t : SwapSt}
    (hcall : Proc.Plays (h.strategy activation) call m s (.ok (.ok a)) m t) :
    Proc.Plays (h.strategy activation) (orFail fault call) m s (.ok a) m t :=
  hcall.bind (.pure a)

/-- The metadata of the created file is the frozen contract. -/
theorem requireExactSwapfile_plays (hs : At h activation st f s) (hbytes : bytes < 2 ^ 63)
    (hmode : activation.swapfileMode < 0o1000) (file : Nat) (identity : Option (Nat × Nat))
    (hidentity : ∀ i ∈ identity, i = (h.dev, h.ino)) : ∃ t,
    Proc.Plays (h.strategy activation)
      (requireExactSwapfile file identity bytes activation.swapfileMode) m s
      (.ok (h.metadata activation.swapfileMode)) m t ∧ At h activation st f t := by
  obtain ⟨t₁, hstat, ht₁⟩ := host_quiet (ε := ProductionSwapRuntimeExecutionError) (m := m) hs
    (.fstat file) fun _ _ => rfl
  obtain ⟨t₂, huid, ht₂⟩ := host_quiet (ε := ProductionSwapRuntimeExecutionError) (m := m) ht₁
    .geteuid fun _ _ => rfl
  have hallocated := h.allocated
  have haddressable := h.addressable hbytes
  have hpermissions : (h.metadata activation.swapfileMode).permissions = activation.swapfileMode := by
    show (0o100000 + activation.swapfileMode) % 0o1000 = activation.swapfileMode
    omega
  have hfirst : refuse (2 ^ 64 ≤ h.blocks * 512 ∨
      ¬(h.metadata activation.swapfileMode).isFile = true ∨ identity.any (· ≠ (h.dev, h.ino)) = true)
      ProductionSwapRuntimeExecutionError.swapfileAllocationMismatch = .ok () := by
    refine refuse_eq_ok_iff.mpr ?_
    rintro (hlarge | hfile | hother)
    · omega
    · exact hfile rfl
    · cases identity with
      | none => cases hother
      | some i =>
        rw [hidentity i rfl] at hother
        simp at hother
  have hsecond : refuse ((h.metadata activation.swapfileMode).uid ≠ h.uid ∨
      (h.metadata activation.swapfileMode).permissions ≠ activation.swapfileMode ∨
      (h.metadata activation.swapfileMode).nlink ≠ 1 ∨
      (h.metadata activation.swapfileMode).len ≠ bytes ∨ h.blocks * 512 < bytes)
      ProductionSwapRuntimeExecutionError.swapfileAllocationMismatch = .ok () := by
    refine refuse_eq_ok_iff.mpr ?_
    rintro (huid | hmode | hnlink | hlen | hblocks)
    · exact huid rfl
    · exact hmode hpermissions
    · exact hnlink rfl
    · exact hlen rfl
    · omega
  exact ⟨t₂, (orFail_plays hstat).bind (.bind (.lift hfirst) (.bind huid (.bind (.lift hsecond)
    (.pure _)))), ht₂⟩

theorem createExactSwapfile_plays (hs : At h activation st f s) (hbytes : bytes < 2 ^ 63)
    (hmode : activation.swapfileMode < 0o1000) {path parent : String}
    (hparent : pathParent path = some parent) : ∃ t,
    Proc.Plays (h.strategy activation)
      (createExactSwapfile path bytes activation.swapfileMode) m s
      (.ok (h.file, h.dev, h.ino)) m t ∧ At h activation { st with fileBytes := bytes } f t := by
  obtain ⟨t₁, hcreate, ht₁⟩ := host_quiet (ε := ProductionSwapRuntimeExecutionError) (m := m) hs
    (.createNew path activation.swapfileMode) fun _ _ => rfl
  obtain ⟨t₂, hallocate, ht₂⟩ := host_plays (ε := ProductionSwapRuntimeExecutionError) (m := m) ht₁
    (.fallocate h.file bytes)
  obtain ⟨t₃, hsync, ht₃⟩ := host_quiet (ε := ProductionSwapRuntimeExecutionError) (m := m) ht₂
    (.syncAll h.file) fun _ _ => rfl
  obtain ⟨t₄, hexact, ht₄⟩ := requireExactSwapfile_plays (m := m) ht₃ hbytes hmode h.file none
    (by simp)
  obtain ⟨t₅, hopen, ht₅⟩ := host_quiet (ε := ProductionSwapRuntimeExecutionError) (m := m) ht₄
    (.openRead parent) fun _ _ => rfl
  obtain ⟨t₆, hsync', ht₆⟩ := host_quiet (ε := ProductionSwapRuntimeExecutionError) (m := m) ht₅
    (.syncAll h.directory) fun _ _ => rfl
  have hfits : refuse (2 ^ 63 ≤ bytes)
      ProductionSwapRuntimeExecutionError.swapfileAllocationMismatch = .ok () :=
    refuse_eq_ok_iff.mpr (by omega)
  refine ⟨t₆, (orFail_plays hcreate).bind (.bind (.lift hfits) ((orFail_plays hallocate).bind
    ((orFail_plays hsync).bind (hexact.bind ?_)))), ht₆⟩
  rw [hparent]
  exact (orFail_plays hopen).bind ((orFail_plays hsync').bind (.pure _))

/-- A file that is too large, or that is the root directory, is not created. -/
theorem createExactSwapfile_fails (hs : At h activation st f s)
    (hmode : activation.swapfileMode < 0o1000) {path : String}
    (hbad : 2 ^ 63 ≤ bytes ∨ pathParent path = none) : ∃ e t,
    Proc.Plays (h.strategy activation)
      (createExactSwapfile path bytes activation.swapfileMode) m s (.error e) m t := by
  obtain ⟨t₁, hcreate, ht₁⟩ := host_quiet (ε := ProductionSwapRuntimeExecutionError) (m := m) hs
    (.createNew path activation.swapfileMode) fun _ _ => rfl
  by_cases hbytes : 2 ^ 63 ≤ bytes
  · refine ⟨.swapfileAllocationMismatch, t₁, (orFail_plays hcreate).bind (.bind_error (.lift ?_))⟩
    exact refuse_eq_error_iff.mpr ⟨hbytes, rfl⟩
  have hparent := hbad.resolve_left hbytes
  obtain ⟨t₂, hallocate, ht₂⟩ := host_plays (ε := ProductionSwapRuntimeExecutionError) (m := m) ht₁
    (.fallocate h.file bytes)
  obtain ⟨t₃, hsync, ht₃⟩ := host_quiet (ε := ProductionSwapRuntimeExecutionError) (m := m) ht₂
    (.syncAll h.file) fun _ _ => rfl
  obtain ⟨t₄, hexact, ht₄⟩ := requireExactSwapfile_plays (m := m) ht₃ (by omega) hmode h.file none
    (by simp)
  have hfits : refuse (2 ^ 63 ≤ bytes)
      ProductionSwapRuntimeExecutionError.swapfileAllocationMismatch = .ok () :=
    refuse_eq_ok_iff.mpr hbytes
  refine ⟨.swapfileAllocationMismatch, t₄, (orFail_plays hcreate).bind (.bind (.lift hfits)
    ((orFail_plays hallocate).bind ((orFail_plays hsync).bind (hexact.bind ?_))))⟩
  rw [hparent]
  exact .throw _

theorem revalidateSwapfile_plays (hs : At h activation st f s) (hbytes : bytes < 2 ^ 63)
    (hmode : activation.swapfileMode < 0o1000) : ∃ t,
    Proc.Plays (h.strategy activation)
      (revalidateSwapfile h.file (h.dev, h.ino) bytes activation.swapfileMode) m s (.ok ()) m t ∧
    At h activation st f t := by
  obtain ⟨t, hexact, ht⟩ := requireExactSwapfile_plays (m := m) hs hbytes hmode h.file
    (some (h.dev, h.ino)) (by simp)
  exact ⟨t, hexact.bind (.pure ()), ht⟩

theorem verifySwapSignature_plays (hs : At h activation st f s) (hformatted : st.formatted = true) :
    ∃ t, Proc.Plays (h.strategy activation) (verifySwapSignature h.file) m s (.ok ()) m t ∧
    At h activation st f t := by
  obtain ⟨t₁, hpage, ht₁⟩ := host_quiet (ε := ProductionSwapRuntimeExecutionError) (m := m) hs
    .pageSize fun _ _ => rfl
  obtain ⟨t₂, hread, ht₂⟩ := host_quiet (ε := ProductionSwapRuntimeExecutionError) (m := m) ht₁
    (.readAt h.file 10 ((h.page : Int) - 10).toNat) fun _ _ => rfl
  have hanswer : h.answer activation st (.readAt h.file 10 ((h.page : Int) - 10).toNat) =
      (.ok "SWAPSPACE2".toUTF8.data.toList : Except IoError (List UInt8)) := by
    show (.ok (if st.formatted then _ else _) : Except IoError (List UInt8)) = _
    rw [hformatted]
    rfl
  have hgt := h.page_gt
  rw [hanswer] at hread
  have hlarge : refuse ((h.page : Int) ≤ 10)
      ProductionSwapRuntimeExecutionError.swapSignatureMismatch = .ok () :=
    refuse_eq_ok_iff.mpr (by omega)
  refine ⟨t₂, hpage.bind (.bind (.lift hlarge) ((orFail_plays hread).bind (.lift ?_))), ht₂⟩
  exact refuse_eq_ok_iff.mpr (by decide)

/-- A stage whose arguments have no embedded NUL is spawned and exits with zero. -/
theorem runStage_plays (hs : At h activation st f s) (stage : SwapStage)
    {launchStage : ProductionSwapRuntimeLaunchStage} {launch : ProductionSwapRuntimeLaunchSpec}
    (hprogram : launchStage.argv.head? = some launchStage.program.asStr)
    (hnul : (launchStage.argv ++ [launch.fixedPath, launch.fixedLocale]).any
      (fun s => s.toList.contains '\x00') = false) {st' : SwapHostState}
    (heffect : ∀ a w, h.effect activation st ⟨.inr (.spawn ⟨stage, launchStage.program,
      launchStage.argv, launch.fixedPath, launch.fixedLocale, none⟩), a, w⟩ = st') : ∃ outcome t,
    Proc.Plays (h.strategy activation) (runStage stage launchStage launch) m s (.ok outcome) m t ∧
    At h activation st' f t := by
  let d : DescriptorStage SwapStage := ⟨stage, launchStage.program, launchStage.argv,
    launch.fixedPath, launch.fixedLocale, none⟩
  obtain ⟨t₁, hpipes, ht₁⟩ := host_quiet (ε := ProductionSwapRuntimeExecutionError) (m := m) hs
    .openPipes fun _ _ => rfl
  obtain ⟨t₂, hspawn, ht₂⟩ := host_plays (ε := ProductionSwapRuntimeExecutionError) (m := m) ht₁
    (.spawn d)
  have hexecute : Proc.Plays (h.strategy activation)
      (executeDescriptorStage (host .openPipes) (fun d => host (.spawn d)) d : RuntimeProc _) m s
      (.ok (.ok ⟨0, [], [], false, false⟩)) m t₂ := by
    have hsame : d.hasNul = false := hnul
    unfold executeDescriptorStage
    rw [if_neg (not_not.mpr hprogram), hsame, if_neg Bool.false_ne_true]
    exact hpipes.bind hspawn
  rw [heffect] at ht₂
  exact ⟨⟨0, [], [], false, false⟩, t₂, hexecute.bind (.pure _), ht₂⟩

end Steps

section Recovery

variable [Fingerprint] {α : Type} {e : ProductionSwapRuntimeExecutionError}
  {recoveryFailed : ProductionSwapRuntimeExecutionError → ProductionSwapRuntimeJournalError →
    ProductionSwapRuntimeExecutionError}

theorem persistRecovery_fails (e : ProductionSwapRuntimeExecutionError)
    (recoveryFailed : ProductionSwapRuntimeExecutionError → ProductionSwapRuntimeJournalError →
      ProductionSwapRuntimeExecutionError) (h : IdealHost bytes swaps)
    (activation : ProductionSwapReplacementActivationIntent) (m : ProductionSwapRuntimeJournal)
    (s : SwapSt) : ∃ e' m' t, Proc.Plays (h.strategy activation)
    (persistRecovery recoveryFailed e : RuntimeProc α) m s (.error e') m' t := by
  let recover : RuntimeProc (Except ProductionSwapRuntimeJournalError Unit) :=
    (persistProductionSwapRuntimeTransition .recoveryRequired).attempt
  obtain ⟨r, m', t, hrecover⟩ : ∃ r m' t, Proc.Plays (h.strategy activation)
      (persistProductionSwapRuntimeTransition .recoveryRequired) m s r m' t := ⟨_, _, _, rfl⟩
  have hattempt : Proc.Plays (h.strategy activation) recover m s (.ok r) m' t := hrecover.attempt
  cases r with
  | ok _ => exact ⟨e, m', t, hattempt.bind (.throw e)⟩
  | error journal => exact ⟨recoveryFailed e journal, m', t, hattempt.bind (.throw _)⟩

theorem orRecovery_plays {p : RuntimeProc α} {a : α} {t : SwapSt}
    (hp : Proc.Plays (h.strategy activation) p m s (.ok a) m t) :
    Proc.Plays (h.strategy activation) (orRecovery recoveryFailed p) m s (.ok a) m t := by
  have hattempt : Proc.Plays (h.strategy activation)
      (p.attempt : RuntimeProc (Except ProductionSwapRuntimeExecutionError α)) m s
      (.ok (.ok a)) m t := hp.attempt
  exact hattempt.bind (.pure a)

theorem orRecovery_fails {p : RuntimeProc α} {m' : ProductionSwapRuntimeJournal} {t : SwapSt}
    (hp : Proc.Plays (h.strategy activation) p m s (.error e) m' t) : ∃ e' m'' u,
    Proc.Plays (h.strategy activation) (orRecovery recoveryFailed p) m s (.error e') m'' u := by
  obtain ⟨e', m'', u, hu⟩ := persistRecovery_fails e recoveryFailed h activation m' t (α := α)
  have hattempt : Proc.Plays (h.strategy activation)
      (p.attempt : RuntimeProc (Except ProductionSwapRuntimeExecutionError α)) m s
      (.ok (.error e)) m' t := hp.attempt
  exact ⟨e', m'', u, hattempt.bind hu⟩

end Recovery

end IdealHost

section Transitions

variable [Fingerprint] {bytes : Nat} {swaps : List SwapEntry} {h : IdealHost bytes swaps}
  {activation : ProductionSwapReplacementActivationIntent} {st : SwapHostState} {s : SwapSt}
  {r : ProductionSwapRuntimeJournal} {t : ProductionSwapRuntimeTransition}
  {phase : ProductionSwapRuntimePhase} {code : String} {α : Type}

/-- A transition of the table is persisted when its record fits. -/
theorem transition_plays (hr : validateJournal r = .ok ())
    (ht : transitionTarget r.phase t = some (phase, code))
    (hs : h.At activation st (.holding (some r)) s)
    (hfit : (toBytes (toJson (recordAfter r phase code))).length ≤ maxSwapRuntimeJournalBytes) :
    ∃ u, h.At activation st (.holding (some (recordAfter r phase code))) u ∧
      Proc.Plays (h.strategy activation) (transition t) r s (.ok ())
        (recordAfter r phase code) u := by
  obtain ⟨happly, hvalid⟩ := applyTransition_eq_ok hr ht
  obtain ⟨bytes, hbytes⟩ := encodeJournal_eq_ok_iff.mpr hfit
  have hvisible : s.world.visible = some r := by
    rw [hs.2]
    rfl
  obtain ⟨u, hu, hundisturbed, hpersist⟩ := persist_can (m := r) hvalid hbytes hvisible
  refine ⟨u, ⟨IdealHost.stateOf_undisturbed hs.1 hundisturbed, hu⟩, ?_⟩
  exact Proc.Plays.mapError (IdealHost.plays_of_can (persistStep_can happly hpersist) hundisturbed)

/-- A transition whose record is too large fails. -/
theorem transition_fails (h : IdealHost bytes swaps)
    (activation : ProductionSwapReplacementActivationIntent) (s : SwapSt) (hr : validateJournal r = .ok ())
    (ht : transitionTarget r.phase t = some (phase, code))
    (hfit : ¬(toBytes (toJson (recordAfter r phase code))).length ≤ maxSwapRuntimeJournalBytes) :
    ∃ e m' u, Proc.Plays (h.strategy activation) (transition t) r s (.error e) m' u := by
  obtain ⟨happly, hvalid⟩ := applyTransition_eq_ok hr ht
  obtain ⟨u, hundisturbed, hpersist⟩ := persist_tooLarge (m := r) (s := s) hvalid hfit
  have hstep : Proc.Can (persistProductionSwapRuntimeTransition t) r s (.error .tooLarge) r u :=
    persistStep_can_error happly hpersist
  refine ⟨.journal .tooLarge, r, u, ?_⟩
  exact Proc.Plays.mapError (IdealHost.plays_of_can hstep hundisturbed)

/-- What follows a transition decides when the record fits. -/
theorem succeeds_transition (hr : validateJournal r = .ok ())
    (ht : transitionTarget r.phase t = some (phase, code))
    (hs : h.At activation st (.holding (some r)) s)
    (ts : List ProductionSwapRuntimeTransition) (f : Unit → RuntimeProc α) {P : Prop}
    (hf : ∀ u, h.At activation st (.holding (some (recordAfter r phase code))) u →
      (Proc.Succeeds (h.strategy activation) (f ()) (recordAfter r phase code) u ↔
        RecordsFit (recordAfter r phase code) ts ∧ P)) :
    Proc.Succeeds (h.strategy activation) (transition t >>= f) r s ↔
      RecordsFit r (t :: ts) ∧ P := by
  rw [recordsFit_cons (applyTransition_eq_ok hr ht).1]
  by_cases hfit : (toBytes (toJson (recordAfter r phase code))).length ≤ maxSwapRuntimeJournalBytes
  · obtain ⟨u, hu, hplays⟩ := transition_plays hr ht hs hfit
    rw [Proc.succeeds_bind hplays, hf u hu, and_iff_right hfit]
  · obtain ⟨e, m', u, hplays⟩ := transition_fails h activation s hr ht hfit
    refine iff_of_false (Proc.not_succeeds hplays.bind_error) ?_
    intro hall
    exact hfit hall.1.1

end Transitions

end StorageManager.Executor.Swap
