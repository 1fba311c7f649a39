import StorageManager.Executor.ProductionStep

/-!
# What a production step spawns

Whatever a step is given, and wherever it is cut, its processes are those of the launch. Each of
them met the durable record of an execution that stands before this very step, after the gate had
accepted a consent that was read in the same call.
-/

namespace StorageManager.Executor

open JournalStore
open Lib.Checks
open Lib.Effects
open Planner
open Planner.ExecutionGuard
open PrivilegedContinue

set_option autoImplicit false

namespace ProductionStep

section Processes

variable {τ : Type} {s t u : St (growth τ)}

/-- The processes that were spawned, in their order. -/
def processes (log : List (Entry (growth τ))) : List (DescriptorStage τ) :=
  PrivilegedExec.spawned (log.filterMap (execution τ).entry)

def IsSpawn (e : Entry (growth τ)) : Prop := ∃ process, e.op = .inr (.exec (.spawn process))

/-- The log grew, but not by processes. -/
def Unspawned (s t : St (growth τ)) : Prop := Grew (fun e => ¬IsSpawn e) s t

/-- Nothing was spawned, and the journal was left alone. -/
def Looked (s t : St (growth τ)) : Prop := t.world = s.world ∧ Unspawned s t

instance : Std.Refl (Unspawned (τ := τ)) := ⟨.refl⟩

instance : IsTrans (St (growth τ)) Unspawned := ⟨fun _ _ _ h h' => h.trans h'⟩

instance : Std.Refl (Looked (τ := τ)) := ⟨fun s => ⟨rfl, .refl s⟩⟩

instance : IsTrans (St (growth τ)) Looked :=
  ⟨fun _ _ _ h h' => ⟨h'.1.trans h.1, h.2.trans h'.2⟩⟩

theorem processes_append (log more : List (Entry (growth τ))) :
    processes (log ++ more) = processes log ++ processes more := by
  unfold processes
  rw [List.filterMap_append, PrivilegedExec.spawned_append]

theorem processes_singleton {e : Entry (growth τ)} (h : ¬IsSpawn e) : processes [e] = [] := by
  obtain ⟨op, c, w⟩ := e
  cases op with
  | inl op => rfl
  | inr op =>
    cases op with
    | exec op =>
      cases op with
      | pipes => rfl
      | spawn process => exact absurd ⟨process, rfl⟩ h
    | readConsent path => rfl
    | leaseMatches identity => rfl
    | resolveTools command => rfl
    | toolFiles => rfl
    | discoverSnapshot => rfl
    | discoverCapabilities => rfl

theorem processes_eq_nil {log : List (Entry (growth τ))} (h : ∀ e ∈ log, ¬IsSpawn e) :
    processes log = [] := by
  induction log with
  | nil => rfl
  | cons e log ih =>
    have hhead := processes_singleton (h e (List.mem_cons_self ..))
    have htail := ih fun e' he' => h e' (List.mem_cons_of_mem _ he')
    calc processes (e :: log) = processes [e] ++ processes log := processes_append [e] log
      _ = [] := by rw [hhead, htail, List.append_nil]

theorem Unspawned.processes (h : Unspawned s t) : processes t.log = processes s.log := by
  obtain ⟨ext, hext, hnone⟩ := h
  rw [hext, processes_append, processes_eq_nil hnone, List.append_nil]

end Processes

section Calls

variable {τ ε α : Type} {s : St (growth τ)} {session : LockedExecutionSession}

theorem unspawned_inside (o : (Lib.Directory.interface storeEnv).Op)
    (c : (Lib.Directory.interface storeEnv).Choice o) (s : St (growth τ)) :
    Unspawned s (s.call (.inl o) c) := by
  apply Grew.call (.refl s)
  intro h
  obtain ⟨process, h⟩ := h
  cases h

/-- A method of the session does what it does on its own, and spawns nothing. -/
theorem onJournal_holds {p : Lib.Directory.DirProc storeEnv LockedExecutionSession ε α}
    (ok : α → LockedExecutionSession → Lib.Directory.Dir → Prop)
    (err : ε → LockedExecutionSession → Lib.Directory.Dir → Prop)
    (h : ∀ v, v.world = s.world → p.Holds session v (fun a after u => ok a after u.world)
      (fun e after u => err e after u.world) fun _ => True) :
    (onJournal p).Holds session s (fun a after t => ok a after t.world ∧ Unspawned s t)
      (fun e after t => err e after t.world ∧ Unspawned s t) (Unspawned s) := by
  have hhere := h ((Embedding.inside _ _).state s) rfl
  refine (Proc.Holds.embed _ (R := Unspawned) unspawned_inside hhere).mono ?_ ?_ ?_
  · exact fun _ _ _ h => h
  · exact fun _ _ _ h => h
  · exact fun _ h => h.2

/-- A question leaves its answer in the log. -/
theorem growthAsk_holds {op : GrowthOp τ} (hop : ∀ process, op ≠ .exec (.spawn process)) :
    (growthAsk op : GrowthProc τ ε ((growthEnv τ).Ans op)).Holds session s
      (fun a after t => after = session ∧ Looked s t ∧ Answered (F := growthEnv τ) op a s t)
      (fun _ _ _ => False) (Looked s) := by
  refine ⟨refl_of Looked s, fun a => ⟨rfl, ⟨rfl, Grew.call (.refl s) ?_⟩, answered_call s op a⟩⟩
  intro h
  obtain ⟨process, h⟩ := h
  exact hop process (Sum.inr.inj h)

theorem keeps_growthAsk {op : GrowthOp τ} (hop : ∀ process, op ≠ .exec (.spawn process)) :
    Proc.Keeps Looked (growthAsk op : GrowthProc τ ε ((growthEnv τ).Ans op)) :=
  fun _ _ => (growthAsk_holds hop).mono (fun _ _ _ h => ⟨h.1, h.2.1⟩) (fun _ _ _ h => h.elim)
    fun _ h => h

end Calls

section Consents

variable {τ : Type} [Fingerprint] {reader : ConsentReader} {s t u : St (growth τ)}
  {activation : ProductionMutationActivationIntent} {consent : ProductionMutationConsentReceipt}
  {lease : PinnedProductionMutationConsent} {session : LockedExecutionSession}

/-- From `s` to `t` the file at this path was read, as this consent to the activation. -/
def ReadAt (reader : ConsentReader) (activation : ProductionMutationActivationIntent)
    (path : String) (consent : ProductionMutationConsentReceipt) (s t : St (growth τ)) : Prop :=
  ∃ bytes identity,
    Answered (F := growthEnv τ) (.readConsent path) (.ok (bytes, identity)) s t ∧
    bindConsentReceipt reader activation path bytes identity = .ok consent

/-- From `s` to `t` the file of the lease was read again as this consent, and the open file of the
lease was still that file. -/
structure Consented (reader : ConsentReader) (activation : ProductionMutationActivationIntent)
    (lease : PinnedProductionMutationConsent) (consent : ProductionMutationConsentReceipt)
    (s t : St (growth τ)) : Prop where
  read : ReadAt reader activation lease.receipt.consentPath consent s t
  sameReceipt : consent.receiptId = lease.receipt.receiptId
  sameFile : consent.consentFile = lease.receipt.consentFile
  matched : Answered (F := growthEnv τ) (.leaseMatches lease.receipt.consentFile) (.ok true) s t
  path : lease.receipt.consentPath = productionMutationConsentPath ∨
    operatorConsentPath activation = .ok lease.receipt.consentPath

theorem ReadAt.after {P : Entry (growth τ) → Prop} {path : String}
    (h : ReadAt reader activation path consent s t) (hmore : Grew P t u) :
    ReadAt reader activation path consent s u := by
  obtain ⟨bytes, identity, hread, hbound⟩ := h
  exact ⟨bytes, identity, hread.after hmore, hbound⟩

theorem Consented.after {P : Entry (growth τ) → Prop}
    (h : Consented reader activation lease consent s t) (hmore : Grew P t u) :
    Consented reader activation lease consent s u :=
  ⟨h.read.after hmore, h.sameReceipt, h.sameFile, h.matched.after hmore, h.path⟩

theorem Consented.before {P : Entry (growth τ) → Prop}
    (h : Consented reader activation lease consent t u) (hless : Grew P s t) :
    Consented reader activation lease consent s u := by
  obtain ⟨bytes, identity, hread, hbound⟩ := h.read
  exact ⟨⟨bytes, identity, hread.before hless, hbound⟩, h.sameReceipt, h.sameFile,
    h.matched.before hless, h.path⟩

/-- The program only looks, and what it returns is a consent of this kind. -/
def Rereads (Q : ProductionMutationConsentReceipt → St (growth τ) → St (growth τ) → Prop)
    (p : LeaseProc τ ProductionMutationConsentReceipt) : Prop :=
  ∀ session s, p.Holds session s (fun consent after t => after = session ∧ Looked s t ∧ Q consent s t)
    (fun _ after t => after = session ∧ Looked s t) (Looked s)

theorem verifyConsentAt_rereads (path : String) :
    Rereads (τ := τ) (ReadAt reader activation path) (verifyConsentAt reader activation path) := by
  intro session s
  unfold verifyConsentAt
  refine Proc.holds_bind.mpr ((growthAsk_holds fun _ h => by cases h).mono ?_
    (fun _ _ _ h => h.elim) fun _ h => h)
  intro answer after t h
  obtain ⟨rfl, hlooked, hanswered⟩ := h
  refine Proc.holds_bind.mpr (Proc.holds_lift.mpr ⟨fun read hread => ?_, fun _ _ => ⟨rfl, hlooked⟩⟩)
  refine Proc.holds_lift.mpr ⟨fun consent hbound => ⟨rfl, hlooked, ?_⟩, fun _ _ => ⟨rfl, hlooked⟩⟩
  rw [mapError_eq_ok_iff.mp hread] at hanswered
  exact ⟨read.1, read.2, hanswered, mapError_eq_ok_iff.mp hbound⟩

omit [Fingerprint] in
theorem Rereads.check {β : Type}
    {Q : ProductionMutationConsentReceipt → St (growth τ) → St (growth τ) → Prop}
    {check : Except ProductionMutationConsentLeaseError β}
    {f : β → LeaseProc τ ProductionMutationConsentReceipt}
    (hf : ∀ b, check = .ok b → Rereads Q (f b)) : Rereads Q (Proc.lift check >>= f) := by
  intro session s
  exact Proc.holds_bind.mpr
    (Proc.holds_lift.mpr ⟨fun b hb => hf b hb session s, fun _ _ => ⟨rfl, refl_of Looked s⟩⟩)

/-- The comparison with the lease returns the consent it was given. -/
theorem Rereads.againstLease {p : LeaseProc τ ProductionMutationConsentReceipt}
    (hp : Rereads (ReadAt reader activation lease.receipt.consentPath) p)
    (hpath : lease.receipt.consentPath = productionMutationConsentPath ∨
      operatorConsentPath activation = .ok lease.receipt.consentPath) :
    Rereads (Consented reader activation lease)
      (p >>= (validateCurrentReceiptAgainstLease · lease)) := by
  intro session s
  refine (hp session s).bind fun current after t h => ?_
  obtain ⟨rfl, hlooked, hread⟩ := h
  unfold validateCurrentReceiptAgainstLease
  refine Proc.holds_bind.mpr (Proc.holds_lift.mpr ⟨fun _ hcurrent => ?_, fun _ _ => ⟨rfl, hlooked⟩⟩)
  obtain ⟨hreceipt, hfile⟩ := not_or.mp (refuse_eq_ok_iff.mp hcurrent)
  refine Proc.holds_bind.mpr ((growthAsk_holds fun _ h => by cases h).mono ?_
    (fun _ _ _ h => h.elim) fun _ h => trans_of Looked hlooked h)
  intro matched held u h
  obtain ⟨rfl, hmore, hanswered⟩ := h
  have hall := trans_of Looked hlooked hmore
  refine Proc.holds_bind.mpr (Proc.holds_lift.mpr ⟨fun same hmatched => ?_, fun _ _ => ⟨rfl, hall⟩⟩)
  refine Proc.holds_bind.mpr (Proc.holds_lift.mpr ⟨fun _ hsame => ?_, fun _ _ => ⟨rfl, hall⟩⟩)
  rw [mapError_eq_ok_iff.mp hmatched, not_not.mp (refuse_eq_ok_iff.mp hsame)] at hanswered
  exact Proc.holds_pure.mpr ⟨rfl, hall, hread.after hmore.2, not_not.mp hreceipt, not_not.mp hfile,
    hanswered.before hlooked.2, hpath⟩

/-- A lease is confirmed by a consent that is read again. -/
theorem revalidate_rereads (lease : PinnedProductionMutationConsent) :
    Rereads (τ := τ) (Consented reader activation lease)
      (revalidatePinnedProductionMutationConsent reader activation lease) := by
  unfold revalidatePinnedProductionMutationConsent
  split
  · rename_i hdefault
    refine Rereads.againstLease ?_ (.inl hdefault)
    rw [hdefault]
    exact .check fun _ _ => verifyConsentAt_rereads _
  · apply Rereads.check
    intro expected hexpected
    rw [mapError_eq_ok_iff] at hexpected
    apply Rereads.check
    intro _ hsame
    rw [refuse_eq_ok_iff, not_not] at hsame
    rw [hsame.symm] at hexpected
    refine Rereads.againstLease ?_ (.inr hexpected)
    apply Rereads.check
    intro path hpath
    rw [mapError_eq_ok_iff, hexpected] at hpath
    rw [Except.ok.inj hpath]
    exact verifyConsentAt_rereads _

end Consents

section Launches

variable {τ : Type} [Fingerprint] {s t u : St (growth τ)} {session : LockedExecutionSession}
  {chain : ProductionDescriptorExecutionChain τ}

/-- Every call met the world of `s`, which is still there. -/
def SameWorld (s t : St (growth τ)) : Prop :=
  t.world = s.world ∧ Grew (fun e => e.before = s.world) s t

instance : Std.Refl (SameWorld (τ := τ)) := ⟨fun s => ⟨rfl, .refl s⟩⟩

instance : IsTrans (St (growth τ)) SameWorld :=
  ⟨fun _ _ _ h h' => ⟨h'.1.trans h.1, h.2.trans (h'.2.mono fun _ he => he.trans h.1)⟩⟩

/-- The processes of a launch, the refresh last. -/
def launched (chain : ProductionDescriptorExecutionChain τ) : List (DescriptorStage τ) :=
  PrivilegedExec.primaryProcess chain.launch chain.pinned chain.command ::
    PrivilegedExec.refreshProcesses chain.launch chain.pinned

/-- Nothing was spawned, or the launch was accepted and its processes are being spawned. -/
def Launches (chain : ProductionDescriptorExecutionChain τ) (s t : St (growth τ)) : Prop :=
  processes t.log = processes s.log ∨
    PrivilegedExec.validateLaunch chain.launchPermit chain.launch chain.pinned chain.command true =
        .ok () ∧
      processes t.log <+: processes s.log ++ launched chain

theorem executeAuthorizedLaunch_holds (chain : ProductionDescriptorExecutionChain τ)
    (session : LockedExecutionSession) (s : St (growth τ)) :
    (executeAuthorizedLaunch chain).Holds session s
      (fun outcome after t => after = session ∧ SameWorld s t ∧ Launches chain s t ∧
        PrivilegedExec.validateLaunch chain.launchPermit chain.launch chain.pinned chain.command
          true = .ok () ∧
        processes t.log = processes s.log ++
          PrivilegedExec.primaryProcess chain.launch chain.pinned chain.command ::
            (if outcome.primary.exitCode = 0 then
              PrivilegedExec.refreshProcesses chain.launch chain.pinned else []))
      (fun _ after t => after = session ∧ SameWorld s t ∧ Launches chain s t)
      (fun t => SameWorld s t ∧ Launches chain s t) := by
  unfold executeAuthorizedLaunch
  refine Proc.holds_mapError.mpr (Proc.holds_beside.mpr ?_)
  have hR : ∀ o c (s : St (growth τ)), SameWorld s (s.call ((execution τ).op o) c) :=
    fun _ _ s => ⟨rfl, Grew.call (.refl s) rfl⟩
  refine (Proc.Holds.embed (execution τ) (R := SameWorld) hR
    (PrivilegedExec.execute_holds ((execution τ).state s))).mono ?_ ?_ ?_
  · intro outcome _ t h
    obtain ⟨⟨hvalid, hspawned, -⟩, hsame⟩ := h
    refine ⟨rfl, hsame, .inr ⟨hvalid, ?_⟩, hvalid, hspawned⟩
    change processes t.log = _ at hspawned
    have hrefresh : (if outcome.primary.exitCode = 0 then
        PrivilegedExec.refreshProcesses chain.launch chain.pinned else []) <+:
          PrivilegedExec.refreshProcesses chain.launch chain.pinned := by
      split
      · exact List.prefix_rfl
      · exact List.nil_prefix
    rw [hspawned]
    apply (List.prefix_append_right_inj _).mpr
    exact (List.prefix_cons_inj _).mpr hrefresh
  · exact fun _ _ t h => ⟨rfl, h.2, h.1⟩
  · exact fun t h => ⟨h.2, h.1⟩

end Launches

section Gates

variable {τ : Type} [Fingerprint] {fromSlice : FromSlice} {reader : ConsentReader}
  {journal : OperationJournal} {chain : ProductionDescriptorExecutionChain τ}
  {s t u : St (growth τ)}

/-- The gate lets the launch through, on a consent that was read again from `s` to `t`. -/
def Gated (reader : ConsentReader) (journal : OperationJournal)
    (chain : ProductionDescriptorExecutionChain τ) (s t : St (growth τ)) : Prop :=
  ∃ consent, Consented reader chain.activation chain.consentLease consent s t ∧
    validateGate journal consent chain = .ok ()

theorem Gated.after {P : Entry (growth τ) → Prop} (h : Gated reader journal chain s t)
    (hmore : Grew P t u) : Gated reader journal chain s u := by
  obtain ⟨consent, hconsented, hgate⟩ := h
  exact ⟨consent, hconsented.after hmore, hgate⟩

/-- The gate let the launch through before anything was spawned. -/
def GatedFirst (reader : ConsentReader) (journal : OperationJournal)
    (chain : ProductionDescriptorExecutionChain τ) (s t : St (growth τ)) : Prop :=
  ∃ u, Unspawned s u ∧ Gated reader journal chain s u ∧ Grew (fun _ => True) u t

theorem GatedFirst.after {P : Entry (growth τ) → Prop} (h : GatedFirst reader journal chain s t)
    (hmore : Grew P t u) : GatedFirst reader journal chain s u := by
  obtain ⟨first, hunspawned, hgated, hgrew⟩ := h
  exact ⟨first, hunspawned, hgated, hgrew.trans (hmore.mono fun _ _ => trivial)⟩

/-- What is spawned from `s` to `t`: the launch, behind the gate, where the journal is durable. -/
structure SpawnLaw (fromSlice : FromSlice) (reader : ConsentReader) (journal : OperationJournal)
    (chain : ProductionDescriptorExecutionChain τ) (s t : St (growth τ)) : Prop where
  launches : Launches chain s t
  met : Grew (fun e => IsSpawn e → Shown fromSlice e.before journal) s t
  behind : processes t.log = processes s.log ∨ GatedFirst reader journal chain s t

theorem SpawnLaw.gated (h : SpawnLaw fromSlice reader journal chain s t) :
    processes t.log = processes s.log ∨ Gated reader journal chain s t := by
  apply h.behind.imp_right
  intro hfirst
  obtain ⟨u, -, hgated, hgrew⟩ := hfirst
  exact hgated.after hgrew

theorem SpawnLaw.of_unspawned (h : Unspawned s t) : SpawnLaw fromSlice reader journal chain s t :=
  ⟨.inl h.processes, h.mono fun _ hnot hspawn => absurd hspawn hnot, .inl h.processes⟩

theorem SpawnLaw.after (h : SpawnLaw fromSlice reader journal chain s t) (hmore : Unspawned t u) :
    SpawnLaw fromSlice reader journal chain s u := by
  have hsame := hmore.processes
  refine ⟨?_, h.met.trans (hmore.mono fun _ hnot hspawn => absurd hspawn hnot), ?_⟩
  · unfold Launches
    rw [hsame]
    exact h.launches
  · rw [hsame]
    exact h.behind.imp_right fun hfirst => hfirst.after hmore

/-- A launch behind the gate. -/
theorem SpawnLaw.of_launch (hbefore : Unspawned s t) (hgated : Gated reader journal chain s t)
    (hshown : Shown fromSlice t.world journal) (hsame : SameWorld t u)
    (hlaunches : Launches chain t u) : SpawnLaw fromSlice reader journal chain s u := by
  refine ⟨?_, ?_, .inr ⟨t, hbefore, hgated, hsame.2.mono fun _ _ => trivial⟩⟩
  · unfold Launches at hlaunches ⊢
    rw [← hbefore.processes]
    exact hlaunches
  · apply (hbefore.mono fun _ hnot hspawn => absurd hspawn hnot).trans
    apply hsame.2.mono
    intro e he _
    rw [he]
    exact hshown

end Gates

section Interruptions

variable {τ ε α : Type} [Fingerprint] {fromSlice : FromSlice} {s : St (growth τ)}
  {session : LockedExecutionSession}

/-- How a session is left when what it did has failed: the store has failed too, the interruption
is durable, or the journal had already ended. -/
inductive Stopped (fromSlice : FromSlice) (storeFailed : Prop) (session after : LockedExecutionSession)
    (d : Lib.Directory.Dir) : Prop
  | store (failed : storeFailed) (same : after = session)
  | interrupted (reason : String) (next : OperationJournal)
      (moved : applyToCopy session.journal (.interrupted reason) = .ok next)
      (same : after = { session with journal := next }) (shown : Shown fromSlice d next)
  | ended (phase : session.journal.phase = .completed ∨ session.journal.phase = .aborted ∨
      session.journal.phase = .recoveryRequired) (same : after = session)

theorem Stopped.imp {P Q : Prop} {after : LockedExecutionSession} {d : Lib.Directory.Dir}
    (h : Stopped fromSlice P session after d) (hPQ : P → Q) :
    Stopped fromSlice Q session after d := by
  cases h with
  | store failed same => exact .store (hPQ failed) same
  | interrupted reason next moved same shown => exact .interrupted reason next moved same shown
  | ended phase same => exact .ended phase same

theorem applyToCopy_interrupted_error {j : OperationJournal} {reason : String} {e : JournalError}
    (h : applyToCopy j (.interrupted reason) = .error e) :
    j.phase = .completed ∨ j.phase = .aborted ∨ j.phase = .recoveryRequired := by
  by_contra hrunning
  unfold applyToCopy OperationJournal.apply at h
  rw [if_neg hrunning] at h
  dsimp only at h
  split at h
  · cases h
  · rename_i hmoved
    split at hmoved <;> cases hmoved

/-- An error of the function is returned once the interruption has been written. -/
theorem orInterrupt_holds {durable : LockedSessionError → ε} {reason : String}
    {p : GrowthProc τ ε α} (storeFailed : ε → Prop) (good : St (growth τ) → Prop)
    (ok : α → LockedExecutionSession → St (growth τ) → Prop)
    (hstore : ∀ source, OfStore source → storeFailed (durable source))
    (hgood : ∀ {u t}, good u → Unspawned u t → good t)
    (hp : p.Holds session s ok (fun _ after t => after = session ∧ good t) good) :
    (orInterrupt fromSlice durable reason p).Holds session s ok
      (fun e after t => good t ∧ Stopped fromSlice (storeFailed e) session after t.world)
      good := by
  unfold orInterrupt
  refine Proc.holds_bind.mpr (Proc.holds_attempt.mpr (hp.mono ?_ ?_ fun t h => h))
  · exact fun _ _ _ h => Proc.holds_pure.mpr h
  intro e₀ after u h
  obtain ⟨rfl, hu⟩ := h
  refine Proc.holds_bind.mpr (Proc.holds_mapError.mpr ((onJournal_holds
    (fun _ last d => Stopped fromSlice False after last d)
    (fun source last d => Stopped fromSlice (OfStore source) after last d)
    fun v hv => ?_).mono ?_ ?_ ?_))
  · refine (persistTransition_moves (.interrupted reason)).mono ?_ ?_ fun _ h => h
    · intro _ last w h
      obtain ⟨next, hnext, hsame, -, -, hshown⟩ := h
      exact .interrupted reason next hnext hsame hshown
    · intro source last w h
      obtain ⟨rfl, hfailed | ⟨refused, hrefused⟩⟩ := h
      · exact .store hfailed rfl
      · exact .ended (applyToCopy_interrupted_error hrefused) rfl
  · exact fun _ last t h => Proc.holds_throw.mpr ⟨hgood hu h.2, h.1.imp False.elim⟩
  · exact fun source last t h =>
      ⟨hgood hu h.2, h.1.imp (hstore source)⟩
  · exact fun t h => hgood hu h

end Interruptions

section Executions

variable {τ : Type} [Fingerprint] {fromSlice : FromSlice} {reader : ConsentReader}
  {s : St (growth τ)} {session : LockedExecutionSession}

/-- The durable transition failed with the store. -/
def TransitionStoreFailed : PrivilegedDurableTransitionError → Prop
  | .durable source => OfStore source
  | _ => False

def ProductionDescriptorExecutionError.StoreFailed : ProductionDescriptorExecutionError → Prop
  | .session source => OfStore source
  | .durableTransition source => TransitionStoreFailed source
  | _ => False

/-- The durable record is the journal, or the store failed. -/
theorem requireCurrent_holds :
    (onJournal (requireCurrentDurableJournal fromSlice) :
      GrowthProc τ LockedSessionError Unit).Holds session s
      (fun _ after t => after = session ∧ Looked s t ∧ Shown fromSlice t.world session.journal)
      (fun e after t => after = session ∧ OfStore e ∧ Looked s t) (Unspawned s) := by
  refine (onJournal_holds (fun _ after d => after = session ∧ d = s.world ∧
      Shown fromSlice d session.journal)
    (fun e after d => after = session ∧ OfStore e ∧ d = s.world) fun v hv => ?_).mono
    ?_ ?_ fun _ h => h
  · refine requireCurrentDurableJournal_checks.mono ?_ ?_ fun _ _ => trivial
    · intro _ after u h
      obtain ⟨hsame, hworld, -, hshown⟩ := h
      rw [hworld]
      exact ⟨hsame, hv, hshown⟩
    · exact fun e after u h => ⟨h.1, h.2.2, h.2.1.trans hv⟩
  · exact fun _ after t h => ⟨h.1.1, ⟨h.1.2.1, h.2⟩, h.1.2.2⟩
  · exact fun e after t h => ⟨h.1.1, h.1.2.1, h.1.2.2, h.2⟩

/-- The processes of a launch that came to its end. -/
def ranTo (chain : ProductionDescriptorExecutionChain τ)
    (outcome : PrivilegedExec.PrivilegedDescriptorSequenceOutcome) : List (DescriptorStage τ) :=
  PrivilegedExec.primaryProcess chain.launch chain.pinned chain.command ::
    if outcome.primary.exitCode = 0 then
      PrivilegedExec.refreshProcesses chain.launch chain.pinned
    else []

theorem raw_holds (chain : ProductionDescriptorExecutionChain τ) :
    (executeProductionDescriptorLaunchRaw fromSlice reader chain).Holds session s
      (fun outcome after t => after = session ∧ Gated reader session.journal chain s t ∧
        SpawnLaw fromSlice reader session.journal chain s t ∧
        processes t.log = processes s.log ++ ranTo chain outcome)
      (fun e after t => SpawnLaw fromSlice reader session.journal chain s t ∧
        Stopped fromSlice e.StoreFailed session after t.world)
      (SpawnLaw fromSlice reader session.journal chain s) := by
  unfold executeProductionDescriptorLaunchRaw
  have hquiet := fun {t u : St (growth τ)} => @SpawnLaw.after τ _ fromSlice reader session.journal
    chain s t u
  refine Proc.holds_bind.mpr (Proc.holds_mapError.mpr (requireCurrent_holds.mono ?_ ?_ ?_))
  · intro _ after t h
    obtain ⟨rfl, hlooked, hshown⟩ := h
    refine Proc.Holds.bind (orInterrupt_holds ProductionDescriptorExecutionError.StoreFailed
      (SpawnLaw fromSlice reader after.journal chain s)
      (fun consent last u => last = after ∧ Looked t u ∧
        Consented reader chain.activation chain.consentLease consent t u) (fun _ h => h) hquiet
      (Proc.holds_mapError.mpr ((revalidate_rereads chain.consentLease after t).mono
        (fun _ _ _ h => h) (fun _ _ u h => ⟨h.1, .of_unspawned (hlooked.2.trans h.2.2)⟩)
        fun u h => .of_unspawned (hlooked.2.trans h.2)))) fun consent last u h => ?_
    obtain ⟨rfl, hread, hconsented⟩ := h
    have hunspawned : Unspawned s u := hlooked.2.trans hread.2
    refine Proc.holds_bind.mpr (Proc.holds_get.mpr (Proc.Holds.bind (orInterrupt_holds
      ProductionDescriptorExecutionError.StoreFailed
      (SpawnLaw fromSlice reader last.journal chain s)
      (fun _ held v => held = last ∧ v = u ∧ validateGate last.journal consent chain = .ok ())
      (fun _ h => h) hquiet (Proc.holds_lift.mpr ⟨fun _ hgate => ⟨rfl, rfl, hgate⟩,
        fun e _ => ⟨rfl, .of_unspawned hunspawned⟩⟩)) fun _ held v h => ?_))
    obtain ⟨rfl, rfl, hgate⟩ := h
    have hgated : Gated reader held.journal chain s v :=
      ⟨consent, hconsented.before hlooked.2, hgate⟩
    have hlaw : ∀ {w}, SameWorld v w → Launches chain v w →
        SpawnLaw fromSlice reader held.journal chain s w := by
      intro w hsame hlaunches
      apply SpawnLaw.of_launch hunspawned hgated _ hsame hlaunches
      rw [hread.1]
      exact hshown
    refine (orInterrupt_holds ProductionDescriptorExecutionError.StoreFailed
      (SpawnLaw fromSlice reader held.journal chain s)
      (fun outcome final w => final = held ∧ Gated reader held.journal chain s w ∧
        SpawnLaw fromSlice reader held.journal chain s w ∧
        processes w.log = processes s.log ++ ranTo chain outcome)
      (fun _ h => h) hquiet ((executeAuthorizedLaunch_holds chain held v).mono ?_
        (fun _ _ _ h => ⟨h.1, hlaw h.2.1 h.2.2⟩) fun _ h => hlaw h.1 h.2))
    intro outcome final w h
    obtain ⟨hsame, hworld, hlaunches, -, hprocesses⟩ := h
    refine ⟨hsame, hgated.after hworld.2, hlaw hworld hlaunches, ?_⟩
    rw [← hunspawned.processes]
    exact hprocesses
  · intro e after t h
    obtain ⟨rfl, hstore, hlooked⟩ := h
    exact ⟨.of_unspawned hlooked.2, .store hstore rfl⟩
  · exact fun t h => .of_unspawned h

end Executions

section Steps

variable {τ ε ε' α β : Type} [Fingerprint] {fromSlice : FromSlice} {reader : ConsentReader}
  {journal : OperationJournal} {chain : ProductionDescriptorExecutionChain τ}

/-- This program spawns nothing. -/
def Quiet (p : GrowthProc τ ε α) : Prop :=
  ∀ session s, p.Holds session s (fun _ _ => Unspawned s) (fun _ _ => Unspawned s) (Unspawned s)

omit [Fingerprint] in
theorem Quiet.of_keeps {p : GrowthProc τ ε α} (h : Proc.Keeps Looked p) : Quiet p := by
  intro session s
  exact (h session s).mono (fun _ _ _ h => h.2.2) (fun _ _ _ h => h.2.2) fun _ h => h.2

omit [Fingerprint] in
theorem Quiet.bind {p : GrowthProc τ ε α} {f : α → GrowthProc τ ε β} (hp : Quiet p)
    (hf : ∀ a, Quiet (f a)) : Quiet (p >>= f) := by
  intro session s
  refine (hp session s).bind fun a after t h => ?_
  exact (hf a after t).mono (fun _ _ _ hmore => trans_of Unspawned h hmore)
    (fun _ _ _ hmore => trans_of Unspawned h hmore) fun _ hmore => trans_of Unspawned h hmore

omit [Fingerprint] in
theorem Quiet.mapError {p : GrowthProc τ ε α} {g : ε → ε'} (hp : Quiet p) :
    Quiet (Proc.mapError g p) := fun session s => Proc.holds_mapError.mpr (hp session s)

omit [Fingerprint] in
theorem quiet_onJournal (p : Lib.Directory.DirProc storeEnv LockedExecutionSession ε α) :
    Quiet (onJournal p : GrowthProc τ ε α) := by
  intro session s
  refine (onJournal_holds (fun _ _ _ => True) (fun _ _ _ => True) fun _ _ =>
    Proc.Holds.any trivial).mono ?_ ?_ fun _ h => h
  · exact fun _ _ _ h => h.2
  · exact fun _ _ _ h => h.2

theorem Quiet.orInterrupt {durable : LockedSessionError → ε} {reason : String}
    {p : GrowthProc τ ε α} (hp : Quiet p) : Quiet (orInterrupt fromSlice durable reason p) := by
  unfold ProductionStep.orInterrupt
  apply Quiet.bind
  · exact fun session s => Proc.holds_attempt.mpr (hp session s)
  intro result
  cases result with
  | ok a => exact .of_keeps (.pure a)
  | error error => exact (quiet_onJournal _).mapError.bind fun _ => .of_keeps (.throw error)

/-- After a launch nothing else is spawned. -/
theorem SpawnLaw.quiet {s t : St (growth τ)} (h : SpawnLaw fromSlice reader journal chain s t)
    {p : GrowthProc τ ε α} (hp : Quiet p) (session : LockedExecutionSession) :
    p.Holds session t (fun _ _ => SpawnLaw fromSlice reader journal chain s)
      (fun _ _ => SpawnLaw fromSlice reader journal chain s)
      (SpawnLaw fromSlice reader journal chain s) :=
  (hp session t).mono (fun _ _ _ hmore => h.after hmore) (fun _ _ _ hmore => h.after hmore)
    fun _ hmore => h.after hmore

theorem quiet_discover (process : PrivilegedProcessReceipt) (before : TargetIdentityManifest) :
    Quiet (discoverVerifiedPostState chain process before) := by
  have hattempt : Proc.Keeps Looked (discoverAttempt chain process before) := by
    unfold discoverAttempt
    apply (keeps_growthAsk fun _ h => by cases h).bind
    intro answer
    cases answer with
    | error error => exact .pure _
    | ok snapshot =>
      apply (keeps_growthAsk fun _ h => by cases h).bind
      intro capabilities
      apply Proc.Keeps.get.bind
      intro session
      apply (Proc.Keeps.lift _).bind
      intro _
      exact .lift _
  have hfrom : ∀ attempts lastError,
      Proc.Keeps Looked (discoverFrom chain process before attempts lastError) := by
    intro attempts
    induction attempts with
    | zero => exact fun _ => .throw _
    | succ attempts ih =>
      intro _
      unfold discoverFrom
      apply hattempt.bind
      intro attempt
      cases attempt with
      | verified fresh receipt => exact .pure _
      | transient error => exact ih error
  exact .of_keeps (hfrom _ _)

theorem classify_spawns (session : LockedExecutionSession) (s : St (growth τ)) :
    (executeAndClassifyProductionDescriptorLaunch fromSlice reader chain).Holds session s
      (fun _ _ => SpawnLaw fromSlice reader session.journal chain s)
      (fun _ _ => SpawnLaw fromSlice reader session.journal chain s)
      (SpawnLaw fromSlice reader session.journal chain s) := by
  unfold executeAndClassifyProductionDescriptorLaunch
  refine Proc.holds_bind.mpr ((raw_holds chain).mono ?_ (fun _ _ _ h => h.1) fun _ h => h)
  intro outcome after t h
  refine h.2.2.1.quiet (Quiet.bind (.orInterrupt (.of_keeps (.lift _))) fun receipt => ?_) after
  split
  · exact (quiet_onJournal _).mapError.bind fun _ => .of_keeps (.pure _)
  · exact .of_keeps (.pure _)

theorem step_spawns (session : LockedExecutionSession) (s : St (growth τ))
    (before : TargetIdentityManifest) :
    (executeVerifyAndPersistProductionStep fromSlice reader chain before).Holds session s
      (fun _ _ => SpawnLaw fromSlice reader session.journal chain s)
      (fun _ _ => SpawnLaw fromSlice reader session.journal chain s)
      (SpawnLaw fromSlice reader session.journal chain s) := by
  have hnothing : SpawnLaw fromSlice reader session.journal chain s s :=
    .of_unspawned (refl_of Unspawned s)
  unfold executeVerifyAndPersistProductionStep
  refine Proc.holds_bind.mpr ((orInterrupt_holds (fun _ => True)
    (SpawnLaw fromSlice reader session.journal chain s) (fun _ after t => after = session ∧ t = s)
    (fun _ _ => trivial) SpawnLaw.after (Proc.holds_lift.mpr ⟨fun _ _ => ⟨rfl, rfl⟩,
      fun _ _ => ⟨rfl, hnothing⟩⟩)).mono ?_ (fun _ _ _ h => h.1) fun _ h => h)
  intro _ after t h
  obtain ⟨rfl, rfl⟩ := h
  refine Proc.holds_bind.mpr (Proc.holds_mapError.mpr ((classify_spawns after t).mono ?_
    (fun _ _ _ h => h) fun _ h => h))
  intro process held u h
  apply h.quiet
  split
  · exact .of_keeps (.throw _)
  · apply (quiet_discover process before).orInterrupt.bind
    intro found
    exact (quiet_onJournal _).mapError.bind fun _ => .of_keeps (.pure _)

end Steps

end ProductionStep

end StorageManager.Executor
