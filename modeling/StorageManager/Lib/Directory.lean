import Mathlib.Data.List.AList
import StorageManager.Lib.RecordFile
import StorageManager.Lib.Strategy

/-!
# A directory of files

A directory maps names to files. Some calls only look at it; the others make an empty
file, fill it, or move names, each in one step. A refused call has no effect, but a
refused write may leave any beginning of its bytes. Nobody else works on the directory,
so an open descriptor shows the file its name had when it was opened.
-/

namespace StorageManager.Lib.Directory

open Effects
open RecordFile (Env)

set_option autoImplicit false

/-- A file name. One that is not UTF-8 is kept as its bytes. -/
inductive OsString where
  | text (value : String)
  | raw (bytes : List UInt8)
  deriving DecidableEq

def OsString.bytes : OsString → List UInt8
  | .text value => value.toUTF8.data.toList
  | .raw bytes => bytes

def OsString.toStr? : OsString → Option String
  | .text value => some value
  | .raw _ => none

/-- What `fstat` shows of a file, and its content. The stamp is the times of the last
changes; a rename leaves it here, as no caller compares it across one. -/
structure Node where
  regular : Bool
  dev : Nat
  ino : Nat
  uid : Nat
  mode : Nat
  nlink : Nat
  stamp : Nat
  bytes : List UInt8
  deriving DecidableEq

def Node.identity (n : Node) : Nat × Nat := (n.dev, n.ino)

/-- `same_file_version`. -/
def Node.sameVersion (a b : Node) : Bool :=
  a.regular == b.regular && a.dev == b.dev && a.ino == b.ino && a.mode == b.mode && a.uid == b.uid &&
    a.nlink == b.nlink && a.bytes.length == b.bytes.length && a.stamp == b.stamp

@[simp] theorem Node.sameVersion_self (n : Node) : n.sameVersion n = true := by
  simp [Node.sameVersion]

abbrev Dir := AList fun _ : OsString => Node

/-- Why a call was refused. -/
inductive Fault where
  | notFound
  | alreadyExists
  | loop
  | unsafeDirectory
  | changed
  | other (source : String)
  deriving DecidableEq

/-- Checks of the directory that answer nothing else. -/
inductive Check where
  | prepareDirectory (create : Bool)
  | openDirectory
  | watch
  | unchanged
  | liveNamespace
  | writer
  | sync
  deriving DecidableEq

inductive DirOp where
  | check (c : Check)
  | names
  | openFile (name : OsString)
  | fstat (node : Node)
  | read (node : Node) (limit : Nat)
  /-- Make an empty file whose name must be free. -/
  | createNew (name : OsString)
  /-- Fill the file and sync it. -/
  | write (name : OsString) (bytes : List UInt8)
  | exchange (first second : OsString)
  /-- Rename to a name that must be free. -/
  | publishNew (first second : OsString)

namespace DirOp

@[reducible] def Val : DirOp → Type
  | .names => List OsString
  | .openFile _ => Node
  | .fstat _ => Node
  | .read _ _ => List UInt8
  | .write _ _ => Node
  | _ => Unit

/-- A new file comes with an identity and attributes; of a refused write a beginning
may be there. -/
@[reducible] def Choice : DirOp → Type
  | .createNew _ => Except Fault Node
  | .write _ _ => Option (Fault × Nat)
  | _ => Option Fault

/-- The names in the order of their bytes. -/
def sortNames (names : List OsString) : List OsString :=
  names.mergeSort fun a b => decide (a.bytes ≤ b.bytes)

/-- An answer that leaves the directory as it is. -/
def answer {α : Type} (refused : Option Fault) (value : Except Fault α) (d : Dir) :
    Except Fault α × Dir :=
  match refused with
  | some fault => (.error fault, d)
  | none => (value, d)

def perform : (op : DirOp) → op.Choice → Dir → Except Fault op.Val × Dir
  | .check _, refused, d => answer refused (.ok ()) d
  | .names, refused, d => answer refused (.ok (sortNames d.keys)) d
  | .openFile name, refused, d => answer refused ((d.lookup name).elim (.error .notFound) .ok) d
  | .fstat node, refused, d => answer refused (.ok node) d
  | .read node limit, refused, d => answer refused (.ok (node.bytes.take limit)) d
  | .createNew _, .error fault, d => (.error fault, d)
  | .createNew name, .ok node, d =>
    if name ∈ d then (.error .alreadyExists, d)
    else (.ok (), d.insert name { node with regular := true, nlink := 1, bytes := [] })
  | .write name bytes, refused, d =>
    match d.lookup name, refused with
    | none, _ => (.error .notFound, d)
    | some node, none => (.ok { node with bytes }, d.insert name { node with bytes })
    | some node, some (fault, n) => (.error fault, d.insert name { node with bytes := bytes.take n })
  | .exchange _ _, some fault, d => (.error fault, d)
  | .exchange first second, none, d =>
    match d.lookup first, d.lookup second with
    | some a, some b => (.ok (), (d.insert first b).insert second a)
    | _, _ => (.error .notFound, d)
  | .publishNew _ _, some fault, d => (.error fault, d)
  | .publishNew first second, none, d =>
    match d.lookup first, d.lookup second with
    | none, _ => (.error .notFound, d)
    | some _, some _ => (.error .alreadyExists, d)
    | some a, none => (.ok (), (d.erase first).insert second a)

/-- The calls that only look. -/
def Looks : DirOp → Prop
  | .check _ | .names | .openFile _ | .fstat _ | .read _ _ => True
  | _ => False

end DirOp

/-- The calls on the directory beside the calls of `E`, which leave it alone. -/
@[reducible] def interface (E : Env) : Interface where
  Op := DirOp ⊕ E.Op
  Choice
    | .inl op => op.Choice
    | .inr op => E.Ans op
  Ans
    | .inl op => Except Fault op.Val
    | .inr op => E.Ans op
  World := Dir
  perform
    | .inl op, c, d => op.perform c d
    | .inr _, a, d => (a, d)

abbrev DirProc (E : Env) (μ ε : Type) := Proc (interface E) μ ε

variable {E : Env} {μ ε α : Type}

/-- One call on the directory. -/
def dir (op : DirOp) : DirProc E μ ε (Except Fault op.Val) :=
  Proc.perform (I := interface E) (Sum.inl op)

/-- One call of the environment. -/
def ask (op : E.Op) : DirProc E μ ε (E.Ans op) := Proc.perform (I := interface E) (Sum.inr op)

/-- One call on the directory whose refusal is the caller's error. -/
def onDir (fault : Fault → ε) (op : DirOp) : DirProc E μ ε op.Val := do
  match ← dir op with
  | .ok a => pure a
  | .error f => Proc.throw (fault f)

/-- The choice that lets a call happen; a new file gets the attributes of `made`. -/
def DirOp.granted (made : Node) : (op : DirOp) → op.Choice
  | .createNew _ => .ok made
  | .write _ _ => none
  | .check _ => none
  | .names => none
  | .openFile _ => none
  | .fstat _ => none
  | .read _ _ => none
  | .exchange _ _ => none
  | .publishNew _ _ => none

/-- Nothing is refused. -/
def granted (made : Node) (answers : (op : E.Op) → E.Ans op) : Strategy (interface E)
  | _, .inl op => op.granted made
  | _, .inr op => answers op

/-- A function that only looks: on this directory it returns this. -/
def Shows (σ : Strategy (interface E)) (d : Dir) (p : DirProc E μ ε α) (r : Except ε α) : Prop :=
  ∀ m s, s.world = d → ∃ t, t.world = d ∧ Proc.Plays σ p m s r m t

namespace Shows

variable {β ε' : Type} {σ : Strategy (interface E)} {d : Dir}

theorem pure (a : α) : Shows σ d (Pure.pure a : DirProc E μ ε α) (.ok a) :=
  fun _ s hs => ⟨s, hs, .pure a⟩

theorem ite_pure {c : Prop} [Decidable c] (a b : α) :
    Shows σ d (if c then Pure.pure a else Pure.pure b : DirProc E μ ε α)
      (.ok (if c then a else b)) := by
  by_cases hc : c
  · rw [if_pos hc, if_pos hc]
    exact pure a
  · rw [if_neg hc, if_neg hc]
    exact pure b

theorem throw (e : ε) : Shows σ d (Proc.throw e : DirProc E μ ε α) (.error e) :=
  fun _ s hs => ⟨s, hs, .throw e⟩

theorem lift (r : Except ε α) : Shows σ d (Proc.lift r : DirProc E μ ε α) r :=
  fun _ s hs => ⟨s, hs, .lift rfl⟩

/-- Two functions one after the other show what their results say one after the other. -/
theorem bind {p : DirProc E μ ε α} {f : α → DirProc E μ ε β} {r : Except ε α}
    {g : α → Except ε β} (hp : Shows σ d p r) (hf : ∀ a, r = .ok a → Shows σ d (f a) (g a)) :
    Shows σ d (p >>= f) (r >>= g) := by
  intro m s hs
  obtain ⟨t, ht, hplays⟩ := hp m s hs
  cases r with
  | error e => exact ⟨t, ht, hplays.bind_error⟩
  | ok a =>
    obtain ⟨u, hu, hrest⟩ := hf a rfl m t ht
    exact ⟨u, hu, hplays.bind hrest⟩

theorem bind_error {p : DirProc E μ ε α} {f : α → DirProc E μ ε β} {e : ε}
    (hp : Shows σ d p (.error e)) : Shows σ d (p >>= f) (.error e) := by
  intro m s hs
  obtain ⟨t, ht, hplays⟩ := hp m s hs
  exact ⟨t, ht, hplays.bind_error⟩

/-- After a function whose result is known. -/
theorem step {p : DirProc E μ ε α} {f : α → DirProc E μ ε β} {a : α} {r : Except ε β}
    (hp : Shows σ d p (.ok a)) (hf : Shows σ d (f a) r) : Shows σ d (p >>= f) r := by
  intro m s hs
  obtain ⟨t, ht, hplays⟩ := hp m s hs
  obtain ⟨u, hu, hrest⟩ := hf m t ht
  exact ⟨u, hu, hplays.bind hrest⟩

theorem mapError {p : DirProc E μ ε α} {r : Except ε α} (g : ε → ε') (hp : Shows σ d p r) :
    Shows σ d (Proc.mapError g p) (r.mapError g) := by
  intro m s hs
  obtain ⟨t, ht, hplays⟩ := hp m s hs
  exact ⟨t, ht, hplays.mapError⟩

theorem attempt {p : DirProc E μ ε α} {r : Except ε α} (hp : Shows σ d p r) :
    Shows σ d (Proc.attempt p : DirProc E μ ε' (Except ε α)) (.ok r) := by
  intro m s hs
  obtain ⟨t, ht, hplays⟩ := hp m s hs
  exact ⟨t, ht, hplays.attempt⟩

theorem of_eq {p : DirProc E μ ε α} {r r' : Except ε α} (hp : Shows σ d p r) (h : r = r') :
    Shows σ d p r' := by
  rw [← h]
  exact hp

theorem returns_iff {p : DirProc E μ ε α} {r : Except ε α} {m : μ} {s : St (interface E)}
    {a : α} (hp : Shows σ d p r) (hs : s.world = d) : Proc.Returns σ p m s a ↔ r = .ok a := by
  obtain ⟨t, -, hplays⟩ := hp m s hs
  exact hplays.returns_iff

/-- A call that only looks shows its answer. -/
theorem onDir {made : Node} {answers : (op : E.Op) → E.Ans op} {fault : Fault → ε} (op : DirOp)
    (hop : op.Looks) : Shows (granted made answers) d (onDir fault op : DirProc E μ ε op.Val)
      ((op.perform (op.granted made) d).1.mapError fault) := by
  intro m s hs
  have hsame : (op.perform (op.granted made) d).2 = d := by
    cases op <;> first | rfl | exact hop.elim
  refine ⟨s.call (.inl op) (op.granted made), ?_, ?_⟩
  · show (op.perform (op.granted made) s.world).2 = d
    rw [hs]
    exact hsame
  · refine Proc.Plays.bind (Proc.Plays.perform (I := interface E) (.inl op)) ?_
    show Proc.Plays _ (match (op.perform (op.granted made) s.world).1 with
      | .ok a => Pure.pure a
      | .error f => Proc.throw (fault f)) m _ _ m _
    rw [hs]
    cases (op.perform (op.granted made) d).1 with
    | ok a => exact .pure a
    | error f => exact .throw _

theorem ask {made : Node} {answers : (op : E.Op) → E.Ans op} (op : E.Op) :
    Shows (granted made answers) d (ask op : DirProc E μ ε _) (.ok (answers op)) :=
  fun _ s hs => ⟨s.call (.inr op) (answers op), hs, rfl⟩

end Shows

/-- A function that writes: from this directory it returns this and leaves that one. -/
def Yields (σ : Strategy (interface E)) (d : Dir) (p : DirProc E μ ε α) (r : Except ε α)
    (d' : Dir) : Prop :=
  ∀ m s, s.world = d → ∃ t, t.world = d' ∧ Proc.Plays σ p m s r m t

theorem Shows.yields {σ : Strategy (interface E)} {d : Dir} {p : DirProc E μ ε α} {r : Except ε α}
    (h : Shows σ d p r) : Yields σ d p r d := h

namespace Yields

variable {β ε' : Type} {σ : Strategy (interface E)} {d d' d'' : Dir}

theorem step {p : DirProc E μ ε α} {f : α → DirProc E μ ε β} {a : α} {r : Except ε β}
    (hp : Yields σ d p (.ok a) d') (hf : Yields σ d' (f a) r d'') : Yields σ d (p >>= f) r d'' := by
  intro m s hs
  obtain ⟨t, ht, hplays⟩ := hp m s hs
  obtain ⟨u, hu, hrest⟩ := hf m t ht
  exact ⟨u, hu, hplays.bind hrest⟩

theorem bind_error {p : DirProc E μ ε α} {f : α → DirProc E μ ε β} {e : ε}
    (hp : Yields σ d p (.error e) d') : Yields σ d (p >>= f) (.error e) d' := by
  intro m s hs
  obtain ⟨t, ht, hplays⟩ := hp m s hs
  exact ⟨t, ht, hplays.bind_error⟩

theorem mapError {p : DirProc E μ ε α} {r : Except ε α} (g : ε → ε') (hp : Yields σ d p r d') :
    Yields σ d (Proc.mapError g p) (r.mapError g) d' := by
  intro m s hs
  obtain ⟨t, ht, hplays⟩ := hp m s hs
  exact ⟨t, ht, hplays.mapError⟩

/-- A call that is granted. -/
theorem onDir {made : Node} {answers : (op : E.Op) → E.Ans op} {fault : Fault → ε} {op : DirOp}
    {r : Except Fault op.Val} (h : op.perform (op.granted made) d = (r, d')) :
    Yields (granted made answers) d (onDir fault op : DirProc E μ ε op.Val) (r.mapError fault) d' := by
  intro m s hs
  refine ⟨s.call (.inl op) (op.granted made), ?_, ?_⟩
  · show (op.perform (op.granted made) s.world).2 = d'
    rw [hs, h]
  · refine Proc.Plays.bind (Proc.Plays.perform (I := interface E) (.inl op)) ?_
    show Proc.Plays _ (match (op.perform (op.granted made) s.world).1 with
      | .ok a => Pure.pure a
      | .error f => Proc.throw (fault f)) m _ _ m _
    rw [hs, h]
    cases r with
    | ok a => exact .pure a
    | error f => exact .throw _

/-- There is one run, so there is one result. -/
theorem returns_iff {p : DirProc E μ ε α} {r : Except ε α} {m : μ} {s : St (interface E)}
    {a : α} (hp : Yields σ d p r d') (hs : s.world = d) : Proc.Returns σ p m s a ↔ r = .ok a := by
  obtain ⟨t, -, hplays⟩ := hp m s hs
  exact hplays.returns_iff

end Yields

/-- Some run from this directory returns this and leaves that one. -/
def MayYield (d : Dir) (p : DirProc E μ ε α) (r : Except ε α) (d' : Dir) : Prop :=
  ∀ m s, s.world = d → ∃ t, t.world = d' ∧ Proc.Can p m s r m t

theorem Yields.may {σ : Strategy (interface E)} {d d' : Dir} {p : DirProc E μ ε α}
    {r : Except ε α} (h : Yields σ d p r d') : MayYield d p r d' := by
  intro m s hs
  obtain ⟨t, ht, hplays⟩ := h m s hs
  exact ⟨t, ht, hplays.can⟩

namespace MayYield

variable {β ε' : Type} {d d' d'' : Dir}

theorem step {p : DirProc E μ ε α} {f : α → DirProc E μ ε β} {a : α} {r : Except ε β}
    (hp : MayYield d p (.ok a) d') (hf : MayYield d' (f a) r d'') : MayYield d (p >>= f) r d'' := by
  intro m s hs
  obtain ⟨t, ht, hcan⟩ := hp m s hs
  obtain ⟨u, hu, hrest⟩ := hf m t ht
  exact ⟨u, hu, hcan.bind hrest⟩

theorem bind_error {p : DirProc E μ ε α} {f : α → DirProc E μ ε β} {e : ε}
    (hp : MayYield d p (.error e) d') : MayYield d (p >>= f) (.error e) d' := by
  intro m s hs
  obtain ⟨t, ht, hcan⟩ := hp m s hs
  exact ⟨t, ht, hcan.bind_error⟩

theorem mapError {p : DirProc E μ ε α} {r : Except ε α} (g : ε → ε') (hp : MayYield d p r d') :
    MayYield d (Proc.mapError g p) (r.mapError g) d' := by
  intro m s hs
  obtain ⟨t, ht, hcan⟩ := hp m s hs
  exact ⟨t, ht, hcan.mapError⟩

/-- A call that goes as it is chosen to go. -/
theorem onDir {fault : Fault → ε} {op : DirOp} (c : op.Choice) {r : Except Fault op.Val}
    (h : op.perform c d = (r, d')) :
    MayYield d (onDir fault op : DirProc E μ ε op.Val) (r.mapError fault) d' := by
  intro m s hs
  refine ⟨s.call (.inl op) c, ?_, ?_⟩
  · show (op.perform c s.world).2 = d'
    rw [hs, h]
  · refine Proc.Can.bind (Proc.Can.perform (I := interface E) c) ?_
    show Proc.Can (match (op.perform c s.world).1 with
      | .ok a => Pure.pure a
      | .error f => Proc.throw (fault f)) m _ _ m _
    rw [hs, h]
    cases r with
    | ok a => exact .pure a
    | error f => exact .throw _

end MayYield

/-- Every run from this directory, cut anywhere: it succeeds in `Q` or leaves `R` behind. -/
structure Leads (d : Dir) (p : DirProc E μ ε α) (Q : α → Dir → Prop) (R : Dir → Prop) : Prop where
  holds : ∀ m s, s.world = d → p.Holds m s (fun a m' t => m' = m ∧ Q a t.world)
    (fun _ m' t => m' = m ∧ R t.world) fun t => R t.world

/-- A function that only looks: what it returns has `Q`. -/
abbrev Sees (d : Dir) (p : DirProc E μ ε α) (Q : α → Prop) : Prop :=
  Leads d p (fun a d' => d' = d ∧ Q a) (· = d)

namespace Leads

variable {β ε' : Type} {d : Dir} {R : Dir → Prop} {Q : α → Dir → Prop} {Q' : β → Dir → Prop}

theorem pure {a : α} (h : Q a d) : Leads d (Pure.pure a : DirProc E μ ε α) Q R := by
  refine ⟨fun m s hs => ?_⟩
  rw [← hs] at h
  exact ⟨rfl, h⟩

theorem throw {e : ε} (h : R d) : Leads d (Proc.throw e : DirProc E μ ε α) Q R := by
  refine ⟨fun m s hs => ?_⟩
  rw [← hs] at h
  exact ⟨rfl, h⟩

theorem lift {r : Except ε α} (h : ∀ a, r = .ok a → Q a d) (hR : R d) :
    Leads d (Proc.lift r : DirProc E μ ε α) Q R := by
  refine ⟨fun m s hs => ?_⟩
  rw [← hs] at h hR
  exact Proc.holds_lift.mpr ⟨fun a ha => ⟨rfl, h a ha⟩, fun _ _ => ⟨rfl, hR⟩⟩

theorem bind {p : DirProc E μ ε α} {f : α → DirProc E μ ε β} (hp : Leads d p Q R)
    (hf : ∀ a d', Q a d' → Leads d' (f a) Q' R) : Leads d (p >>= f) Q' R := by
  refine ⟨fun m s hs => ?_⟩
  refine (hp.holds m s hs).bind ?_
  rintro a m' t ⟨rfl, hQ⟩
  exact (hf a t.world hQ).holds m' t rfl

theorem mono {p : DirProc E μ ε α} {Q₁ : α → Dir → Prop} {R₁ : Dir → Prop} (hp : Leads d p Q R)
    (hQ : ∀ a d', Q a d' → Q₁ a d') (hR : ∀ d', R d' → R₁ d') : Leads d p Q₁ R₁ := by
  refine ⟨fun m s hs => ?_⟩
  exact (hp.holds m s hs).mono (fun a _ t h => ⟨h.1, hQ a t.world h.2⟩)
    (fun _ _ t h => ⟨h.1, hR t.world h.2⟩) fun t h => hR t.world h

theorem mapError {p : DirProc E μ ε α} {g : ε → ε'} (hp : Leads d p Q R) :
    Leads d (Proc.mapError g p) Q R := ⟨fun m s hs => Proc.holds_mapError.mpr (hp.holds m s hs)⟩

/-- A call of the directory: what it can do, granted or refused. -/
theorem onDir {fault : Fault → ε} {op : DirOp} {Q : op.Val → Dir → Prop}
    (hok : ∀ c a, (op.perform c d).1 = .ok a → Q a (op.perform c d).2)
    (herror : ∀ c f, (op.perform c d).1 = .error f → R (op.perform c d).2) (hR : R d) :
    Leads d (onDir fault op : DirProc E μ ε op.Val) Q R := by
  refine ⟨fun m s hs => ?_⟩
  subst hs
  refine Proc.holds_bind.mpr ⟨hR, fun c => ?_⟩
  show Proc.Holds (match (op.perform c s.world).1 with
    | .ok a => Pure.pure a
    | .error f => Proc.throw (fault f)) m (s.call (.inl op) c) _ _ _
  cases hresult : (op.perform c s.world).1 with
  | ok a => exact ⟨rfl, hok c a hresult⟩
  | error f => exact ⟨rfl, herror c f hresult⟩

theorem ask {op : E.Op} {Q : E.Ans op → Dir → Prop} (h : ∀ a, Q a d) (hR : R d) :
    Leads d (ask op : DirProc E μ ε _) Q R := by
  refine ⟨fun m s hs => ?_⟩
  subst hs
  exact ⟨hR, fun c => ⟨rfl, h c⟩⟩

section Writing

variable {fault : Fault → ε} {name second : OsString} {file other : Node}
  {Q : Unit → Dir → Prop}

theorem createNew (hR : R d) (hQ : d.lookup name = none → ∀ node, Q () (d.insert name node)) :
    Leads d (Directory.onDir fault (.createNew name) : DirProc E μ ε Unit) Q R := by
  by_cases hmem : name ∈ d
  · refine onDir (fun c a ha => ?_) (fun c f _ => ?_) hR
    · cases c with
      | error f => cases ha
      | ok node =>
        have hperform : DirOp.perform (.createNew name) (.ok node) d = (.error .alreadyExists, d) :=
          if_pos hmem
        rw [hperform] at ha
        cases ha
    · cases c with
      | error f => exact hR
      | ok node =>
        have hperform : DirOp.perform (.createNew name) (.ok node) d = (.error .alreadyExists, d) :=
          if_pos hmem
        rw [hperform]
        exact hR
  · have hlookup : d.lookup name = none := AList.lookup_eq_none.mpr hmem
    have hperform : ∀ node, DirOp.perform (.createNew name) (.ok node) d =
        (.ok (), d.insert name { node with regular := true, nlink := 1, bytes := [] }) :=
      fun node => if_neg hmem
    refine onDir (fun c a ha => ?_) (fun c f hf => ?_) hR
    · cases c with
      | error f => cases ha
      | ok node =>
        rw [hperform]
        exact hQ hlookup _
    · cases c with
      | error f => exact hR
      | ok node =>
        rw [hperform] at hf
        cases hf

/-- A refused write may leave any beginning of the bytes. -/
theorem write {bytes : List UInt8} {Q : Node → Dir → Prop} (hlookup : d.lookup name = some file)
    (hR : R d) (hprefixes : ∀ n, R (d.insert name { file with bytes := bytes.take n }))
    (hQ : Q { file with bytes } (d.insert name { file with bytes })) :
    Leads d (Directory.onDir fault (.write name bytes) : DirProc E μ ε Node) Q R := by
  have hperform : ∀ c, DirOp.perform (.write name bytes) c d = match c with
      | none => (.ok { file with bytes }, d.insert name { file with bytes })
      | some (f, n) => (.error f, d.insert name { file with bytes := bytes.take n }) := by
    intro c
    cases c <;> simp only [DirOp.perform, hlookup]
  refine onDir (fun c a ha => ?_) (fun c f hf => ?_) hR
  · rw [hperform] at ha ⊢
    cases c with
    | none =>
      cases ha
      exact hQ
    | some refused => cases ha
  · rw [hperform] at hf ⊢
    cases c with
    | none => cases hf
    | some refused => exact hprefixes refused.2

theorem exchange (hfirst : d.lookup name = some file) (hsecond : d.lookup second = some other)
    (hR : R d) (hQ : Q () ((d.insert name other).insert second file)) :
    Leads d (Directory.onDir fault (.exchange name second) : DirProc E μ ε Unit) Q R := by
  have hperform : DirOp.perform (.exchange name second) none d =
      (.ok (), (d.insert name other).insert second file) := by
    simp only [DirOp.perform, hfirst, hsecond]
  refine onDir (fun c a ha => ?_) (fun c f hf => ?_) hR
  · cases c with
    | none =>
      rw [hperform]
      exact hQ
    | some f => cases ha
  · cases c with
    | none =>
      rw [hperform] at hf
      cases hf
    | some f => exact hR

theorem publishNew (hfirst : d.lookup name = some file) (hR : R d)
    (hQ : d.lookup second = none → Q () ((d.erase name).insert second file)) :
    Leads d (Directory.onDir fault (.publishNew name second) : DirProc E μ ε Unit) Q R := by
  cases hsecond : d.lookup second with
  | none =>
    have hperform : DirOp.perform (.publishNew name second) none d =
        (.ok (), (d.erase name).insert second file) := by
      simp only [DirOp.perform, hfirst, hsecond]
    refine onDir (fun c a ha => ?_) (fun c f hf => ?_) hR
    · cases c with
      | none =>
        rw [hperform]
        exact hQ hsecond
      | some f => cases ha
    · cases c with
      | none =>
        rw [hperform] at hf
        cases hf
      | some f => exact hR
  | some taken =>
    have hperform : DirOp.perform (.publishNew name second) none d = (.error .alreadyExists, d) := by
      simp only [DirOp.perform, hfirst, hsecond]
    refine onDir (fun c a ha => ?_) (fun c f hf => ?_) hR
    · cases c with
      | none =>
        rw [hperform] at ha
        cases ha
      | some f => cases ha
    · cases c with
      | none =>
        rw [hperform]
        exact hR
      | some f => exact hR

end Writing

end Leads

namespace Sees

variable {β ε' : Type} {d : Dir} {Q : α → Prop} {Q' : β → Prop}

/-- Going on after a function that only looks. -/
theorem andThen {R : Dir → Prop} {P : β → Dir → Prop} {p : DirProc E μ ε α}
    {f : α → DirProc E μ ε β} (hp : Sees d p Q) (hR : R d)
    (hf : ∀ a, Q a → Leads d (f a) P R) : Leads d (p >>= f) P R := by
  refine Leads.bind (hp.mono (fun _ _ h => h) fun d' hd' => ?_) ?_
  · rw [hd']
    exact hR
  · rintro a d' ⟨rfl, hQ⟩
    exact hf a hQ

theorem pure {a : α} (h : Q a) : Sees d (Pure.pure a : DirProc E μ ε α) Q := Leads.pure ⟨rfl, h⟩

theorem throw {e : ε} : Sees d (Proc.throw e : DirProc E μ ε α) Q := Leads.throw rfl

theorem lift {r : Except ε α} (h : ∀ a, r = .ok a → Q a) :
    Sees d (Proc.lift r : DirProc E μ ε α) Q := Leads.lift (fun a ha => ⟨rfl, h a ha⟩) rfl

/-- What a computation without calls returns, if it does. -/
theorem lifted (r : Except ε α) :
    Sees d (Proc.lift r : DirProc E μ ε α) fun a => r = .ok a := lift fun _ h => h

theorem bind {p : DirProc E μ ε α} {f : α → DirProc E μ ε β} (hp : Sees d p Q)
    (hf : ∀ a, Q a → Sees d (f a) Q') : Sees d (p >>= f) Q' := hp.andThen rfl hf

theorem imp {p : DirProc E μ ε α} {Q₁ : α → Prop} (hp : Sees d p Q) (hQ : ∀ a, Q a → Q₁ a) :
    Sees d p Q₁ := Leads.mono hp (fun a _ h => ⟨h.1, hQ a h.2⟩) fun _ h => h

theorem mapError {p : DirProc E μ ε α} {g : ε → ε'} (hp : Sees d p Q) :
    Sees d (Proc.mapError g p) Q := Leads.mapError hp

theorem ask {op : E.Op} {Q : E.Ans op → Prop} (h : ∀ a, Q a) :
    Sees d (ask op : DirProc E μ ε _) Q := Leads.ask (fun a => ⟨rfl, h a⟩) rfl

end Sees

/-- A call that only looks leaves the directory alone. -/
theorem DirOp.perform_looks {op : DirOp} (hop : op.Looks) (c : op.Choice) (d : Dir) :
    (op.perform c d).2 = d := by
  cases op <;> first | exact hop.elim | cases c <;> rfl

/-- A call that only looks answers what is there, or is refused. -/
theorem sees_onDir {fault : Fault → ε} {op : DirOp} {d : Dir} {Q : op.Val → Prop} (hop : op.Looks)
    (h : ∀ c a, (op.perform c d).1 = .ok a → Q a) :
    Sees d (onDir fault op : DirProc E μ ε op.Val) Q := by
  refine Leads.onDir (fun c a ha => ⟨?_, h c a ha⟩) (fun c f _ => ?_) rfl
  · exact DirOp.perform_looks hop c d
  · exact DirOp.perform_looks hop c d

end StorageManager.Lib.Directory
