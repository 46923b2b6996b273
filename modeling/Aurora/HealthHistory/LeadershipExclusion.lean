/-
  At most one leader of a protected directory.

  1. In the kernel every process has its own descriptors, a lock file has one holder, and closing a
     descriptor gives its lock back (`Kernel`).  Any call may fail.  Others may take free locks, and
     put another lock file in the place of one that no session holds (`Outside`).

  2. `Sound` says what a stage of a session means in the kernel.  What the others do and what other
     sessions do spares it (`Spares`); what the session does itself moves it on as its stage goes.

  3. A session that leads holds the lock of the lock file that is in the directory.  Two sessions
     that lead in one directory hold the same lock, so they are one (`one_leader`).
-/
import Aurora.HealthHistory.LeadershipStages
import Aurora.Lib.Threads

namespace Aurora.HealthHistory.LeadershipLock

open Program Filesystem

/-! ## The kernel -/

/-- Who holds a lock: a descriptor of a process, or someone else. -/
inductive Holder (Tid : Type)
  | session (t : Tid) (d : Descriptor)
  | outsider
  deriving DecidableEq

/-- The lock files, and the descriptors that are open on them. -/
structure LockWorld (Tid : Type) where
  /-- What the descriptors of a process are open on. -/
  node : Tid → Descriptor → Option Node
  /-- The lock file in each directory. -/
  entry : Node → Option Node
  holder : Node → Option (Holder Tid)

section Spares

variable {Tid : Type} {w w' w₁ w₂ : LockWorld Tid} {t u : Tid} {directoryNode : Node} {stage : Stage}

namespace LockWorld

/-- The descriptor holds the lock. -/
def locked (w : LockWorld Tid) (t : Tid) (d : Descriptor) (n : Node) : LockWorld Tid :=
  { w with holder := Function.update w.holder n (some (.session t d)) }

/-- The directory has a new lock file. -/
def created (w : LockWorld Tid) (directory n : Node) : LockWorld Tid :=
  { w with entry := Function.update w.entry directory (some n) }

end LockWorld

/-- What others may do at any time: they take and give back locks of their own, and replace lock
    files that no session holds. -/
structure Outside (w w' : LockWorld Tid) : Prop where
  node : w'.node = w.node
  holder : ∀ n t d, w'.holder n = some (.session t d) ↔ w.holder n = some (.session t d)
  entry : ∀ directory n t d, w.entry directory = some n → w.holder n = some (.session t d) →
    w'.entry directory = some n

/-! ## What a stage means -/

/-- What a session knows at a stage, if the path leads to this directory. -/
def Sound (w : LockWorld Tid) (t : Tid) (directoryNode : Node) : Stage → Prop
  | .searching roots => ∀ d ∈ roots, w.node t d = some directoryNode
  | .found directory lock => w.node t directory = some directoryNode ∧ ∃ n, w.node t lock = some n
  | .locked directory lock lockNode entryNode =>
    w.node t directory = some directoryNode ∧ ∃ n, w.node t lock = some n ∧
      w.holder n = some (.session t lock) ∧ (∀ k, lockNode = some k → k = n) ∧
        (entryNode = some n → w.entry directoryNode = some n)
  | .sure lock => ∃ n, w.node t lock = some n ∧ w.holder n = some (.session t lock) ∧
    w.entry directoryNode = some n
  | .ended => True

/-- A change that takes nothing from a process: its descriptors and locks stay, and so do the lock
    files it holds. -/
structure Spares (t : Tid) (w w' : LockWorld Tid) : Prop where
  node : ∀ d n, w.node t d = some n → w'.node t d = some n
  holder : ∀ n d, w.holder n = some (.session t d) → w'.holder n = some (.session t d)
  entry : ∀ directory n d, w.entry directory = some n → w.holder n = some (.session t d) →
    w'.entry directory = some n

theorem Spares.refl (t : Tid) (w : LockWorld Tid) : Spares t w w :=
  ⟨fun _ _ h => h, fun _ _ h => h, fun _ _ _ h _ => h⟩

theorem Spares.trans (h : Spares t w w₁) (h' : Spares t w₁ w₂) :
    Spares t w w₂ where
  node := fun d n hn => h'.node d n (h.node d n hn)
  holder := fun n d hn => h'.holder n d (h.holder n d hn)
  entry := fun directory n d hn hholder =>
    h'.entry directory n d (h.entry directory n d hn hholder) (h.holder n d hholder)

/-- What happens outside the sessions spares every one of them. -/
theorem Outside.spares {w w' : LockWorld Tid} (h : Outside w w') (t : Tid) : Spares t w w' where
  node := fun d n hn => by rw [h.node]; exact hn
  holder := fun n d hn => (h.holder n t d).mpr hn
  entry := fun directory n d => h.entry directory n t d

/-- A sound stage stays sound while others act. -/
theorem Sound.spared (h : Sound w t directoryNode stage) (hspares : Spares t w w') :
    Sound w' t directoryNode stage := by
  cases stage with
  | searching roots => exact fun d hd => hspares.node d _ (h d hd)
  | found directory lock =>
    obtain ⟨hdirectory, n, hn⟩ := h
    exact ⟨hspares.node _ _ hdirectory, n, hspares.node _ _ hn⟩
  | locked directory lock lockNode entryNode =>
    obtain ⟨hdirectory, n, hn, hholder, hlock, hentry⟩ := h
    exact ⟨hspares.node _ _ hdirectory, n, hspares.node _ _ hn, hspares.holder _ _ hholder, hlock,
      fun heq => hspares.entry _ _ _ (hentry heq) hholder⟩
  | sure lock =>
    obtain ⟨n, hn, hholder, hentry⟩ := h
    exact ⟨n, hspares.node _ _ hn, hspares.holder _ _ hholder,
      hspares.entry _ _ _ hentry hholder⟩
  | ended => trivial

theorem spares_created {directory n : Node} (hentry : w.entry directory = none) :
    Spares t w (w.created directory n) where
  node := fun _ _ h => h
  holder := fun _ _ h => h
  entry := by
    intro directory' n' d h _
    have hne : directory' ≠ directory := by
      rintro rfl
      rw [hentry] at h
      cases h
    exact (Function.update_of_ne hne ..).trans h

/-- Taking a free lock spares the others. -/
theorem spares_locked {d : Descriptor} {n : Node}
    (hfree : w.holder n = none ∨ w.holder n = some (.session u d)) :
    Spares t w (w.locked u d n) where
  node := fun _ _ h => h
  holder := by
    intro n' d' h
    show Function.update w.holder n (some (.session u d)) n' = some (.session t d')
    by_cases hn : n' = n
    · subst hn
      rcases hfree with hfree | hfree
      · rw [hfree] at h
        cases h
      · rw [Function.update_self, ← hfree, h]
    · rw [Function.update_of_ne hn]
      exact h
  entry := fun _ _ _ h _ => h

/-- The ledger of a session lists descriptors that are open. -/
structure Open (w : LockWorld Tid) (t : Tid) (held : List Descriptor) : Prop where
  nodup : held.Nodup
  open_on : ∀ d ∈ held, ∃ n, w.node t d = some n

/-- Open descriptors stay open while others act. -/
theorem Open.spared {held : List Descriptor} (h : Open w t held) (hspares : Spares t w w') :
    Open w' t held where
  nodup := h.nodup
  open_on := by
    intro d hd
    obtain ⟨n, hn⟩ := h.open_on d hd
    exact ⟨n, hspares.node d n hn⟩

end Spares

section Kernel

variable {Tid : Type} [DecidableEq Tid]

/-! ## The calls -/

namespace LockWorld

/-- The descriptor is open on the file. -/
def opened (w : LockWorld Tid) (t : Tid) (d : Descriptor) (n : Node) : LockWorld Tid :=
  { w with node := Function.update w.node t (Function.update (w.node t) d (some n)) }

/-- The descriptor holds no lock any more. -/
def released (w : LockWorld Tid) (t : Tid) (d : Descriptor) : LockWorld Tid :=
  { w with holder := fun n => if w.holder n = some (.session t d) then none else w.holder n }

/-- The descriptor is closed, and its lock with it. -/
def closed (w : LockWorld Tid) (t : Tid) (d : Descriptor) : LockWorld Tid :=
  { w.released t d with node := Function.update w.node t (Function.update (w.node t) d none) }

end LockWorld

/-- Calls that neither open, close nor lock, and show nothing of a lock file. -/
def Indifferent : FileCall → Prop
  | .lstat _ | .fchmod _ | .fsync _ | .unlink _ | .lead => True
  | .statAt _ name => name ≠ leadershipLockFilename
  | _ => False

/-- A call of a process, in a kernel where each path leads to one directory. -/
inductive Kernel (place : Path → Node) (w : LockWorld Tid) (t : Tid) :
    FileExchange → LockWorld Tid → Prop
  | fails (c : FileCall) (e : OsError) : Kernel place w t ⟨c, .error e⟩ w
  | indifferent {c : FileCall} (h : Indifferent c) (answer : FileInterface.Answer c) :
    Kernel place w t ⟨c, answer⟩ w
  | fstat {d : Descriptor} {m : Metadata} (h : w.node t d = some (nodeOf m)) :
    Kernel place w t ⟨.fstat d, .ok m⟩ w
  | statEntry {parent : Descriptor} {directory : Node} {m : Metadata}
      (hparent : w.node t parent = some directory) (h : w.entry directory = some (nodeOf m)) :
    Kernel place w t ⟨.statAt parent leadershipLockFilename, .ok m⟩ w
  | directory {path : Path} {d : Descriptor} (hd : w.node t d = none) :
    Kernel place w t ⟨.opening (.directory path), .ok d⟩ (w.opened t d (place path))
  | directoryAt {parent : Descriptor} {name : String} {d : Descriptor} (hd : w.node t d = none)
      (n : Node) : Kernel place w t ⟨.opening (.directoryAt parent name), .ok d⟩ (w.opened t d n)
  | read {path : Path} {d : Descriptor} (hd : w.node t d = none) (n : Node) :
    Kernel place w t ⟨.opening (.read path), .ok d⟩ (w.opened t d n)
  | new {path : Path} {d : Descriptor} (hd : w.node t d = none) (n : Node) :
    Kernel place w t ⟨.opening (.new path), .ok d⟩ (w.opened t d n)
  | existing {parent d : Descriptor} {directory n : Node}
      (hparent : w.node t parent = some directory) (hentry : w.entry directory = some n)
      (hd : w.node t d = none) :
    Kernel place w t ⟨.opening (.fileAt parent leadershipLockFilename false), .ok d⟩ (w.opened t d n)
  | creates {parent d : Descriptor} {directory : Node}
      (hparent : w.node t parent = some directory) (hentry : w.entry directory = none)
      (hd : w.node t d = none) (n : Node) :
    Kernel place w t ⟨.opening (.fileAt parent leadershipLockFilename true), .ok d⟩
      ((w.created directory n).opened t d n)
  | closes (d : Descriptor) (answer : Except OsError Unit) :
    Kernel place w t ⟨.close d, answer⟩ (w.closed t d)
  | locks {d : Descriptor} {n : Node} (h : w.node t d = some n)
      (hfree : w.holder n = none ∨ w.holder n = some (.session t d)) :
    Kernel place w t ⟨.lock d, .ok ()⟩ (w.locked t d n)
  | unlocks (d : Descriptor) : Kernel place w t ⟨.unlock d, .ok ()⟩ (w.released t d)

/-- The others do something, and then the kernel serves the call. -/
def Served (place : Path → Node) (w : LockWorld Tid) (t : Tid) (x : FileExchange)
    (w' : LockWorld Tid) : Prop := ∃ m, Outside w m ∧ Kernel place m t x w'

variable {place : Path → Node} {w w' : LockWorld Tid} {t u : Tid} {directoryNode : Node}
  {stage : Stage}

/-! ## What the kernel spares -/

/-- Opening a descriptor of one's own spares the others. -/
theorem spares_opened {d : Descriptor} {n : Node} (hd : w.node u d = none) :
    Spares t w (w.opened u d n) where
  node := by
    intro d' n' hn'
    show Function.update w.node u (Function.update (w.node u) d (some n)) t d' = some n'
    by_cases ht : t = u
    · subst ht
      have hne : d' ≠ d := by
        rintro rfl
        rw [hd] at hn'
        cases hn'
      rw [Function.update_self, Function.update_of_ne hne]
      exact hn'
    · rw [Function.update_of_ne ht]
      exact hn'
  holder := fun _ _ h => h
  entry := fun _ _ _ h _ => h

/-- Giving back takes nothing from the locks of other descriptors. -/
theorem holder_released {n : Node} {d d' : Descriptor}
    (h : w.holder n = some (.session t d')) (hne : (t, d') ≠ (u, d)) :
    (w.released u d).holder n = some (.session t d') := by
  have hother : w.holder n ≠ some (.session u d) := by
    rw [h]
    intro heq
    obtain ⟨rfl, rfl⟩ := Holder.session.inj (Option.some.inj heq)
    exact hne rfl
  exact (if_neg hother).trans h

/-- Releasing one's own lock spares the others. -/
theorem spares_released {d : Descriptor} (hne : t ≠ u) : Spares t w (w.released u d) where
  node := fun _ _ h => h
  holder := fun _ _ h => holder_released h fun heq => hne (Prod.mk.inj heq).1
  entry := fun _ _ _ h _ => h

theorem spares_closed {d : Descriptor} (hne : t ≠ u) : Spares t w (w.closed u d) where
  node := fun d' _ h => (congrFun (Function.update_of_ne hne ..) d').trans h
  holder := (spares_released hne).holder
  entry := fun _ _ _ h _ => h

/-- Calls that give nothing back. -/
def Keeping : FileCall → Prop
  | .close _ | .unlock _ => False
  | _ => True

/-- A call spares every process but the one that closes or unlocks. -/
theorem Kernel.spares {x : FileExchange} (h : Kernel place w u x w')
    (hx : t ≠ u ∨ Keeping x.1) : Spares t w w' := by
  cases h with
  | fails | indifferent | fstat | statEntry => exact .refl t w
  | directory hd => exact spares_opened hd
  | directoryAt hd n => exact spares_opened hd
  | read hd n => exact spares_opened hd
  | new hd n => exact spares_opened hd
  | existing hparent hentry hd => exact spares_opened hd
  | creates hparent hentry hd n =>
    exact (spares_created hentry).trans (spares_opened (w := w.created _ n) hd)
  | locks h hfree => exact spares_locked hfree
  | closes d answer =>
    rcases hx with hne | hkeeping
    · exact spares_closed hne
    · exact hkeeping.elim
  | unlocks d =>
    rcases hx with hne | hkeeping
    · exact spares_released hne
    · exact hkeeping.elim

/-! ## What a session's own calls do -/

theorem node_closed {d d' : Descriptor} {n : Node} (h : w.node t d' = some n) (hne : d' ≠ d) :
    (w.closed t d).node t d' = some n := by
  show Function.update w.node t (Function.update (w.node t) d none) t d' = some n
  rw [Function.update_self, Function.update_of_ne hne]
  exact h

/-- Closing another descriptor keeps the lock. -/
theorem holder_closed {n : Node} {d d' : Descriptor} (h : w.holder n = some (.session t d'))
    (hne : d' ≠ d) : (w.closed t d).holder n = some (.session t d') :=
  holder_released h fun heq => hne (Prod.mk.inj heq).2

/-- Closing a descriptor that a stage is not about leaves what the stage means. -/
theorem Sound.closed {d : Descriptor} (h : Sound w t directoryNode stage) (hd : d ∉ stage.keeps)
    (hsearches : ¬stage.Searches) : Sound (w.closed t d) t directoryNode stage := by
  have hkept : ∀ d' ∈ stage.keeps, d' ≠ d := fun d' hd' heq => hd (heq ▸ hd')
  cases stage with
  | searching roots => exact absurd trivial hsearches
  | ended => trivial
  | found directory lock =>
    obtain ⟨hdirectory, n, hn⟩ := h
    have hlock : lock ≠ d := hkept lock (List.mem_cons_of_mem _ List.mem_cons_self)
    exact ⟨node_closed hdirectory (hkept directory List.mem_cons_self), n, node_closed hn hlock⟩
  | locked directory lock lockNode entryNode =>
    obtain ⟨hdirectory, n, hn, hholder, hseen, hentry⟩ := h
    have hlock : lock ≠ d := hkept lock (List.mem_cons_of_mem _ List.mem_cons_self)
    exact ⟨node_closed hdirectory (hkept directory List.mem_cons_self), n, node_closed hn hlock,
      holder_closed hholder hlock, hseen, hentry⟩
  | sure lock =>
    obtain ⟨n, hn, hholder, hentry⟩ := h
    have hlock : lock ≠ d := hkept lock List.mem_cons_self
    exact ⟨n, node_closed hn hlock, holder_closed hholder hlock, hentry⟩

/-- A call that the kernel serves moves a session on as its stage goes. -/
theorem Sound.step {path : Path} {stage' : Stage} {x : FileExchange}
    (h : Sound w t (place path) stage) (hkernel : Kernel place w t x w')
    (hstep : Stage.Step path stage x stage') : Sound w' t (place path) stage' := by
  cases hstep with
  | quits => trivial
  | frees => trivial
  | stays hclose hunlock =>
    by_cases hx : ∃ d, x.1 = .close d
    · obtain ⟨d, hx⟩ := hx
      obtain ⟨hkeeps, hsearches⟩ := hclose d hx
      cases hkernel with
      | closes d' answer =>
        obtain rfl := FileCall.close.inj hx
        exact h.closed hkeeps hsearches
      | fails c e => exact h
      | indifferent hindifferent answer =>
        cases hx
        exact hindifferent.elim
      | _ => cases hx
    · have hkeeping : Keeping x.1 := by
        cases hcall : x.1 with
        | close d => exact absurd ⟨d, hcall⟩ hx
        | unlock d => exact absurd hcall (hunlock d)
        | _ => trivial
      exact h.spared (hkernel.spares (.inr hkeeping))
  | @enters roots d =>
    have hspared := h.spared (hkernel.spares (.inr trivial))
    intro d' hd'
    rcases List.mem_cons.mp hd' with rfl | hd'
    · cases hkernel with
      | directory hd =>
        show Function.update w.node t (Function.update (w.node t) d' (some (place path))) t d' = _
        rw [Function.update_self, Function.update_self]
      | indifferent hindifferent => exact hindifferent.elim
    · exact hspared d' hd'
  | @leaves roots d answer =>
    intro d' hd'
    obtain ⟨hd', hne⟩ := List.mem_filter.mp hd'
    cases hkernel with
    | closes => exact node_closed (h d' hd') (of_decide_eq_true hne)
    | fails => exact h d' hd'
    | indifferent hindifferent => exact hindifferent.elim
  | @finds roots directory lock exclusive hmem =>
    have hspared := h.spared (hkernel.spares (.inr trivial))
    refine ⟨hspared directory hmem, ?_⟩
    have hnew : ∀ (w : LockWorld Tid) n, (w.opened t lock n).node t lock = some n := by
      intro w n
      show Function.update w.node t (Function.update (w.node t) lock (some n)) t lock = _
      rw [Function.update_self, Function.update_self]
    cases hkernel with
    | existing => exact ⟨_, hnew _ _⟩
    | creates => exact ⟨_, hnew _ _⟩
    | indifferent hindifferent => exact hindifferent.elim
  | @takes directory lock value =>
    have hspared := h.spared (hkernel.spares (.inr trivial))
    obtain ⟨hdirectory, -⟩ := hspared
    cases hkernel with
    | @locks d n hn hfree =>
      refine ⟨hdirectory, n, hn, ?_, fun k hk => ?_, fun hk => ?_⟩
      · exact Function.update_self ..
      · cases hk
      · cases hk
    | indifferent hindifferent => exact hindifferent.elim
  | @seesLock directory lock lockNode entryNode m =>
    obtain ⟨hdirectory, n, hn, hholder, hseen, hentry⟩ := h
    cases hkernel with
    | fstat hm =>
      have heq : nodeOf m = n := Option.some.inj (hm.symm.trans hn)
      exact ⟨hdirectory, n, hn, hholder, fun k hk => (Option.some.inj hk).symm.trans heq, hentry⟩
    | indifferent hindifferent => exact hindifferent.elim
  | @seesEntry directory lock lockNode entryNode m =>
    obtain ⟨hdirectory, n, hn, hholder, hseen, hentry⟩ := h
    cases hkernel with
    | statEntry hparent hm =>
      -- the entry of the directory that the path leads to
      rw [hdirectory] at hparent
      obtain rfl := Option.some.inj hparent
      exact ⟨hdirectory, n, hn, hholder, hseen, fun hk => hm.trans hk⟩
    | indifferent hindifferent => exact absurd rfl hindifferent
  | @settles directory lock node answer hne =>
    obtain ⟨hdirectory, n, hn, hholder, hseen, hentry⟩ := h
    obtain rfl := hseen node rfl
    cases hkernel with
    | fails => exact ⟨node, hn, hholder, hentry rfl⟩
    | closes =>
      exact ⟨node, node_closed hn (Ne.symm hne), holder_closed hholder (Ne.symm hne), hentry rfl⟩
    | indifferent hindifferent => exact hindifferent.elim

/-! ## Openings -/

/-- The kernel hands out a descriptor that is not open. -/
theorem Kernel.opens {x : FileExchange} {d : Descriptor} (h : Kernel place w t x w')
    (heffect : effect x = .opens d) : w.node t d = none ∧ ∃ n, w'.node t d = some n := by
  have hnew : ∀ (w : LockWorld Tid) n, (w.opened t d n).node t d = some n := by
    intro w n
    show Function.update w.node t (Function.update (w.node t) d (some n)) t d = _
    rw [Function.update_self, Function.update_self]
  cases h with
  | directory hd =>
    obtain rfl := LedgerEffect.opens.inj heffect
    exact ⟨hd, _, hnew _ _⟩
  | directoryAt hd n =>
    obtain rfl := LedgerEffect.opens.inj heffect
    exact ⟨hd, _, hnew _ _⟩
  | read hd n =>
    obtain rfl := LedgerEffect.opens.inj heffect
    exact ⟨hd, _, hnew _ _⟩
  | new hd n =>
    obtain rfl := LedgerEffect.opens.inj heffect
    exact ⟨hd, _, hnew _ _⟩
  | existing hparent hentry hd =>
    obtain rfl := LedgerEffect.opens.inj heffect
    exact ⟨hd, _, hnew _ _⟩
  | creates hparent hentry hd n =>
    obtain rfl := LedgerEffect.opens.inj heffect
    exact ⟨hd, _, hnew _ _⟩
  | fails c e => cases c <;> cases heffect
  | @indifferent c hindifferent answer =>
    cases c with
    | opening => exact hindifferent.elim
    | close => exact hindifferent.elim
    | _ => cases heffect
  | fstat | statEntry | closes | locks | unlocks => cases heffect

/-- The ledger goes on listing what is open. -/
theorem Open.step {held held' : List Descriptor} {x : FileExchange} (h : Open w t held)
    (hkernel : Kernel place w t x w') (hledger : ledgerNext held x = some (some held')) :
    Open w' t held' := by
  obtain ⟨huses, hafter⟩ := ledgerNext_inv hledger
  have hnodes : Keeping x.1 → Open w' t held := fun hkeeping =>
    h.spared (hkernel.spares (.inr hkeeping))
  -- what the call did to the ledger it did to the kernel's table
  cases heffect : effect x with
  | opens d =>
    rw [heffect] at hafter
    have hd : d ∉ held := by
      intro hd
      obtain ⟨n, hn⟩ := h.open_on d hd
      rw [(hkernel.opens heffect).1] at hn
      cases hn
    obtain rfl : held' = d :: held := Option.some.inj (hafter.trans (if_neg hd))
    have hkeeping : Keeping x.1 := by
      obtain ⟨c, answer⟩ := x
      cases c with
      | close => cases heffect
      | unlock => cases heffect
      | _ => trivial
    refine ⟨List.nodup_cons.mpr ⟨hd, h.nodup⟩, fun d' hd' => ?_⟩
    rcases List.mem_cons.mp hd' with rfl | hd'
    · exact (hkernel.opens heffect).2
    · exact (hnodes hkeeping).open_on d' hd'
  | closes d =>
    rw [heffect] at hafter
    obtain rfl : held' = held.erase d := Option.some.inj hafter
    obtain ⟨c, answer⟩ := x
    obtain rfl : c = .close d := by
      cases c with
      | close d' => rw [LedgerEffect.closes.inj heffect]
      | opening target => match answer with
        | .ok (_ : Descriptor) => cases heffect
        | .error _ => cases heffect
      | _ => cases heffect
    refine ⟨h.nodup.erase d, fun d' hd' => ?_⟩
    obtain ⟨hne, hd'⟩ := h.nodup.mem_erase_iff.mp hd'
    obtain ⟨n, hn⟩ := h.open_on d' hd'
    cases hkernel with
    | closes => exact ⟨n, node_closed hn hne⟩
    | fails => exact ⟨n, hn⟩
    | indifferent hindifferent => exact hindifferent.elim
  | nothing =>
    rw [heffect] at hafter
    obtain rfl : held' = held := Option.some.inj hafter
    by_cases hkeeping : Keeping x.1
    · exact hnodes hkeeping
    · -- unlocking closes nothing
      cases hkernel with
      | unlocks => exact ⟨h.nodup, h.open_on⟩
      | fails => exact h
      | indifferent => exact h
      | closes => cases heffect
      | _ => exact absurd trivial hkeeping

/-! ## Sessions together -/

/-- A move of a process. -/
abbrev SessionMove (Tid : Type) : Type :=
  Move Tid Session FileInterface LockException (Outcome LeadershipRejection Unit)

/-- The processes over one world. -/
abbrev SessionPool (Tid : Type) : Type :=
  Pool Tid Session FileInterface LockException (Outcome LeadershipRejection Unit) (LockWorld Tid)

/-- The sight of a session, with the path it is about. -/
def sightNext : Option (Path × Sight) → FileExchange → Option (Option (Path × Sight))
  | none, _ => some none
  | some (path, sight), x => (sight.next path x).map fun later => later.map (path, ·)

/-- A process is watched by what it saw of the directory and the lock. -/
def sessionWatch : Watch Session.program (Option (Path × Sight)) where
  next := sightNext
  init session := some (session.directory, ⟨[], .searching []⟩)
  final _ _ m := ∀ path sight, m = some (path, sight) → sight.stage.Idle
  passes session := by
    have hsees : Sees session.directory session.program ⟨[], .searching []⟩ fun _ => GivenUp :=
      sees_session
    refine Passes.coarsen (f := fun m : Option Sight => m.map (session.directory, ·)) ?_ ?_ hsees
    · intro m x m' hnext
      cases m with
      | none =>
        obtain rfl := Option.some.inj hnext
        rfl
      | some sight =>
        show (sight.next session.directory x).map _ = _
        rw [show sight.next session.directory x = some m' from hnext]
        rfl
    · intro r m hgiven path sight hm
      obtain ⟨sight', rfl, heq⟩ := Option.map_eq_some_iff.mp hm
      obtain ⟨-, rfl⟩ := Prod.mk.inj heq
      exact (hgiven sight' rfl).2

/-- Every session is followed, and means what it says. -/
def Known (place : Path → Node)
    (s : Watched Tid Session (LockWorld Tid) (Option (Path × Sight))) : Prop :=
  ∀ t session m, s.seen t = some (session, m) → ∃ sight, m = some (session.directory, sight) ∧
    Sound s.shared t (place session.directory) sight.stage ∧ Open s.shared t sight.held

/-- The kernel keeps a session from giving up. -/
theorem sight_step {path : Path} {sight : Sight} {x : FileExchange} {m : Option (Path × Sight)}
    (hsound : Sound w t (place path) sight.stage) (hopen : Open w t sight.held)
    (hkernel : Kernel place w t x w') (hnext : sightNext (some (path, sight)) x = some m) :
    ∃ later, m = some (path, later) ∧ sight.stage.next path x = some later.stage ∧
      Sound w' t (place path) later.stage ∧ Open w' t later.held := by
  obtain ⟨last, hlast, rfl⟩ := Option.map_eq_some_iff.mp hnext
  cases last with
  | some later =>
    obtain ⟨hledger, hstage⟩ := Sight.next_inv hlast
    exact ⟨later, rfl, hstage, hsound.step hkernel (step_of_next hstage), hopen.step hkernel hledger⟩
  | none =>
    unfold Sight.next at hlast
    split at hlast
    · cases hlast
    · rename_i hledger
      obtain ⟨-, hafter⟩ := ledgerNext_inv hledger
      rw [ledgerAfter_fresh] at hafter
      · cases hafter
      · intro d heffect hd
        obtain ⟨n, hn⟩ := hopen.open_on d hd
        rw [(hkernel.opens heffect).1] at hn
        cases hn
    · cases hstage : sight.stage.next path x with
      | none =>
        rw [hstage] at hlast
        cases hlast
      | some stage =>
        rw [hstage] at hlast
        cases hlast

variable {s s' : Watched Tid Session (LockWorld Tid) (Option (Path × Sight))}
  {move : SessionMove Tid}

/-- What is known of every session holds after each step. -/
theorem Known.step (h : Known place s)
    (hstep : Watch.Step sessionWatch (Served place) s move s') : Known place s' := by
  intro u session m hseen
  cases hstep with
  | begins hidle =>
    rcases update_eq_some hseen with ⟨rfl, hinit⟩ | ⟨-, hu⟩
    · obtain ⟨rfl, rfl⟩ := Prod.mk.inj (Option.some.inj hinit)
      exact ⟨_, rfl, fun d hd => absurd hd List.not_mem_nil, List.nodup_nil,
        fun d hd => absurd hd List.not_mem_nil⟩
    · exact h u session m hu
  | ends hs hfinal =>
    rcases update_eq_some hseen with ⟨-, hnone⟩ | ⟨-, hu⟩
    · cases hnone
    · exact h u session m hu
  | calls hs hnext hserved =>
    obtain ⟨middle, houtside, hkernel⟩ := hserved
    rcases update_eq_some hseen with ⟨rfl, hslot⟩ | ⟨hne, hu⟩
    · obtain ⟨rfl, rfl⟩ := Prod.mk.inj (Option.some.inj hslot)
      obtain ⟨sight, rfl, hsound, hopen⟩ := h u _ _ hs
      obtain ⟨later, rfl, -, hsound', hopen'⟩ := sight_step (hsound.spared (houtside.spares u))
        (hopen.spared (houtside.spares u)) hkernel hnext
      exact ⟨later, rfl, hsound', hopen'⟩
    · obtain ⟨sight, rfl, hsound, hopen⟩ := h u _ _ hu
      have hspares := (houtside.spares u).trans (hkernel.spares (.inl hne))
      exact ⟨sight, rfl, hsound.spared hspares, hopen.spared hspares⟩

theorem known_trail
    {moves : List (SessionMove Tid)}
    (htrail : Trail (Watch.Step sessionWatch (Served place)) s moves s') (h : Known place s) :
    Known place s' := by
  induction htrail with
  | nil => exact h
  | cons hstep _ ih => exact ih (h.step hstep)

/-- A session that is sure of its lock stays so until it unlocks. -/
theorem sure_step {session : Session} {sight : Sight} {lock : Descriptor} (hknown : Known place s)
    (hseen : s.seen t = some (session, some (session.directory, sight)))
    (hsure : sight.stage = .sure lock)
    (hstep : Watch.Step sessionWatch (Served place) s move s')
    (hmove : ∀ d answer, move ≠ .calls t session ⟨.unlock d, answer⟩) :
    ∃ later, s'.seen t = some (session, some (session.directory, later)) ∧
      later.stage = .sure lock := by
  by_cases hother : move.thread ≠ t
  · exact ⟨sight, (hstep.seen_other hother).trans hseen, hsure⟩
  obtain rfl : move.thread = t := not_not.mp hother
  cases hstep with
  | begins hidle => cases hidle.symm.trans hseen
  | ends hs hfinal =>
    obtain ⟨rfl, rfl⟩ := Prod.mk.inj (Option.some.inj (hs.symm.trans hseen))
    have hidle := hfinal _ _ rfl
    rw [hsure] at hidle
    exact hidle.elim
  | @calls t r m m' x shared hs hnext hserved =>
    obtain ⟨rfl, rfl⟩ := Prod.mk.inj (Option.some.inj (hs.symm.trans hseen))
    obtain ⟨middle, houtside, hkernel⟩ := hserved
    obtain ⟨sight', heq, hsound, hopen⟩ := hknown _ _ _ hseen
    obtain ⟨-, rfl⟩ := Prod.mk.inj (Option.some.inj heq)
    obtain ⟨later, rfl, hstage, -, -⟩ := sight_step (hsound.spared (houtside.spares _))
      (hopen.spared (houtside.spares _)) hkernel hnext
    refine ⟨later, Function.update_self .., ?_⟩
    rw [hsure] at hstage
    rcases (step_of_next hstage).sure with hlater | ⟨d, answer, rfl⟩
    · exact hlater
    · exact absurd rfl (hmove d answer)

/-- A session that is sure of its lock stays so until it gives it back. -/
theorem sure_trail {session : Session} {lock : Descriptor}
    {moves : List (SessionMove Tid)}
    (htrail : Trail (Watch.Step sessionWatch (Served place)) s moves s') :
    ∀ {sight : Sight}, Known place s →
      s.seen t = some (session, some (session.directory, sight)) → sight.stage = .sure lock →
      (∀ d answer, .calls t session ⟨.unlock d, answer⟩ ∉ moves) →
        Known place s' ∧ ∃ later, s'.seen t = some (session, some (session.directory, later)) ∧
          later.stage = .sure lock := by
  induction htrail with
  | nil => exact fun hknown hseen hsure _ => ⟨hknown, _, hseen, hsure⟩
  | cons hstep _ ih =>
    intro sight hknown hseen hsure hmoves
    obtain ⟨later, hlater, hstill⟩ := sure_step hknown hseen hsure hstep fun d answer heq =>
      hmoves d answer (heq ▸ List.mem_cons_self)
    exact ih (hknown.step hstep) hlater hstill fun d answer hmem =>
      hmoves d answer (List.mem_cons_of_mem _ hmem)

/-- A session that leads is sure of its lock, and stays so. -/
theorem lead_step {session : Session} {answer : Except OsError Unit} (hknown : Known place s)
    (hstep : Watch.Step sessionWatch (Served place) s (.calls t session ⟨.lead, answer⟩) s') :
    ∃ sight lock, s.seen t = some (session, some (session.directory, sight)) ∧
      sight.stage = .sure lock := by
  cases hstep with
  | calls hs hnext hserved =>
    obtain ⟨sight, rfl, hsound, hopen⟩ := hknown _ _ _ hs
    obtain ⟨middle, houtside, hkernel⟩ := hserved
    obtain ⟨later, rfl, hstage, -, -⟩ := sight_step (hsound.spared (houtside.spares _))
      (hopen.spared (houtside.spares _)) hkernel hnext
    obtain ⟨hleads, -⟩ := Option.ite_none_right_eq_some.mp hstage
    cases hcase : sight.stage with
    | sure lock => exact ⟨sight, lock, hs, hcase⟩
    | searching | found | locked | ended =>
      rw [hcase] at hleads
      cases hleads

/-- In every run of any number of sessions, whatever fails and whatever lock files others put in the
    place of those that are free: between two processes that lead in one directory, the first one
    has unlocked. -/
theorem one_leader (place : Path → Node) (w : LockWorld Tid)
    {before middle : List (SessionMove Tid)}
    {t u : Tid} {session session' : Session} {answer answer' : Except OsError Unit}
    {p : SessionPool Tid}
    (hruns : Trail (Pool.Step Session.program (Served place)) (Pool.idle w)
      (before ++ .calls t session ⟨.lead, answer⟩ ::
        (middle ++ [.calls u session' ⟨.lead, answer'⟩])) p)
    (hplace : place session.directory = place session'.directory) (hne : t ≠ u) :
    ∃ d answer, .calls t session ⟨.unlock d, answer⟩ ∈ middle := by
  by_contra hnever
  have hmiddle : ∀ d answer, .calls t session ⟨.unlock d, answer⟩ ∉ middle :=
    fun d answer hmem => hnever ⟨d, answer, hmem⟩
  obtain ⟨s, htrail, -⟩ := sessionWatch.follows hruns
  obtain ⟨s₁, hbefore, htrail⟩ := trail_append.mp htrail
  obtain ⟨s₂, hlead, htrail⟩ := trail_cons.mp htrail
  obtain ⟨s₃, hmid, hlast⟩ := trail_append.mp htrail
  obtain ⟨s₄, hlead', -⟩ := trail_cons.mp hlast
  have hstart : Known place (Watch.start w : Watched Tid Session _ _) := fun _ _ _ h => by cases h
  have hknown : Known place s₁ := known_trail hbefore hstart
  obtain ⟨sight, lock, hseen, hsure⟩ := lead_step hknown hlead
  obtain ⟨sight₂, hseen₂, hsure₂⟩ := sure_step hknown hseen hsure hlead fun d answer heq => by
    cases heq
  obtain ⟨hknown₃, sight₃, hseen₃, hsure₃⟩ :=
    sure_trail hmid (hknown.step hlead) hseen₂ hsure₂ hmiddle
  obtain ⟨sight', lock', hseen', hsure'⟩ := lead_step hknown₃ hlead'
  -- both hold the lock of the lock file in the directory
  obtain ⟨_, heq, hsound, -⟩ := hknown₃ _ _ _ hseen₃
  obtain ⟨-, rfl⟩ := Prod.mk.inj (Option.some.inj heq)
  obtain ⟨_, heq', hsound', -⟩ := hknown₃ _ _ _ hseen'
  obtain ⟨-, rfl⟩ := Prod.mk.inj (Option.some.inj heq')
  rw [hsure₃] at hsound
  rw [hsure'] at hsound'
  obtain ⟨n, -, hholder, hentry⟩ := hsound
  obtain ⟨n', -, hholder', hentry'⟩ := hsound'
  rw [hplace, hentry'] at hentry
  obtain rfl := Option.some.inj hentry
  rw [hholder'] at hholder
  obtain ⟨rfl, -⟩ := Holder.session.inj (Option.some.inj hholder)
  exact hne rfl

/-- A kernel in which nothing fails, and the lock file of the root directory is there. -/
def granting (t : Nat) (w : LockWorld Nat) :
    (c : FileCall) → Except OsError (FileValue c) × LockWorld Nat
  | .lstat _ => (.ok rootMetadata, w)
  | .fstat d =>
    match w.node t d with
    | none => (.error .other, w)
    | some n =>
      (.ok (if n = nodeOf rootMetadata then rootMetadata
        else ⟨n.1, n.2, .regular, 0o600, 0, 1, 0⟩), w)
  | .statAt parent name =>
    match (w.node t parent).bind w.entry with
    | none => (.error .fileNotFound, w)
    | some n =>
      if name = leadershipLockFilename then (.ok ⟨n.1, n.2, .regular, 0o600, 0, 1, 0⟩, w)
      else (.error .fileNotFound, w)
  | .opening target =>
    match (List.range 8).find? fun d => (w.node t d).isNone, target with
    | some d, .directory _ => (.ok d, w.opened t d (nodeOf rootMetadata))
    | some d, .fileAt parent name false =>
      match (w.node t parent).bind w.entry with
      | none => (.error .fileNotFound, w)
      | some n =>
        if name = leadershipLockFilename then (.ok d, w.opened t d n) else (.error .fileNotFound, w)
    | _, _ => (.error .other, w)
  | .close d => (.ok (), w.closed t d)
  | .lock d =>
    match w.node t d with
    | none => (.error .other, w)
    | some n =>
      if w.holder n = none then (.ok (), w.locked t d n) else (.error .wouldBlock, w)
  | .unlock d => (.ok (), w.released t d)
  | .fchmod _ | .fsync _ | .unlink _ | .lead => (.ok (), w)

/-- The world that grants every call serves it. -/
theorem granting_served (t : Nat) (w w' : LockWorld Nat) (x : FileExchange)
    (h : granting t w x.1 = (x.2, w')) : Served (fun _ => nodeOf rootMetadata) w t x w' := by
  refine ⟨w, ⟨rfl, fun _ _ _ => Iff.rfl, fun _ _ _ _ h _ => h⟩, ?_⟩
  obtain ⟨c, answer⟩ := x
  have hfails : ∀ {e}, (Except.error e, w) = (answer, w') →
      Kernel (fun _ => nodeOf rootMetadata) w t ⟨c, answer⟩ w' := by
    intro e heq
    obtain ⟨rfl, rfl⟩ := Prod.mk.inj heq
    exact .fails c e
  -- a call is granted as the kernel would, or it fails and changes nothing
  cases c with
  | lstat | fchmod | fsync | unlink | lead =>
    obtain ⟨rfl, rfl⟩ := Prod.mk.inj h
    refine .indifferent ?_ _
    exact trivial
  | close d =>
    obtain ⟨rfl, rfl⟩ := Prod.mk.inj h
    exact .closes d _
  | unlock d =>
    obtain ⟨rfl, rfl⟩ := Prod.mk.inj h
    exact .unlocks d
  | fstat d =>
    unfold granting at h
    dsimp only at h
    split at h
    · exact hfails h
    · rename_i n hn
      obtain ⟨rfl, rfl⟩ := Prod.mk.inj h
      -- the status made up for a node is one of that node
      have hnode : nodeOf (if n = nodeOf rootMetadata then rootMetadata
          else ⟨n.1, n.2, .regular, 0o600, 0, 1, 0⟩) = n := by
        by_cases heq : n = nodeOf rootMetadata
        · rw [if_pos heq]
          exact heq.symm
        · rw [if_neg heq]
          rfl
      exact .fstat (hn.trans (congrArg some hnode.symm))
  | statAt parent name =>
    unfold granting at h
    dsimp only at h
    split at h
    · exact hfails h
    · rename_i n hn
      split at h
      next hname =>
        subst hname
        obtain ⟨rfl, rfl⟩ := Prod.mk.inj h
        obtain ⟨directory, hparent, hentry⟩ := Option.bind_eq_some_iff.mp hn
        exact .statEntry hparent hentry
      next => exact hfails h
  | lock d =>
    unfold granting at h
    dsimp only at h
    split at h
    · exact hfails h
    · rename_i n hn
      split at h
      next hfree =>
        obtain ⟨rfl, rfl⟩ := Prod.mk.inj h
        exact .locks hn (.inl hfree)
      next => exact hfails h
  | opening target =>
    have hfresh : ∀ {d}, ((List.range 8).find? fun d => (w.node t d).isNone) = some d →
        w.node t d = none := by
      intro d hd
      simpa using List.find?_some hd
    unfold granting at h
    dsimp only at h
    split at h
    · rename_i d path hd
      obtain ⟨rfl, rfl⟩ := Prod.mk.inj h
      exact .directory (hfresh hd)
    · rename_i d parent name hd
      split at h
      · exact hfails h
      · rename_i n hn
        split at h
        next hname =>
          subst hname
          obtain ⟨rfl, rfl⟩ := Prod.mk.inj h
          obtain ⟨directory, hparent, hentry⟩ := Option.bind_eq_some_iff.mp hn
          exact .existing hparent hentry (hfresh hd)
        next => exact hfails h
    · exact hfails h

end Kernel

/-! ## Two processes, one after the other -/

section Handover

/-- A session below the root directory, -/
def rootSession : Session := ⟨⟨0, true⟩, true, [], 1⟩

/-- Nothing is open, and nobody holds the lock file. -/
def freeWorld : LockWorld Nat := ⟨fun _ _ => none, fun _ => some (1, 9), fun _ => none⟩

/-- its calls, -/
def rootCalls (t : Nat) (w : LockWorld Nat) : List FileExchange :=
  rootSession.program.trace (I := FileInterface) (granting t) w

/-- and its end. -/
def rootResult (t : Nat) (w : LockWorld Nat) :
    Except LockException (Outcome LeadershipRejection Unit) × LockWorld Nat :=
  rootSession.program.play (I := FileInterface) (granting t) w

/-- The world once the first session gave its lock up. -/
def handedWorld : LockWorld Nat := (rootResult 0 freeWorld).2

/-- From the lead of the first process to that of the second. -/
def handover :
    List (SessionMove Nat) :=
  ((rootCalls 0 freeWorld).drop 35).map (.calls 0 rootSession ·) ++
    (.ends 0 rootSession (rootResult 0 freeWorld).1 :: .begins 1 rootSession ::
      ((rootCalls 1 handedWorld).take 34).map (.calls 1 rootSession ·))

/-- The session leads. -/
def isLead : FileExchange → Bool
  | ⟨.lead, _⟩ => true
  | _ => false

/-- A run with a check while leading, cut at that check. -/
theorem split_lead {xs : List FileExchange} {k : Nat} (h : (xs[k]?).any isLead = true) :
    ∃ answer, xs = xs.take k ++ (⟨.lead, answer⟩ : FileExchange) :: xs.drop (k + 1) := by
  obtain ⟨x, hx, hlead⟩ := (Option.any_eq_true ..).mp h
  obtain ⟨hk, hget⟩ := List.getElem?_eq_some_iff.mp hx
  have hsplit : xs = xs.take k ++ x :: xs.drop (k + 1) := by
    rw [← hget, List.getElem_cons_drop, List.take_append_drop]
  obtain ⟨c, answer⟩ := x
  cases c with
  | lead => exact ⟨answer, hsplit⟩
  | _ => cases hlead

/-- A session that is granted every call runs to its end. -/
theorem root_trail {t : Nat} {w : LockWorld Nat}
    {p : SessionPool Nat} (hw : p.shared = w) (hidle : p.task t = none) :
    Trail (Pool.Step Session.program (Served fun _ => nodeOf rootMetadata)) p
      (.begins t rootSession :: ((rootCalls t w).map (.calls t rootSession ·) ++
        [.ends t rootSession (rootResult t w).1])) ⟨(rootResult t w).2, p.task⟩ := by
  subst hw
  have hruns : Runs rootSession.program (rootCalls t p.shared) (rootResult t p.shared).1 :=
    runs_trace (I := FileInterface) (granting t) rootSession.program p.shared
  have hfollows : Follows (fun w x w' => Served (fun _ => nodeOf rootMetadata) w t x w') p.shared
      (rootCalls t p.shared) (rootResult t p.shared).2 :=
    (follows_trace (I := FileInterface) (granting t) rootSession.program p.shared).mono fun w x w' hx =>
      granting_served t w w' x hx
  exact Pool.trail_alone hruns hfollows hidle

theorem map_split {f : FileExchange → SessionMove Nat} {xs : List FileExchange} {x : FileExchange}
    {k : Nat} (h : xs = xs.take k ++ x :: xs.drop (k + 1)) :
    xs.map f = (xs.take k).map f ++ f x :: (xs.drop (k + 1)).map f := by
  rw [← List.map_cons, ← List.map_append, ← h]

/-- The first process unlocks before the second one leads. -/
theorem handover_unlocks : ∃ d answer, .calls 0 rootSession ⟨.unlock d, answer⟩ ∈ handover := by
  have hfirst : ((rootCalls 0 freeWorld)[34]?).any isLead = true := by decide +kernel
  have hsecond : ((rootCalls 1 handedWorld)[34]?).any isLead = true := by decide +kernel
  obtain ⟨answer, hsplit⟩ := split_lead hfirst
  obtain ⟨answer', hsplit'⟩ := split_lead hsecond
  have hboth := trail_append.mpr ⟨_, root_trail (t := 0) (w := freeWorld) (p := Pool.idle freeWorld)
    rfl rfl, root_trail (t := 1) (w := handedWorld) rfl rfl⟩
  generalize (⟨(rootResult 1 handedWorld).2, _⟩ : SessionPool Nat) = last at hboth
  rw [map_split (f := fun x => .calls 0 rootSession x) hsplit,
    map_split (f := fun x => .calls 1 rootSession x) hsplit'] at hboth
  -- up to the lead of the second process
  have hcut : Trail (Pool.Step Session.program (Served fun _ => nodeOf rootMetadata))
      (Pool.idle freeWorld) (((.begins 0 rootSession ::
        ((rootCalls 0 freeWorld).take 34).map (.calls 0 rootSession ·)) ++
          .calls 0 rootSession ⟨.lead, answer⟩ ::
            (handover ++ [.calls 1 rootSession ⟨.lead, answer'⟩])) ++
              (((rootCalls 1 handedWorld).drop 35).map (.calls 1 rootSession ·) ++
                [.ends 1 rootSession (rootResult 1 handedWorld).1])) last := by
    unfold handover
    simpa only [List.append_assoc, List.cons_append, List.nil_append] using hboth
  obtain ⟨p, hprefix, -⟩ := trail_append.mp hcut
  exact one_leader _ freeWorld hprefix rfl (by decide)

end Handover

end Aurora.HealthHistory.LeadershipLock
