/-
  What the validation of a protected directory decides.

  In a filesystem that stands still the two walks see the same directories, and the validation ends
  as `verdict` says: with the reason of the first directory on the way that is missing, not to be
  trusted, or closed to the process, or with the identity of the last.  `Trusted` says which paths are
  accepted.
-/
import Aurora.HealthHistory.Filesystem

namespace Aurora.HealthHistory.Filesystem

open Program

/-! ## A filesystem that stands still -/

/-- The directories that were opened, in order. -/
structure StillWorld where
  opened : Nat
  place : Descriptor → Path

/-- One more descriptor, open on the path. -/
def StillWorld.opening (w : StillWorld) (path : Path) : StillWorld :=
  ⟨w.opened + 1, Function.update w.place w.opened path⟩

/-- What there is at each path, and what the process may do with the directories: open one, and look
up the names in one. -/
structure FileTree where
  find : Path → Option Metadata
  readable : Path → Bool
  searchable : Path → Bool

/-- The process can open the directory at a path. -/
def FileTree.Opens (tree : FileTree) (path : Path) : Prop :=
  tree.readable path = true ∧ ∃ m, tree.find path = some m ∧ m.fileType = .directory

/-- The calls of a validation: the root by its path, and everything else in an open directory. -/
def FileCall.Looks : FileCall → Prop
  | .lstat [] | .statAt _ _ | .fstat _ | .opening (.directory []) | .opening (.directoryAt _ _)
  | .close _ => True
  | _ => False

variable {tree : FileTree}

/-- A call fails when its object is not there, when the process has no permission, and when
something else than a directory is opened as one. -/
inductive Still (tree : FileTree) (w : StillWorld) : FileExchange → StillWorld → Prop
  | root {m : Metadata} (h : tree.find [] = some m) : Still tree w ⟨.lstat [], .ok m⟩ w
  | rootMissing (h : tree.find [] = none) : Still tree w ⟨.lstat [], .error .fileNotFound⟩ w
  | statAt {d : Descriptor} {name : String} {m : Metadata}
      (hsearch : tree.searchable (w.place d) = true)
      (h : tree.find (w.place d ++ [name]) = some m) :
    Still tree w ⟨.statAt d name, .ok m⟩ w
  | statAtMissing {d : Descriptor} {name : String} (hsearch : tree.searchable (w.place d) = true)
      (h : tree.find (w.place d ++ [name]) = none) :
    Still tree w ⟨.statAt d name, .error .fileNotFound⟩ w
  /-- `EACCES` -/
  | statAtDenied {d : Descriptor} {name : String}
      (hsearch : tree.searchable (w.place d) = false) :
    Still tree w ⟨.statAt d name, .error .wouldBlock⟩ w
  | fstat {d : Descriptor} {m : Metadata} (h : tree.find (w.place d) = some m) :
    Still tree w ⟨.fstat d, .ok m⟩ w
  | fstatLost {d : Descriptor} (e : OsError) (h : tree.find (w.place d) = none) :
    Still tree w ⟨.fstat d, .error e⟩ w
  | directory (h : tree.Opens []) :
    Still tree w ⟨.opening (.directory []), .ok w.opened⟩ (w.opening [])
  | directoryRefused (e : OsError) (h : ¬tree.Opens []) :
    Still tree w ⟨.opening (.directory []), .error e⟩ w
  | directoryAt {d : Descriptor} {name : String} (hsearch : tree.searchable (w.place d) = true)
      (h : tree.Opens (w.place d ++ [name])) :
    Still tree w ⟨.opening (.directoryAt d name), .ok w.opened⟩ (w.opening (w.place d ++ [name]))
  | directoryAtRefused {d : Descriptor} {name : String} (e : OsError)
      (h : tree.searchable (w.place d) = false ∨ ¬tree.Opens (w.place d ++ [name])) :
    Still tree w ⟨.opening (.directoryAt d name), .error e⟩ w
  | close (d : Descriptor) : Still tree w ⟨.close d, .ok ()⟩ w
  | other {c : FileCall} (h : ¬c.Looks) (answer : FileInterface.Answer c) : Still tree w ⟨c, answer⟩ w

/-- Every call is answered. -/
theorem still_answers (w : StillWorld) (c : FileCall) :
    ∃ (answer : FileInterface.Answer c) (s : StillWorld), Still tree w ⟨c, answer⟩ s := by
  cases c with
  | lstat path =>
    cases path with
    | nil =>
      cases h : tree.find [] with
      | none => exact ⟨_, _, .rootMissing h⟩
      | some m => exact ⟨_, _, .root h⟩
    | cons part rest => exact ⟨_, _, .other id (.error .other)⟩
  | statAt d name =>
    cases hsearch : tree.searchable (w.place d) with
    | false => exact ⟨_, _, .statAtDenied hsearch⟩
    | true =>
      cases h : tree.find (w.place d ++ [name]) with
      | none => exact ⟨_, _, .statAtMissing hsearch h⟩
      | some m => exact ⟨_, _, .statAt hsearch h⟩
  | fstat d =>
    cases h : tree.find (w.place d) with
    | none => exact ⟨_, _, .fstatLost .other h⟩
    | some m => exact ⟨_, _, .fstat h⟩
  | opening target =>
    cases target with
    | directory path =>
      cases path with
      | nil =>
        by_cases h : tree.Opens []
        · exact ⟨_, _, .directory h⟩
        · exact ⟨_, _, .directoryRefused .other h⟩
      | cons part rest => exact ⟨_, _, .other id (.error .other)⟩
    | directoryAt d name =>
      cases hsearch : tree.searchable (w.place d) with
      | false => exact ⟨_, _, .directoryAtRefused .other (.inl hsearch)⟩
      | true =>
        by_cases h : tree.Opens (w.place d ++ [name])
        · exact ⟨_, _, .directoryAt hsearch h⟩
        · exact ⟨_, _, .directoryAtRefused .other (.inr h)⟩
    | read path => exact ⟨_, _, .other id (.error .other)⟩
    | new path => exact ⟨_, _, .other id (.error .other)⟩
    | fileAt d name exclusive => exact ⟨_, _, .other id (.error .other)⟩
  | close d => exact ⟨_, _, .close d⟩
  | fchmod d => exact ⟨_, _, .other id (.error .other)⟩
  | fsync d => exact ⟨_, _, .other id (.error .other)⟩
  | unlink path => exact ⟨_, _, .other id (.error .other)⟩
  | lock d => exact ⟨_, _, .other id (.error .other)⟩
  | unlock d => exact ⟨_, _, .other id (.error .other)⟩
  | lead => exact ⟨_, _, .other id (.error .other)⟩

/-! ## The verdict -/

/-- The directories below one that was accepted. -/
def verdictBelow (uid : Nat) (tree : FileTree) :
    Path → List String → Metadata → Except FileException Metadata
  | _, [], last => .ok last
  | here, part :: rest, _ =>
    if !tree.searchable here then refuse .invalidPath
    else match tree.find (here ++ [part]) with
      | none => refuse .missing
      | some m =>
        match validateDirectoryComponent uid m rest.isEmpty with
        | .error e => .error e
        | .ok _ =>
          if !tree.readable (here ++ [part]) then refuse .identityChanged
          else verdictBelow uid tree (here ++ [part]) rest m

/-- What is to be said of a path, from the root on. -/
def verdict (host : Host) (tree : FileTree) (path : Path) :
    Except FileException PathIdentity :=
  match directoryComponents path with
  | .error e => .error e
  | .ok components =>
    if !host.descriptorTraversal then refuse .invalidPath
    else match tree.find [] with
      | none => refuse .missing
      | some m =>
        match validateDirectoryComponent host.uid m components.isEmpty with
        | .error e => .error e
        | .ok _ =>
          if !tree.readable [] then refuse .identityChanged
          else (verdictBelow host.uid tree [] components m).map Metadata.identity

/-- A directory that only root or the user controls. -/
structure Guarded (uid : Nat) (m : Metadata) : Prop where
  directory : m.fileType = .directory
  owner : m.owner = 0 ∨ m.owner = uid
  mode : m.mode &&& 0o022 = 0

/-- A directory that is the user's alone. -/
structure Private (uid : Nat) (m : Metadata) : Prop where
  directory : m.fileType = .directory
  owner : m.owner = uid
  mode : m.mode = 0o700

/-- A directory on the way that is guarded and can be passed. -/
structure Passable (uid : Nat) (tree : FileTree) (path : Path) : Prop where
  guarded : ∃ m, tree.find path = some m ∧ Guarded uid m
  readable : tree.readable path = true
  searchable : tree.searchable path = true

/-- Every directory above is passable, and the path itself leads to a private one. -/
structure Trusted (uid : Nat) (tree : FileTree) (path : Path) (identity : PathIdentity) : Prop where
  above : ∀ above part below, path = above ++ part :: below → Passable uid tree above
  last : ∃ m, tree.find path = some m ∧ Private uid m ∧ m.identity = identity
  readable : tree.readable path = true

/-- The directory itself has to be private. -/
theorem validateDirectoryComponent_final {uid : Nat} {m : Metadata} :
    validateDirectoryComponent uid m true = .ok () ↔ Private uid m := by
  unfold validateDirectoryComponent validateDirectoryMetadata refuse
  constructor
  · intro h
    simp only [↓reduceIte] at h
    split_ifs at h with hlink hdirectory howner hmode
    exact ⟨not_not.mp hdirectory, not_not.mp howner, not_not.mp hmode⟩
  · rintro ⟨hdirectory, howner, hmode⟩
    simp [hdirectory, howner, hmode]

/-- A directory above it has to be guarded. -/
theorem validateDirectoryComponent_above {uid : Nat} {m : Metadata} :
    validateDirectoryComponent uid m false = .ok () ↔ Guarded uid m := by
  unfold validateDirectoryComponent refuse
  constructor
  · intro h
    simp only [Bool.false_eq_true, ↓reduceIte] at h
    split_ifs at h with hlink hdirectory howner hmode
    exact ⟨not_not.mp hdirectory, by tauto, not_not.mp hmode⟩
  · rintro ⟨hdirectory, howner, hmode⟩
    have hown : ¬(m.owner ≠ 0 ∧ m.owner ≠ uid) := by tauto
    simp [hdirectory, hown, hmode]

/-- Below an accepted directory, the verdict accepts what is trusted. -/
theorem verdictBelow_eq_ok {uid : Nat} {rest : List String} :
    ∀ {here : Path} {last m : Metadata}, tree.find here = some last → tree.readable here = true →
      (validateDirectoryComponent uid last rest.isEmpty = .ok ()) →
      (verdictBelow uid tree here rest last = .ok m ↔
        (tree.find (here ++ rest) = some m ∧ Private uid m ∧ tree.readable (here ++ rest) = true) ∧
        ∀ above part below, rest = above ++ part :: below → Passable uid tree (here ++ above)) := by
  induction rest with
  | nil =>
    intro here last m hhere hread hlast
    rw [List.append_nil, hhere]
    have hprivate := validateDirectoryComponent_final.mp hlast
    constructor
    · intro h
      obtain rfl : last = m := Except.ok.inj h
      exact ⟨⟨rfl, hprivate, hread⟩, fun above part below habove => absurd habove (by simp)⟩
    · rintro ⟨⟨hm, -, -⟩, -⟩
      obtain rfl := Option.some.inj hm
      rfl
  | cons part rest ih =>
    intro here last m hhere hread hlast
    have hguarded : Guarded uid last := validateDirectoryComponent_above.mp hlast
    have hsplit : here ++ part :: rest = here ++ [part] ++ rest := by simp
    -- the directory that was accepted is the first one above
    have hfirst : (∀ above p below, part :: rest = above ++ p :: below →
        Passable uid tree (here ++ above)) → tree.searchable here = true := by
      intro habove
      have hpassable := (habove [] part rest rfl).searchable
      rwa [List.append_nil] at hpassable
    -- a directory below is the last one, or one above the last
    have hnext : tree.find (here ++ part :: rest) = some m →
        Private uid m → tree.readable (here ++ part :: rest) = true →
        (∀ above p below, part :: rest = above ++ p :: below →
          Passable uid tree (here ++ above)) →
        ∃ found, tree.find (here ++ [part]) = some found ∧
          validateDirectoryComponent uid found rest.isEmpty = .ok () ∧
          tree.readable (here ++ [part]) = true := by
      intro hm hprivate hlastRead habove
      cases rest with
      | nil => exact ⟨m, hm, validateDirectoryComponent_final.mpr hprivate, hlastRead⟩
      | cons next rest =>
        have hpassable := habove [part] next rest rfl
        obtain ⟨found, hfound, hguards⟩ := hpassable.guarded
        exact ⟨found, hfound, validateDirectoryComponent_above.mpr hguards, hpassable.readable⟩
    unfold verdictBelow
    cases hsearch : tree.searchable here with
    | false =>
      refine iff_of_false (fun h => by cases h) fun h => ?_
      rw [hfirst h.2] at hsearch
      cases hsearch
    | true =>
      rw [if_neg (by simp)]
      cases hpart : tree.find (here ++ [part]) with
      | none =>
        refine iff_of_false (fun h => by cases h) ?_
        rintro ⟨⟨hm, hprivate, hlastRead⟩, habove⟩
        obtain ⟨found, hfound, -⟩ := hnext hm hprivate hlastRead habove
        rw [hpart] at hfound
        cases hfound
      | some found =>
        dsimp only
        cases hvalid : validateDirectoryComponent uid found rest.isEmpty with
        | error e =>
          refine iff_of_false (fun h => by cases h) ?_
          rintro ⟨⟨hm, hprivate, hlastRead⟩, habove⟩
          obtain ⟨found', hfound, hvalid', -⟩ := hnext hm hprivate hlastRead habove
          obtain rfl := Option.some.inj (hpart.symm.trans hfound)
          rw [hvalid] at hvalid'
          cases hvalid'
        | ok _ =>
          cases hreadable : tree.readable (here ++ [part]) with
          | false =>
            refine iff_of_false (fun h => by cases h) ?_
            rintro ⟨⟨hm, hprivate, hlastRead⟩, habove⟩
            obtain ⟨found', -, -, hopen⟩ := hnext hm hprivate hlastRead habove
            rw [hreadable] at hopen
            cases hopen
          | true =>
            rw [if_neg (by simp), ih hpart hreadable hvalid, hsplit]
            refine and_congr_right fun _ => ⟨fun h => ?_, fun h => ?_⟩
            · intro above p below habove
              cases above with
              | nil =>
                rw [List.append_nil]
                exact ⟨⟨last, hhere, hguarded⟩, hread, hsearch⟩
              | cons q above =>
                obtain ⟨rfl, htail⟩ := List.cons.inj habove
                have hpassable := h above p below htail
                rwa [List.append_assoc] at hpassable
            · intro above p below habove
              have hpassable := h (part :: above) p below (by rw [habove]; rfl)
              rwa [List.append_assoc]

/-- A path is refused for an empty or relative component only. -/
theorem directoryComponents_eq {path : Path} :
    directoryComponents path =
      if ∀ part ∈ path, part ∉ ["", ".", ".."] then .ok path else refuse .invalidPath := by
  unfold directoryComponents
  by_cases h : ∀ part ∈ path, part ∉ ["", ".", ".."]
  · rw [if_pos h, if_neg]
    rintro hany
    obtain ⟨part, hpart, hbad⟩ := List.any_eq_true.mp hany
    exact h part hpart (of_decide_eq_true hbad)
  · rw [if_neg h, if_pos]
    push Not at h
    obtain ⟨part, hpart, hbad⟩ := h
    exact List.any_eq_true.mpr ⟨part, hpart, decide_eq_true hbad⟩

/-- The root is the first directory on the way, or the last. -/
theorem Trusted.root {uid : Nat} {path : Path} {identity : PathIdentity}
    (h : Trusted uid tree path identity) :
    ∃ m, tree.find [] = some m ∧ validateDirectoryComponent uid m path.isEmpty = .ok () ∧
      tree.readable [] = true := by
  cases path with
  | nil =>
    obtain ⟨m, hm, hprivate, -⟩ := h.last
    exact ⟨m, hm, validateDirectoryComponent_final.mpr hprivate, h.readable⟩
  | cons part rest =>
    have hpassable := h.above [] part rest rfl
    obtain ⟨m, hm, hguarded⟩ := hpassable.guarded
    exact ⟨m, hm, validateDirectoryComponent_above.mpr hguarded, hpassable.readable⟩

/-- What the verdict accepts. -/
theorem verdict_eq_ok {host : Host} {path : Path} {identity : PathIdentity} :
    verdict host tree path = .ok identity ↔ (∀ part ∈ path, part ∉ ["", ".", ".."]) ∧
      host.descriptorTraversal = true ∧ Trusted host.uid tree path identity := by
  unfold verdict
  rw [directoryComponents_eq]
  by_cases hparts : ∀ part ∈ path, part ∉ ["", ".", ".."]
  case neg =>
    rw [if_neg hparts]
    exact iff_of_false (fun h => by cases h) fun h => hparts h.1
  rw [if_pos hparts]
  dsimp only
  cases htraversal : host.descriptorTraversal with
  | false => exact iff_of_false (fun h => by cases h) fun h => absurd h.2.1 (by simp)
  | true =>
    -- the root is looked at before it is opened, and opened before anything below it
    show (match tree.find [] with
      | none => refuse .missing
      | some m => match validateDirectoryComponent host.uid m path.isEmpty with
        | .error e => .error e
        | .ok _ => if !tree.readable [] then refuse .identityChanged
          else (verdictBelow host.uid tree [] path m).map Metadata.identity) = _ ↔ _
    cases htree : tree.find [] with
    | none =>
      refine iff_of_false (fun h => by cases h) fun h => ?_
      obtain ⟨m, hm, -⟩ := h.2.2.root
      rw [htree] at hm
      cases hm
    | some m =>
      dsimp only
      cases hvalid : validateDirectoryComponent host.uid m path.isEmpty with
      | error e =>
        refine iff_of_false (fun h => by cases h) fun h => ?_
        obtain ⟨m', hm', hvalid', -⟩ := h.2.2.root
        rw [htree] at hm'
        obtain rfl := Option.some.inj hm'
        rw [hvalid] at hvalid'
        cases hvalid'
      | ok _ =>
        cases hread : tree.readable [] with
        | false =>
          refine iff_of_false (fun h => by cases h) fun h => ?_
          obtain ⟨-, -, -, hread'⟩ := h.2.2.root
          rw [hread] at hread'
          cases hread'
        | true =>
          -- below the root the verdict goes component by component
          have hbelow := fun last => verdictBelow_eq_ok (m := last) htree hread hvalid
          rw [if_neg (by simp)]
          constructor
          · intro h
            cases hverdict : verdictBelow host.uid tree [] path m with
            | error e =>
              rw [hverdict] at h
              cases h
            | ok last =>
              rw [hverdict] at h
              obtain ⟨⟨hlast, hprivate, hlastRead⟩, habove⟩ := (hbelow last).mp hverdict
              exact ⟨hparts, rfl, habove, ⟨last, hlast, hprivate, Except.ok.inj h⟩, hlastRead⟩
          · rintro ⟨-, -, habove, ⟨last, hlast, hprivate, rfl⟩, hlastRead⟩
            rw [(hbelow last).mpr ⟨⟨hlast, hprivate, hlastRead⟩, habove⟩]
            rfl

/-! ## The walks -/

/-- Directories stay where they were opened. -/
structure Later (w s : StillWorld) : Prop where
  opened : w.opened ≤ s.opened
  place : ∀ d < w.opened, s.place d = w.place d

theorem Later.refl (w : StillWorld) : Later w w := ⟨Nat.le_refl _, fun _ _ => rfl⟩

theorem Later.trans {w s u : StillWorld} (h : Later w s) (h' : Later s u) : Later w u where
  opened := Nat.le_trans h.opened h'.opened
  place := fun d hd => (h'.place d (Nat.lt_of_lt_of_le hd h.opened)).trans (h.place d hd)

theorem later_opening (w : StillWorld) (path : Path) : Later w (w.opening path) where
  opened := Nat.le_succ _
  place := fun _ hd => Function.update_of_ne (Nat.ne_of_lt hd) ..

/-- In the filesystem that stands still the program ends so. -/
abbrev Answers {α : Type} (tree : FileTree) (p : Files α) (w : StillWorld)
    (x : Except FileException α) : Prop :=
  p.Ensures (Still tree) w fun r s => r = x ∧ Later w s

section Walks

variable {α β : Type} {w : StillWorld} {host : Host} {expected : Option (List DirectorySnapshot)}

/-- What follows a program that answers goes on with its answer. -/
theorem Answers.then {p : Files α} {f : α → Files β} {a : α}
    {Q : Except FileException β → StillWorld → Prop} (h : Answers tree p w (.ok a))
    (hf : ∀ s, Later w s → (f a).Ensures (Still tree) s Q) :
    (p >>= f).Ensures (Still tree) w Q := by
  refine Ensures.bind h ?_ ?_
  · rintro b s ⟨hb, hlater⟩
    obtain rfl := Except.ok.inj hb
    exact hf s hlater
  · rintro e s ⟨he, -⟩
    cases he

theorem Answers.bind {p : Files α} {f : α → Files β} {a : α} {x : Except FileException β}
    (h : Answers tree p w (.ok a)) (hf : ∀ s, Later w s → Answers tree (f a) s x) :
    Answers tree (p >>= f) w x :=
  h.then fun s hlater => (hf s hlater).mono fun _ _ hr => ⟨hr.1, hlater.trans hr.2⟩

theorem Answers.raises {p : Files α} {f : α → Files β} {e : FileException}
    (h : Answers tree p w (.error e)) : Answers tree (p >>= f) w (.error e) := by
  refine Ensures.bind h ?_ ?_
  · rintro b s ⟨hb, -⟩
    cases hb
  · rintro e' s ⟨he, hlater⟩
    exact ⟨congrArg _ (Except.error.inj he), hlater⟩

/-- A handler goes on with either outcome. -/
theorem Answers.caught {p : Files α} {f : Except FileException α → Files β}
    {x : Except FileException α} {y : Except FileException β} (h : Answers tree p w x)
    (hf : ∀ s, Later w s → Answers tree (f x) s y) :
    Answers tree ((p.catching : Files (Except FileException α)) >>= f) w y := by
  refine Ensures.catching_bind h ?_
  rintro r s ⟨rfl, hlater⟩
  exact (hf s hlater).mono fun r u hr => ⟨hr.1, hlater.trans hr.2⟩

theorem ensures_check {check : Except FileException β} {rest : β → Files α} {b : β}
    {Q : Except FileException α → StillWorld → Prop} (h : check = .ok b)
    (hrest : (rest b).Ensures (Still tree) w Q) :
    (ofExcept check >>= rest).Ensures (Still tree) w Q := by
  subst h
  exact hrest

/-- A name that is there is found in a directory that may be searched. -/
theorem answers_entry {parent : Descriptor} {component : String} {initial : Bool} {m : Metadata}
    (hsearch : tree.searchable (w.place parent) = true)
    (h : tree.find (w.place parent ++ [component]) = some m) :
    Answers tree (statDirectoryEntry parent component initial) w (.ok m) := by
  refine ensures_invoke.mpr fun answer s hstep => ?_
  cases hstep with
  | statAt _ h' => exact ⟨congrArg _ (Option.some.inj (h'.symm.trans h)), .refl w⟩
  | statAtMissing _ h' => rw [h] at h'; cases h'
  | statAtDenied hdenied => rw [hsearch] at hdenied; cases hdenied
  | other hlooks => exact absurd trivial hlooks

/-- One that is not there is missing, and without permission no name is found. -/
theorem answers_noEntry {parent : Descriptor} {component : String}
    (hsearch : tree.searchable (w.place parent) = true)
    (h : tree.find (w.place parent ++ [component]) = none) :
    Answers tree (statDirectoryEntry parent component true) w (refuse .missing) := by
  refine ensures_invoke.mpr fun answer s hstep => ?_
  cases hstep with
  | statAt _ h' => rw [h] at h'; cases h'
  | statAtMissing => exact ⟨rfl, .refl w⟩
  | statAtDenied hdenied => rw [hsearch] at hdenied; cases hdenied
  | other hlooks => exact absurd trivial hlooks

/-- No entry is looked up in a directory that cannot be searched. -/
theorem answers_entryDenied {parent : Descriptor} {component : String}
    (hdenied : tree.searchable (w.place parent) = false) :
    Answers tree (statDirectoryEntry parent component true) w (refuse .invalidPath) := by
  refine ensures_invoke.mpr fun answer s hstep => ?_
  cases hstep with
  | statAt hsearch => rw [hdenied] at hsearch; cases hsearch
  | statAtMissing hsearch => rw [hdenied] at hsearch; cases hsearch
  | statAtDenied => exact ⟨rfl, .refl w⟩
  | other hlooks => exact absurd trivial hlooks

theorem answers_root {reason : OsError → FilesystemRejection} {m : Metadata}
    (h : tree.find [] = some m) : Answers tree (expecting reason (.lstat [])) w (.ok m) := by
  refine ensures_invoke.mpr fun answer s hstep => ?_
  cases hstep with
  | root h' => exact ⟨congrArg _ (Option.some.inj (h'.symm.trans h)), .refl w⟩
  | rootMissing h' => rw [h] at h'; cases h'
  | other hlooks => exact absurd trivial hlooks

/-- A missing root is refused with the reason of its error. -/
theorem answers_rootMissing {reason : OsError → FilesystemRejection} (h : tree.find [] = none) :
    Answers tree (expecting reason (.lstat [])) w (refuse (reason .fileNotFound)) := by
  refine ensures_invoke.mpr fun answer s hstep => ?_
  cases hstep with
  | root h' => rw [h] at h'; cases h'
  | rootMissing => exact ⟨rfl, .refl w⟩
  | other hlooks => exact absurd trivial hlooks

/-- An open directory shows what the tree holds at its place. -/
theorem answers_fstat {d : Descriptor} {m : Metadata} (h : tree.find (w.place d) = some m) :
    Answers tree (sys (.fstat d)) w (.ok m) := by
  refine ensures_invoke.mpr fun answer s hstep => ?_
  cases hstep with
  | fstat h' =>
    rw [h] at h'
    obtain rfl := Option.some.inj h'
    exact ⟨rfl, .refl w⟩
  | fstatLost e h' => rw [h] at h'; cases h'
  | other hlooks => exact absurd trivial hlooks

theorem answers_close {d : Descriptor} : Answers tree (sys (.close d)) w (.ok ()) := by
  refine ensures_invoke.mpr fun answer s hstep => ?_
  cases hstep with
  | close => exact ⟨rfl, .refl w⟩
  | other hlooks => exact absurd trivial hlooks

/-- Closing before raising again loses no exception. -/
theorem answers_close_raise {d : Descriptor} {e : FileException} :
    Answers tree (do sys (.close d); raise e : Files α) w (.error e) :=
  answers_close.bind fun _ _ => ⟨rfl, .refl _⟩

/-- What opens the directory at a path: the root by itself, any other one through its parent. -/
inductive Leads (tree : FileTree) (w : StillWorld) : Opening → Path → Prop
  | root : Leads tree w (.directory []) []
  | component {d : Descriptor} (name : String) (hsearch : tree.searchable (w.place d) = true) :
    Leads tree w (.directoryAt d name) (w.place d ++ [name])

/-- A directory that may be read is opened where it is. -/
theorem ensures_opening {target : Opening} {reason : OsError → FilesystemRejection} {place : Path}
    {f : Descriptor → Files α} {Q : Except FileException α → StillWorld → Prop}
    (htarget : Leads tree w target place) (hopens : tree.Opens place)
    (hf : (f w.opened).Ensures (Still tree) (w.opening place) Q) :
    (expecting reason (.opening target) >>= f).Ensures (Still tree) w Q := by
  refine ensures_bind.mpr (ensures_invoke.mpr fun answer s hstep => ?_)
  cases htarget with
  | root =>
    cases hstep with
    | directory => exact hf
    | directoryRefused e h => exact absurd hopens h
    | other hlooks => exact absurd trivial hlooks
  | component name hsearch =>
    cases hstep with
    | directoryAt => exact hf
    | directoryAtRefused e h =>
      rcases h with hdenied | hclosed
      · rw [hsearch] at hdenied
        cases hdenied
      · exact absurd hopens hclosed
    | other hlooks => exact absurd trivial hlooks

/-- Another one is not. -/
theorem answers_openingDenied {target : Opening} {reason : FilesystemRejection} {place : Path}
    (htarget : Leads tree w target place) (hclosed : ¬tree.Opens place) :
    Answers tree (expecting (fun _ => reason) (.opening target)) w (refuse reason) := by
  refine ensures_invoke.mpr fun answer s hstep => ?_
  cases htarget with
  | root =>
    cases hstep with
    | directory h => exact absurd h hclosed
    | directoryRefused => exact ⟨rfl, .refl w⟩
    | other hlooks => exact absurd trivial hlooks
  | component name hsearch =>
    cases hstep with
    | directoryAt _ h => exact absurd h hclosed
    | directoryAtRefused => exact ⟨rfl, .refl w⟩
    | other hlooks => exact absurd trivial hlooks

/-- What the two walks expect of each other, in a filesystem that stands still. -/
def Expects (expected : Option (List DirectorySnapshot)) (index : Nat)
    (snapshots : List DirectorySnapshot) : Prop :=
  ∀ list, expected = some list → list.drop index = snapshots

/-- The snapshot that is expected next is accepted. -/
theorem requireExpectedDirectory_ok {index : Nat} {snapshot : DirectorySnapshot}
    {rest : List DirectorySnapshot} (h : Expects expected index (snapshot :: rest)) :
    requireExpectedDirectory snapshot expected index = .ok () := by
  unfold requireExpectedDirectory
  cases expected with
  | none => rfl
  | some list =>
    have hdrop : list.drop index = snapshot :: rest := h list rfl
    have hget : list[index]? = some snapshot := by
      rw [← List.head?_drop, hdrop]
      rfl
    exact if_pos hget

/-- What is expected of the components below. -/
theorem Expects.tail {index : Nat} {snapshot : DirectorySnapshot} {rest : List DirectorySnapshot}
    (h : Expects expected index (snapshot :: rest)) : Expects expected (index + 1) rest := by
  intro list hlist
  rw [← List.drop_drop, h list hlist]
  rfl

/-- In a tree that stands still nothing changes between two looks. -/
theorem requireDirectoryUnchanged_self {m : Metadata} {final : Bool} :
    requireDirectoryUnchanged m m final = .ok () := by
  simp [requireDirectoryUnchanged]

theorem directory_of_valid {uid : Nat} {m : Metadata} {final : Bool}
    (h : validateDirectoryComponent uid m final = .ok ()) : m.fileType = .directory := by
  cases final with
  | true => exact (validateDirectoryComponent_final.mp h).directory
  | false => exact (validateDirectoryComponent_above.mp h).directory

theorem answers_enterRoot {m : Metadata} {d : Descriptor} {final : Bool}
    {rest : List DirectorySnapshot} (hroot : tree.find [] = some m) (hd : tree.find (w.place d) = some m)
    (hvalid : validateDirectoryComponent host.uid m final = .ok ())
    (hexpects : Expects expected 0 (m.snapshot :: rest)) :
    Answers tree (enterRoot host m d final expected) w (.ok m) := by
  refine (answers_fstat hd).bind fun s _ => ?_
  refine ensures_check hvalid (ensures_check requireDirectoryUnchanged_self ?_)
  refine (answers_root hroot).bind fun u _ => ensures_check hvalid ?_
  refine ensures_check requireDirectoryUnchanged_self ?_
  exact ensures_check (requireExpectedDirectory_ok hexpects) ⟨rfl, .refl _⟩

/-- A component that is what was expected passes. -/
theorem answers_checkDirectory {m : Metadata} {parent child : Descriptor} {component : String}
    {final : Bool} {index : Nat} {rest : List DirectorySnapshot} (hparent : parent < w.opened)
    (hsearch : tree.searchable (w.place parent) = true)
    (hm : tree.find (w.place parent ++ [component]) = some m)
    (hchild : tree.find (w.place child) = some m)
    (hvalid : validateDirectoryComponent host.uid m final = .ok ())
    (hexpects : Expects expected index (m.snapshot :: rest)) :
    Answers tree (checkDirectory host m parent child component final expected index) w
      (.ok m) := by
  refine (answers_fstat hchild).bind fun s hlater => ?_
  refine ensures_check hvalid (ensures_check requireDirectoryUnchanged_self ?_)
  have hplace : s.place parent = w.place parent := hlater.place parent hparent
  refine (answers_entry (by rw [hplace, hsearch]) (by rw [hplace, hm])).bind fun u _ =>
    ensures_check hvalid ?_
  refine ensures_check requireDirectoryUnchanged_self ?_
  exact ensures_check (requireExpectedDirectory_ok hexpects) ⟨rfl, .refl _⟩

/-- The snapshots of the directories below one, as far as they are there. -/
def snapshotsBelow (tree : FileTree) : Path → List String → List DirectorySnapshot
  | _, [] => []
  | here, part :: rest =>
    match tree.find (here ++ [part]) with
    | none => []
    | some m => m.snapshot :: snapshotsBelow tree (here ++ [part]) rest

/-- A component is entered when it is accepted, and the walk stands in it then. -/
def EnteredStill (w : StillWorld) (there : Path) (m : Metadata)
    (r : Except FileException (Descriptor × Metadata)) (s : StillWorld) : Prop :=
  ∃ child, r = .ok (child, m) ∧ child < s.opened ∧ s.place child = there ∧ Later w s

/-- Entering a component of a tree that stands still. -/
theorem enterDirectory_still {here : Path} {m : Metadata} {parent : Descriptor} {component : String}
    {final : Bool} {index : Nat} {rest : List DirectorySnapshot} (hparent : parent < w.opened)
    (hhere : w.place parent = here) (hsearch : tree.searchable here = true)
    (hm : tree.find (here ++ [component]) = some m)
    (hread : tree.readable (here ++ [component]) = true)
    (hvalid : validateDirectoryComponent host.uid m final = .ok ())
    (hexpects : Expects expected index (m.snapshot :: rest)) :
    (enterDirectory host parent component final expected index).Ensures (Still tree) w
      (EnteredStill w (here ++ [component]) m) := by
  subst hhere
  refine (answers_entry hsearch hm).then fun s hlater => ensures_check hvalid ?_
  have hplace : s.place parent = w.place parent := hlater.place parent hparent
  have hleads : Leads tree s (.directoryAt parent component) (w.place parent ++ [component]) := by
    rw [← hplace]
    exact .component component (by rw [hplace, hsearch])
  refine ensures_opening hleads ⟨hread, m, hm, directory_of_valid hvalid⟩ ?_
  have hopened := later_opening s (w.place parent ++ [component])
  have hchild : (s.opening (w.place parent ++ [component])).place s.opened =
      w.place parent ++ [component] := Function.update_self ..
  have hlast := hlater.trans hopened
  have hchecked : Answers tree (checkDirectory host m parent s.opened component final expected index)
      (s.opening (w.place parent ++ [component])) (.ok m) := by
    refine answers_checkDirectory (Nat.lt_of_lt_of_le hparent hlast.opened) ?_ ?_ ?_ hvalid hexpects
    · rw [hlast.place parent hparent, hsearch]
    · rw [hlast.place parent hparent, hm]
    · rw [hchild, hm]
  refine Ensures.catching_bind hchecked ?_
  rintro r u ⟨rfl, hu⟩
  refine ⟨s.opened, rfl, Nat.lt_of_lt_of_le (Nat.lt_succ_self _) hu.opened, ?_, hlast.trans hu⟩
  rw [hu.place s.opened (Nat.lt_succ_self _), hchild]

/-- Why a component is not entered. -/
inductive Blocked (uid : Nat) (tree : FileTree) (here : Path) (component : String) (final : Bool) :
    FileException → Prop
  | unsearchable (h : tree.searchable here = false) :
    Blocked uid tree here component final (.boundary .invalidPath)
  | missing (hsearch : tree.searchable here = true) (h : tree.find (here ++ [component]) = none) :
    Blocked uid tree here component final (.boundary .missing)
  | refused {m : Metadata} {e : FileException} (hsearch : tree.searchable here = true)
      (hm : tree.find (here ++ [component]) = some m)
      (h : validateDirectoryComponent uid m final = .error e) :
    Blocked uid tree here component final e
  | unreadable {m : Metadata} (hsearch : tree.searchable here = true)
      (hm : tree.find (here ++ [component]) = some m)
      (hvalid : validateDirectoryComponent uid m final = .ok ())
      (h : tree.readable (here ++ [component]) = false) :
    Blocked uid tree here component final (.boundary .identityChanged)

/-- A component that is blocked ends the walk. -/
theorem enterDirectory_blocked {here : Path} {parent : Descriptor} {component : String}
    {final : Bool} {index : Nat} {e : FileException} (hparent : parent < w.opened)
    (hhere : w.place parent = here) (h : Blocked host.uid tree here component final e) :
    Answers tree (enterDirectory host parent component final expected index) w (.error e) := by
  subst hhere
  cases h with
  | unsearchable h => exact (answers_entryDenied h).raises
  | missing hsearch h => exact (answers_noEntry hsearch h).raises
  | refused hsearch hm h =>
    refine (answers_entry hsearch hm).bind fun s _ => ?_
    rw [h]
    exact ⟨rfl, .refl s⟩
  | unreadable hsearch hm hvalid h =>
    refine (answers_entry hsearch hm).bind fun s hlater => ensures_check hvalid ?_
    have hplace : s.place parent = w.place parent := hlater.place parent hparent
    have hleads : Leads tree s (.directoryAt parent component) (w.place parent ++ [component]) := by
      rw [← hplace]
      exact .component component (by rw [hplace, hsearch])
    refine (answers_openingDenied hleads fun hopens => ?_).raises
    rw [hopens.1] at h
    cases h

/-- The loop ends as the verdict on what is below says, with the snapshots it was given and those
    it took. -/
theorem answers_walkFrom {components : List String} :
    ∀ {w : StillWorld} {here : Path} {d : Descriptor} {index : Nat}
      {snapshots : List DirectorySnapshot} {last : Metadata}, d < w.opened → w.place d = here →
      Expects expected index (snapshotsBelow tree here components) →
      Answers tree (walkFrom host expected d index components snapshots last) w
        ((verdictBelow host.uid tree here components last).map fun m =>
          (snapshots ++ snapshotsBelow tree here components, m)) := by
  induction components with
  | nil =>
    intro w here d index snapshots last _ _ _
    refine answers_close.bind fun s _ => ?_
    rw [snapshotsBelow, List.append_nil]
    exact ⟨rfl, .refl s⟩
  | cons component rest ih =>
    intro w here d index snapshots last hd hhere hexpects
    -- however the component is refused, the descriptor is closed and the refusal raised
    have hblocked : ∀ {e}, Blocked host.uid tree here component rest.isEmpty e →
        Answers tree (walkFrom host expected d index (component :: rest) snapshots last) w
          (.error e) := by
      intro e h
      unfold walkFrom
      exact (enterDirectory_blocked hd hhere h).caught fun s _ => answers_close_raise
    unfold verdictBelow snapshotsBelow
    unfold snapshotsBelow at hexpects
    -- the order in which the code looks: search, find, validate, open
    cases hsearch : tree.searchable here with
    | false => exact hblocked (.unsearchable hsearch)
    | true =>
      rw [if_neg (by simp)]
      cases hm : tree.find (here ++ [component]) with
      | none => exact hblocked (.missing hsearch hm)
      | some m =>
        rw [hm] at hexpects
        dsimp only at hexpects ⊢
        cases hvalid : validateDirectoryComponent host.uid m rest.isEmpty with
        | error e => exact hblocked (.refused hsearch hm hvalid)
        | ok _ =>
          dsimp only
          cases hread : tree.readable (here ++ [component]) with
          | false => exact hblocked (.unreadable hsearch hm hvalid hread)
          | true =>
            rw [if_neg (by simp)]
            unfold walkFrom
            refine Ensures.catching_bind
              (enterDirectory_still hd hhere hsearch hm hread hvalid hexpects) ?_
            rintro r s ⟨child, rfl, hchild, hplace, hlater⟩
            refine (ensures_ask_bind).mpr fun answer u hstep => ?_
            cases hstep with
            | close =>
              have hrest := @ih s (here ++ [component]) child (index + 1)
                (snapshots ++ [m.snapshot]) m hchild hplace hexpects.tail
              rw [List.append_assoc] at hrest
              exact hrest.mono fun _ _ hr => ⟨hr.1, hlater.trans hr.2⟩
            | other hlooks => exact absurd trivial hlooks

/-- What is to be said of the components of a path, with the directories seen on the way. -/
def chainVerdict (host : Host) (tree : FileTree) (components : List String) :
    Except FileException DirectoryWalk :=
  if !host.descriptorTraversal then refuse .invalidPath
  else match tree.find [] with
    | none => refuse .missing
    | some m =>
      match validateDirectoryComponent host.uid m components.isEmpty with
      | .error e => .error e
      | .ok _ =>
        if !tree.readable [] then refuse .identityChanged
        else (verdictBelow host.uid tree [] components m).map fun last =>
          ⟨m.snapshot :: snapshotsBelow tree [] components, last.identity⟩

/-- One walk ends as the verdict says, whether it expects nothing or what is there. -/
theorem answers_walkDirectoryChain {components : List String}
    (hexpects : ∀ m, tree.find [] = some m →
      Expects expected 0 (m.snapshot :: snapshotsBelow tree [] components)) :
    Answers tree (walkDirectoryChain host components expected) w
      (chainVerdict host tree components) := by
  unfold walkDirectoryChain chainVerdict
  cases htraversal : host.descriptorTraversal with
  | false => exact ⟨rfl, .refl w⟩
  | true =>
    show Answers tree (do
      let before ← expecting (fun _ => .missing) (.lstat [])
      _) w _
    cases hroot : tree.find [] with
    | none => exact (answers_rootMissing hroot).raises
    | some m =>
      refine (answers_root hroot).bind fun s _ => ?_
      rw [if_neg (by simp)]
      dsimp only
      cases hvalid : validateDirectoryComponent host.uid m components.isEmpty with
      | error e => exact ⟨rfl, .refl s⟩
      | ok _ =>
        dsimp only
        cases hread : tree.readable [] with
        | false =>
          refine ensures_check rfl (answers_openingDenied .root fun hopens => ?_).raises
          rw [hopens.1] at hread
          cases hread
        | true =>
          rw [if_neg (by simp)]
          have hlater : Later s (s.opening []) := later_opening s []
          have hplace : (s.opening []).place s.opened = [] := Function.update_self ..
          refine ensures_check rfl
            (ensures_opening .root ⟨hread, m, hroot, directory_of_valid hvalid⟩ ?_)
          -- The root is entered, and the loop starts in it.
          have hentered : Answers tree (enterRoot host m s.opened components.isEmpty expected)
              (s.opening []) (.ok m) :=
            answers_enterRoot hroot (by rw [hplace, hroot]) hvalid (hexpects m hroot)
          refine Ensures.mono (hentered.caught fun u hu => ?_) fun r v hr => ⟨hr.1, hlater.trans hr.2⟩
          have hopened : s.opened < u.opened := Nat.lt_of_lt_of_le (Nat.lt_succ_self _) hu.opened
          have hhere : u.place s.opened = [] := by
            rw [hu.place s.opened (Nat.lt_succ_self _), hplace]
          have hwalk : Answers tree (walkFrom host expected s.opened 1 components [m.snapshot] m) u
              ((verdictBelow host.uid tree [] components m).map fun last =>
                ([m.snapshot] ++ snapshotsBelow tree [] components, last)) :=
            answers_walkFrom hopened hhere (hexpects m hroot).tail
          cases hbelow : verdictBelow host.uid tree [] components m with
          | error e =>
            rw [hbelow] at hwalk
            exact hwalk.raises
          | ok last =>
            rw [hbelow] at hwalk
            refine hwalk.bind fun v _ => ?_
            have hlength : ¬(expected.any fun expected =>
                expected.length ≠ ([m.snapshot] ++ snapshotsBelow tree [] components).length) := by
              intro hany
              obtain ⟨list, hlist, hne⟩ := (Option.any_eq_true ..).mp hany
              have heq : list = m.snapshot :: snapshotsBelow tree [] components :=
                hexpects m hroot list hlist
              exact of_decide_eq_true hne (by rw [heq]; rfl)
            show Answers tree (if expected.any _ then _ else _) v _
            rw [if_neg hlength]
            exact ⟨rfl, .refl v⟩

end Walks

/-! ## The validation -/

/-- A directory that is not to be trusted is refused with a fixed reason. -/
theorem validateDirectoryComponent_boundary {uid : Nat} {m : Metadata} {final : Bool}
    {e : FileException} (h : validateDirectoryComponent uid m final = .error e) :
    ∃ reason, e = .boundary reason := by
  unfold validateDirectoryComponent validateDirectoryMetadata refuse at h
  split_ifs at h <;> exact ⟨_, (Except.error.inj h).symm⟩

/-- So is whatever is refused below a directory. -/
theorem verdictBelow_boundary {uid : Nat} {rest : List String} {e : FileException} :
    ∀ {here : Path} {last : Metadata}, verdictBelow uid tree here rest last = .error e →
      ∃ reason, e = .boundary reason := by
  induction rest with
  | nil =>
    intro here last h
    cases h
  | cons part rest ih =>
    intro here last h
    unfold verdictBelow at h
    split at h
    · exact ⟨_, (Except.error.inj h).symm⟩
    · split at h
      · exact ⟨_, (Except.error.inj h).symm⟩
      · split at h
        next hinvalid => exact Except.error.inj h ▸ validateDirectoryComponent_boundary hinvalid
        next =>
          split at h
          · exact ⟨_, (Except.error.inj h).symm⟩
          · exact ih h

/-- What the verdict refuses has a fixed reason. -/
theorem verdict_boundary {host : Host} {path : Path} {e : FileException}
    (h : verdict host tree path = .error e) : ∃ reason, e = .boundary reason := by
  unfold verdict at h
  split at h
  next hcomponents =>
    rw [directoryComponents_eq] at hcomponents
    split_ifs at hcomponents
    obtain rfl := Except.error.inj hcomponents
    exact ⟨_, (Except.error.inj h).symm⟩
  next =>
    split at h
    · exact ⟨_, (Except.error.inj h).symm⟩
    · split at h
      · exact ⟨_, (Except.error.inj h).symm⟩
      · split at h
        next hinvalid => exact Except.error.inj h ▸ validateDirectoryComponent_boundary hinvalid
        next =>
          split at h
          · exact ⟨_, (Except.error.inj h).symm⟩
          · cases hlast : verdictBelow host.uid tree [] _ _ with
            | error e' =>
              rw [hlast] at h
              exact Except.error.inj h ▸ verdictBelow_boundary hlast
            | ok last =>
              rw [hlast] at h
              cases h

/-- The verdict on a path of plain parts is the one on its chain. -/
theorem verdict_chain {host : Host} {path : Path} (h : directoryComponents path = .ok path) :
    verdict host tree path = (chainVerdict host tree path).map DirectoryWalk.finalIdentity := by
  unfold verdict chainVerdict
  rw [h]
  dsimp only
  split
  · rfl
  · cases tree.find [] with
    | none => rfl
    | some m =>
      dsimp only
      cases validateDirectoryComponent host.uid m path.isEmpty with
      | error e => rfl
      | ok _ =>
        dsimp only
        split
        · rfl
        · cases verdictBelow host.uid tree [] path m <;> rfl

/-- The second walk finds what the first one saw. -/
theorem expects_chain {host : Host} {components : List String} {walk : DirectoryWalk}
    (h : chainVerdict host tree components = .ok walk) (m : Metadata) (hm : tree.find [] = some m) :
    Expects (some walk.components) 0 (m.snapshot :: snapshotsBelow tree [] components) := by
  unfold chainVerdict at h
  split at h
  · cases h
  · rw [hm] at h
    dsimp only at h
    split at h
    · cases h
    · split at h
      · cases h
      · cases hbelow : verdictBelow host.uid tree [] components m with
        | error e =>
          rw [hbelow] at h
          cases h
        | ok last =>
          rw [hbelow] at h
          obtain rfl := Except.ok.inj h
          rintro list hlist
          exact (Option.some.inj hlist).symm

/-- The validation answers what the tree decides. -/
theorem answers_validateProtectedDirectory {host : Host} {path : Path} {w : StillWorld} :
    Answers tree (validateProtectedDirectory host path) w (verdict host tree path) := by
  have hrefused : ∀ e, verdict host tree path = .error e → e.refused .invalidPath = e := by
    intro e he
    obtain ⟨reason, rfl⟩ := verdict_boundary he
    rfl
  have hbody : ∀ {body : Files PathIdentity}, Answers tree body w (verdict host tree path) →
      Answers tree (refusing .invalidPath body) w (verdict host tree path) := by
    intro body h
    refine h.caught fun s _ => ?_
    cases hverdict : verdict host tree path with
    | ok identity => exact ⟨rfl, .refl s⟩
    | error e => exact ⟨congrArg Except.error (hrefused e hverdict), .refl s⟩
  refine hbody ?_
  by_cases hparts : ∀ part ∈ path, part ∉ ["", ".", ".."]
  · have hcomponents : directoryComponents path = .ok path := by
      rw [directoryComponents_eq, if_pos hparts]
    rw [verdict_chain hcomponents]
    refine ensures_check hcomponents ?_
    have hfirst : Answers tree (walkDirectoryChain host path none) w
        (chainVerdict host tree path) :=
      answers_walkDirectoryChain fun m _ list hlist => by cases hlist
    cases hchain : chainVerdict host tree path with
    | error e =>
      rw [hchain] at hfirst
      exact hfirst.raises
    | ok walk =>
      rw [hchain] at hfirst
      refine hfirst.bind fun s _ => ?_
      have hsecond : Answers tree (walkDirectoryChain host path (some walk.components)) s
          (.ok walk) := hchain ▸ answers_walkDirectoryChain (expects_chain hchain)
      refine hsecond.bind fun u _ => ?_
      show Answers tree (if walk.finalIdentity ≠ walk.finalIdentity then _ else _) u _
      rw [if_neg fun hne => hne rfl]
      exact ⟨rfl, .refl u⟩
  · have hcomponents : directoryComponents path = refuse .invalidPath := by
      rw [directoryComponents_eq, if_neg hparts]
    have hverdict : verdict host tree path = refuse .invalidPath := by
      unfold verdict
      rw [hcomponents]
      rfl
    rw [hverdict, hcomponents]
    exact ⟨rfl, .refl w⟩

/-- While nothing changes, the validation of a directory ends with the verdict on its path: it
    accepts exactly the paths that are trusted all the way, and refuses every other one with the
    reason of the first directory that is missing, not to be trusted, or closed to the process. -/
theorem validation_judges (tree : FileTree) (host : Host) (path : Path)
    (w : StillWorld) :
    Nonempty (Execution (Still tree) (validateProtectedDirectory host path) w) ∧
      ∀ x : Execution (Still tree) (validateProtectedDirectory host path) w,
        x.result = verdict host tree path ∧ ∀ identity, x.result = .ok identity ↔
          (∀ part ∈ path, part ∉ ["", ".", ".."]) ∧ host.descriptorTraversal = true ∧
            Trusted host.uid tree path identity := by
  refine ⟨execution_of_answers (fun s c => still_answers s c) _ w, fun x => ?_⟩
  have hresult : x.result = verdict host tree path :=
    (Ensures.execution answers_validateProtectedDirectory x).1
  refine ⟨hresult, fun identity => ?_⟩
  rw [hresult]
  exact verdict_eq_ok

end Aurora.HealthHistory.Filesystem
