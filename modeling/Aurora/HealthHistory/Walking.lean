/-
  Following the cursors of the three lists.

  `Pages` is a walk as a client makes it: list, follow the cursor, list again, with a page size of its
  own choice at every visit and the database of that time.  Each of the three lists serves the pages
  of one sorted collection, the records of the matching rows, so what holds of walks through sorted
  collections holds of it: a walk is complete, in order and without repetition.
-/
import Aurora.Lib.Sorting
import Aurora.Lib.Paging
import Aurora.HealthHistory.Runs
import Aurora.HealthHistory.Expiring

namespace Aurora.HealthHistory

open Ingestion Queries Script

/-! ## Positions -/

/-- The position of a cursor. -/
def Cursor.position (c : Cursor) : Int × Int := (c.timestamp, c.rowId)

instance : IsTrans (Int × Int) positionLt := ⟨fun a b c h h' => by
  unfold positionLt at *
  omega⟩

instance : Std.Irrefl positionLt := ⟨fun a h => by
  unfold positionLt at h
  omega⟩

/-- `a` comes before `b` when the newest come first. -/
def newer (a b : Int × Int) : Prop := positionLt b a

instance : DecidableRel newer := fun a b => inferInstanceAs (Decidable (positionLt b a))

instance : IsTrans (Int × Int) newer := ⟨fun a b c h h' =>
  IsTrans.trans (r := positionLt) c b a h' h⟩

instance : Std.Irrefl newer := ⟨fun a h => irrefl (r := positionLt) a h⟩

instance {ρ : Type} (position : ρ → Int × Int) : Std.Total (newestFirst position) := ⟨fun a b => by
  unfold newestFirst positionLt
  omega⟩

instance {ρ : Type} (position : ρ → Int × Int) : IsTrans ρ (newestFirst position) :=
  ⟨fun a b c h h' => by
    unfold newestFirst positionLt at *
    omega⟩

theorem position_ext {a b : Int × Int} (h : ¬positionLt a b) (h' : ¬positionLt b a) : a = b := by
  unfold positionLt at h h'
  exact Prod.ext (by omega) (by omega)

section Sorted

variable {ρ : Type} {position : ρ → Int × Int} {rows : List ρ}

/-- Rows with different positions are listed strictly downward. -/
theorem newestFirst_sorted (hrows : (rows.map position).Nodup) :
    ((rows.insertionSort (newestFirst position)).map position).Pairwise newer := by
  have hnodup := ((List.perm_insertionSort (newestFirst position) rows).map position).nodup_iff.mpr
    hrows
  rw [List.Nodup, List.pairwise_map] at hnodup
  rw [List.pairwise_map]
  refine ((List.pairwise_insertionSort (newestFirst position) rows).and hnodup).imp ?_
  rintro a b ⟨hle, hne⟩
  by_contra hnot
  exact hne (position_ext hle hnot)

/-- Rows with different positions are listed strictly upward. -/
theorem oldestFirst_sorted (hrows : (rows.map position).Nodup) :
    ((rows.insertionSort (oldestFirst position)).map position).Pairwise positionLt := by
  have hnodup := ((List.perm_insertionSort (oldestFirst position) rows).map position).nodup_iff.mpr
    hrows
  rw [List.Nodup, List.pairwise_map] at hnodup
  rw [List.pairwise_map]
  refine ((List.pairwise_insertionSort (oldestFirst position) rows).and hnodup).imp ?_
  rintro a b ⟨hle, hne⟩
  by_contra hnot
  exact hne (position_ext hnot hle)

/-- Rows with different positions are not tied. -/
theorem untied {r : ρ → ρ → Prop} (hrows : (rows.map position).Nodup)
    (h : ∀ a b, r a b → r b a → position a = position b) :
    ∀ a ∈ rows, ∀ b ∈ rows, r a b → r b a → a = b := fun a ha b hb hab hba =>
  List.inj_on_of_nodup_map hrows ha hb (h a b hab hba)

end Sorted

/-- An element of the second list has a partner in the first. -/
theorem exists_of_forall₂ {α β : Type} {R : α → β → Prop} {l : List α} {l' : List β}
    (h : List.Forall₂ R l l') {b : β} (hb : b ∈ l') : ∃ a ∈ l, R a b := by
  induction h with
  | nil => cases hb
  | @cons a b' l l' hab _ ih =>
    rcases List.mem_cons.mp hb with rfl | hb
    · exact ⟨a, List.mem_cons_self, hab⟩
    · obtain ⟨a', ha', hb⟩ := ih hb
      exact ⟨a', List.mem_cons_of_mem a ha', hb⟩

/-! ## One page -/

section Page

variable {ρ τ : Type} {record : ρ → Transaction τ} {position : ρ → Int × Int} {key : τ → Int × Int}
  {before : Int × Int → Int × Int → Prop} [DecidableRel before] {db : Database}

/-- The records of some rows, in their order. -/
def Records (record : ρ → Transaction τ) (position : ρ → Int × Int) (key : τ → Int × Int)
    (db : Database) : List ρ → List τ → Prop :=
  List.Forall₂ fun r t => (record r).run db = .ok (t, db) ∧ key t = position r

/-- The records have the positions of their rows. -/
theorem Records.keys {l : List ρ} {ts : List τ} (h : Records record position key db l ts) :
    ts.map key = l.map position := by
  induction h with
  | nil => rfl
  | cons h _ ih => rw [List.map_cons, List.map_cons, h.2, ih]

/-- The records behind a cursor are those of the rows behind it. -/
theorem Records.behind {l : List ρ} {ts : List τ} (h : Records record position key db l ts)
    (cursor : Option (Int × Int)) :
    Records record position key db (behindCursor before position cursor l)
      (behindCursor before key cursor ts) := by
  unfold behindCursor
  induction h with
  | nil => exact .nil
  | @cons r t l ts h _ ih =>
    rw [List.filter_cons, List.filter_cons, h.2]
    split
    · exact .cons h ih
    · exact ih

theorem Records.run_mapM {l : List ρ} {ts : List τ} (h : Records record position key db l ts) :
    (l.mapM record).run db = .ok (ts, db) := by
  induction h with
  | nil => rfl
  | cons h _ ih =>
    rw [List.mapM_cons, run_bind_ok h.1, run_bind_ok ih]
    rfl

/-- Rows that can each be read can be read together. -/
theorem exists_records {l : List ρ}
    (h : ∀ r ∈ l, ∃ t, (record r).run db = .ok (t, db) ∧ key t = position r) :
    ∃ ts, Records record position key db l ts := by
  induction l with
  | nil => exact ⟨[], .nil⟩
  | cons r l ih =>
    obtain ⟨t, ht⟩ := h r List.mem_cons_self
    obtain ⟨ts, hts⟩ := ih fun x hx => h x (List.mem_cons_of_mem r hx)
    exact ⟨t :: ts, .cons ht hts⟩

/-- There is one list of records to a list of rows. -/
theorem Records.unique {l : List ρ} {ts ts' : List τ} (h : Records record position key db l ts)
    (h' : Records record position key db l ts') : ts = ts' := by
  have hts := h.run_mapM
  rw [h'.run_mapM] at hts
  exact ((Prod.mk.inj (Except.ok.inj hts)).1).symm

/-- The position of a row can be made a cursor. -/
def Placed (position : Int × Int) : Prop :=
  Bounded maxTimestampUs position.1 ∧ Positive maxObservationSequence position.2

/-- `readPage` serves a page of the records. -/
theorem run_readPage {rows : Database → List ρ} {l : List ρ} {ts : List τ} {cursor : Option Cursor}
    {n : Nat} (hrecords : Records record position key db l ts)
    (hplaced : ∀ r ∈ l, Placed (position r))
    (hrows : rows db = behindCursor before position (cursor.map Cursor.position) l) :
    ∃ page, (readPage record key n rows).run db = .ok (page, db) ∧
      IsPage before key (cursor.map Cursor.position) (ts, n) page.items
        (page.nextCursor.map Cursor.position) := by
  have hbehind : Records record position key db
      (behindCursor before position (cursor.map Cursor.position) l)
      (behindCursor before key (cursor.map Cursor.position) ts) := hrecords.behind _
  rw [← hrows] at hbehind
  -- one row more than the page is read, to see whether another page follows
  generalize hus : behindCursor before key (cursor.map Cursor.position) ts = us at hbehind
  have hmapM : (((rows db).take (n + 1)).mapM record).run db = .ok (us.take (n + 1), db) :=
    Records.run_mapM (List.forall₂_take (n + 1) hbehind)
  have htake : (us.take (n + 1)).take n = us.take n := by
    rw [List.take_take, Nat.min_eq_left (by omega)]
  have hlength : (us.take (n + 1)).length > n ↔ n < us.length := by
    rw [List.length_take]
    omega
  have hkey : ∀ t ∈ us, Placed (key t) := by
    intro t ht
    rw [← hus] at ht
    have hmem : key t ∈ l.map position := by
      rw [← hrecords.keys]
      exact List.mem_map_of_mem (mem_behindCursor.mp ht).1
    obtain ⟨r, hr, heq⟩ := List.mem_map.mp hmem
    rw [← heq]
    exact hplaced r hr
  unfold readPage select
  rw [run_bind, run_read]
  dsimp only
  rw [run_bind_ok hmapM, htake]
  -- the cursor of the next page is that of the last row of this one
  by_cases hmore : n < us.length
  · rw [if_pos (hlength.mpr hmore)]
    cases hlast : (us.take n).getLast? with
    | none =>
      refine ⟨⟨us.take n, none⟩, rfl, ?_, ?_⟩
      · rw [hus]
      · rw [hus, if_pos hmore, hlast]
        rfl
    | some last =>
      have hplace := hkey last (List.mem_of_mem_take (List.mem_of_getLast? hlast))
      dsimp only
      unfold Cursor.new? attempt
      rw [dif_pos (show Bounded maxTimestampUs (key last).1 ∧
        Positive maxObservationSequence (key last).2 from hplace), run_bind, run_ofExcept]
      refine ⟨⟨us.take n, some ⟨_, _, hplace.1, hplace.2⟩⟩, rfl, ?_, ?_⟩
      · rw [hus]
      · rw [hus, if_pos hmore, hlast]
        rfl
  · rw [if_neg (mt hlength.mp hmore)]
    refine ⟨⟨us.take n, none⟩, rfl, ?_, ?_⟩
    · rw [hus]
    · rw [hus, if_neg hmore]
      rfl

end Page

/-! ## Walks of a client -/

section Walks

variable {ρ τ : Type}

/-- List, and follow the cursor until there is none. -/
inductive Pages (list : Database → Int → Option Cursor → Except QueryError (Page τ)) :
    Option Cursor → List (Database × Int) → List τ → Prop
  | last {cursor : Option Cursor} {db : Database} {pageSize : Int} {items : List τ}
      (h : list db pageSize cursor = .ok ⟨items, none⟩) : Pages list cursor [(db, pageSize)] items
  | next {cursor : Option Cursor} {db : Database} {pageSize : Int} {items rest : List τ} {c : Cursor}
      {visits : List (Database × Int)} (h : list db pageSize cursor = .ok ⟨items, some c⟩)
      (walk : Pages list (some c) visits rest) :
      Pages list cursor ((db, pageSize) :: visits) (items ++ rest)

/-- The list serves pages of the records of the rows `listed`. -/
def Serves (list : Database → Int → Option Cursor → Except QueryError (Page τ))
    (before : Int × Int → Int × Int → Prop) [DecidableRel before] (listed : Database → List ρ)
    (record : ρ → Transaction τ) (position : ρ → Int × Int) (key : τ → Int × Int) (db : Database) :
    Prop :=
  ∃ ts, Records record position key db (listed db) ts ∧ (ts.map key).Pairwise before ∧
    ∀ pageSize cursor, Positive 100 pageSize → ∃ page, list db pageSize cursor = .ok page ∧
      IsPage before key (cursor.map Cursor.position) (ts, pageSize.toNat) page.items
        (page.nextCursor.map Cursor.position)

/-- Walks through the list are complete, in order, and without repetition. -/
structure PagesExactly (list : Database → Int → Option Cursor → Except QueryError (Page τ))
    (answers : Database → Prop) (listed : Database → List ρ) (record : ρ → Transaction τ)
    (position : ρ → Int × Int) (key : τ → Int × Int) : Prop where
  /-- Every walk through one database ends with the records of the listed rows. -/
  constant : ∀ db (sizes : List Int), Readable db → answers db → (∀ n ∈ sizes, Positive 100 n) →
    ∃ ts, Records record position key db (listed db) ts ∧
      (∀ items, Pages list none (sizes.map fun n => (db, n)) items → items = ts) ∧
      ((listed db).length < sizes.length →
        ∃ k, Pages list none ((sizes.take k).map fun n => (db, n)) ts)
  /-- A row that every visited database lists is given once. -/
  changing : ∀ visits items, (∀ v ∈ visits, Readable v.1 ∧ answers v.1 ∧ Positive 100 v.2) →
    Pages list none visits items → ∀ k, (∀ v ∈ visits, ∃ r ∈ listed v.1, position r = k) →
      (items.map key).count k = 1

variable {list : Database → Int → Option Cursor → Except QueryError (Page τ)}
  {before : Int × Int → Int × Int → Prop} [DecidableRel before] {listed : Database → List ρ}
  {record : ρ → Transaction τ} {position : ρ → Int × Int} {key : τ → Int × Int}

/-- A client's walk is a walk through the collections it visits. -/
theorem Pages.walk {cursor : Option Cursor} {visits : List (Database × Int)} {items : List τ}
    (h : Pages list cursor visits items)
    (hserves : ∀ v ∈ visits, Serves list before listed record position key v.1 ∧ Positive 100 v.2) :
    ∃ collections, List.Forall₂ (fun v w => Records record position key v.1 (listed v.1) w.1 ∧
        (w.1.map key).Pairwise before ∧ 1 ≤ w.2) visits collections ∧
      Walk before key (cursor.map Cursor.position) collections items := by
  induction h with
  | @last cursor db pageSize items h =>
    obtain ⟨⟨ts, hrecords, hsorted, hpages⟩, hsize⟩ := hserves _ List.mem_cons_self
    obtain ⟨page, hpage, hispage⟩ := hpages pageSize cursor hsize
    obtain rfl := Except.ok.inj (hpage.symm.trans h)
    have hpositive : 1 ≤ pageSize.toNat := by
      have := hsize.1
      omega
    exact ⟨[(ts, pageSize.toNat)], .cons ⟨hrecords, hsorted, hpositive⟩ .nil, .last hispage⟩
  | @next cursor db pageSize items rest c visits h _ ih =>
    obtain ⟨⟨⟨ts, hrecords, hsorted, hpages⟩, hsize⟩, hserves⟩ := List.forall_mem_cons.mp hserves
    obtain ⟨page, hpage, hispage⟩ := hpages pageSize cursor hsize
    obtain rfl := Except.ok.inj (hpage.symm.trans h)
    obtain ⟨collections, hcollections, hwalk⟩ := ih hserves
    have hpositive : 1 ≤ pageSize.toNat := by
      have := hsize.1
      omega
    exact ⟨(ts, pageSize.toNat) :: collections, .cons ⟨hrecords, hsorted, hpositive⟩ hcollections,
      .next hispage hwalk⟩

/-- A walk through the records of one database is a walk of a client. -/
theorem Pages.of_walk {db : Database} {ts : List τ}
    (hpages : ∀ pageSize cursor, Positive 100 pageSize → ∃ page,
      list db pageSize cursor = .ok page ∧ IsPage before key (cursor.map Cursor.position)
        (ts, pageSize.toNat) page.items (page.nextCursor.map Cursor.position))
    {cursor : Option (Int × Int)} {visits : List (List τ × Nat)} {items : List τ}
    (h : Walk before key cursor visits items) {c : Option Cursor} (hc : c.map Cursor.position = cursor)
    {sizes : List Int} (hsizes : ∀ n ∈ sizes, Positive 100 n)
    (hvisits : visits = sizes.map fun n => (ts, n.toNat)) :
    Pages list c (sizes.map fun n => (db, n)) items := by
  induction h generalizing c sizes with
  | @last cursor visit items hpage =>
    obtain ⟨n, sizes, rfl, rfl, hnil⟩ := List.map_eq_cons_iff.mp hvisits.symm
    obtain rfl := List.map_eq_nil_iff.mp hnil
    obtain ⟨⟨items', next⟩, hlist, hispage⟩ := hpages n c (hsizes n List.mem_cons_self)
    rw [hc] at hispage
    obtain ⟨rfl, hnext⟩ := hpage.unique hispage
    obtain rfl : next = none := Option.map_eq_none_iff.mp hnext.symm
    exact .last hlist
  | @next cursor visit items rest k visits hpage _ ih =>
    obtain ⟨n, sizes, rfl, rfl, hrest⟩ := List.map_eq_cons_iff.mp hvisits.symm
    obtain ⟨hn, hsizes⟩ := List.forall_mem_cons.mp hsizes
    obtain ⟨⟨items', next⟩, hlist, hispage⟩ := hpages n c hn
    rw [hc] at hispage
    obtain ⟨rfl, hnext⟩ := hpage.unique hispage
    obtain ⟨c', rfl, hc'⟩ := Option.map_eq_some_iff.mp hnext.symm
    exact .next hlist (ih (c := some c') (congrArg some hc') hsizes hrest.symm)

variable [IsTrans (Int × Int) before] [Std.Irrefl before]

/-- A list that serves pages is walked exactly. -/
theorem PagesExactly.of_serves {answers : Database → Prop} (hserves : ∀ db, Readable db →
    answers db → Serves list before listed record position key db) :
    PagesExactly list answers listed record position key where
  constant := by
    intro db sizes hreadable hanswers hsizes
    have hserves := hserves db hreadable hanswers
    obtain ⟨ts, hrecords, hsorted, hpages⟩ := hserves
    refine ⟨ts, hrecords, ?_, ?_⟩
    · intro items h
      obtain ⟨collections, hcollections, hwalk⟩ := h.walk fun v hv => by
        obtain ⟨n, hn, rfl⟩ := List.mem_map.mp hv
        exact ⟨⟨ts, hrecords, hsorted, hpages⟩, hsizes n hn⟩
      rw [hwalk.constant (l := ts) hsorted, Option.map_none, behindCursor_none]
      intro w hw
      obtain ⟨v, hv, hvrecords, -, hpositive⟩ := exists_of_forall₂ hcollections hw
      obtain ⟨n, -, rfl⟩ := List.mem_map.mp hv
      exact ⟨hvrecords.unique hrecords, hpositive⟩
    · intro hlength
      have hlength' : (behindCursor before key none ts).length < (sizes.map Int.toNat).length := by
        have hkeys := congrArg List.length hrecords.keys
        rw [List.length_map, List.length_map] at hkeys
        rwa [behindCursor_none, List.length_map, hkeys]
      have hpositive : ∀ n ∈ sizes.map Int.toNat, 1 ≤ n := by
        intro n hn
        obtain ⟨m, hm, rfl⟩ := List.mem_map.mp hn
        have := (hsizes m hm).1
        omega
      obtain ⟨k, hk⟩ := exists_walk hsorted hpositive hlength'
      rw [behindCursor_none, ← List.map_take, List.map_map] at hk
      exact ⟨k, Pages.of_walk hpages hk (c := none) rfl
        (fun n hn => hsizes n (List.mem_of_mem_take hn)) rfl⟩
  changing := by
    intro visits items hvisits h k hk
    obtain ⟨collections, hcollections, hwalk⟩ := h.walk fun v hv =>
      ⟨hserves v.1 (hvisits v hv).1 (hvisits v hv).2.1, (hvisits v hv).2.2⟩
    refine hwalk.count (fun w hw => ?_) fun w hw => ?_
    · obtain ⟨v, -, -, hsorted, hpositive⟩ := exists_of_forall₂ hcollections hw
      exact ⟨hsorted, hpositive⟩
    · obtain ⟨v, hv, hrecords, -, -⟩ := exists_of_forall₂ hcollections hw
      obtain ⟨r, hr, rfl⟩ := hk v hv
      rw [hrecords.keys]
      exact List.mem_map_of_mem hr

end Walks

/-! ## The three lists -/

/-- Without a fault, a query whose reader succeeds returns what it read. -/
theorem checkedQuery_none {α : Type} {db : Database} {reader : Transaction α} {a : α}
    (h : reader.run db = .ok (a, db)) : (checkedQuery Faults.none db (.ok ()) reader).1 = .ok a := by
  obtain ⟨cursor, hexec⟩ := (exec_none Raised.sqlite reader {} db).1 _ _ h
  unfold checkedQuery readTransaction Connection.begin Connection.execute Connection.rollback
  simp only [Faults.none] at hexec ⊢
  simp only [hexec]
  rfl

/-- Without a fault, a query whose reader fails fails with it. -/
theorem checkedQuery_error {α : Type} {db : Database} {reader : Transaction α} {e : Raised}
    (h : reader.run db = .error e) :
    (checkedQuery Faults.none db (.ok ()) reader).1 = .error (queryFailure e) := by
  obtain ⟨cursor, db', hexec⟩ := (exec_none Raised.sqlite reader {} db).2 _ h
  unfold checkedQuery readTransaction Connection.begin Connection.execute Connection.rollback
  simp only [Faults.none] at hexec ⊢
  simp only [hexec]
  rfl

theorem pageSize?_eq_ok {n : Int} (h : Positive 100 n) : pageSize? n 100 = .ok () := require_pos h

theorem positiveId_eq_ok {i : Int} : positiveId i = .ok () ↔ Positive maxObservationSequence i :=
  require_eq_ok

/-- A trusted read that answered has found what it trusts. -/
theorem run_attempt_trusted {α : Type} {x : Except String α} {a : α} {db m : Database}
    (h : (attempt (trusted x)).run db = .ok (a, m)) : x = .ok a := by
  unfold attempt at h
  rw [Script.run_ofExcept] at h
  cases x with
  | ok b =>
    obtain ⟨rfl, -⟩ := Prod.mk.inj (Except.ok.inj h)
    rfl
  | error text => cases h

theorem alertRecord_positive {db : Database} {r : AlertRow}
    (h : (alertRecord r).run db = .ok (r, db)) : Positive maxObservationSequence r.id := by
  unfold alertRecord at h
  obtain ⟨_, _, hvalid, -⟩ := run_bind_eq_ok.mp h
  have hv := run_attempt_trusted hvalid
  unfold validateAlertRecord at hv
  obtain ⟨_, hid, -⟩ := bind_eq_ok.mp hv
  exact positiveId_eq_ok.mp hid

theorem healthSampleRecord_positive {db : Database} {r : HealthSampleRow}
    {record : HealthSampleRecord} (h : (healthSampleRecord r).run db = .ok (record, db)) :
    Positive maxObservationSequence r.id := by
  unfold healthSampleRecord at h
  obtain ⟨_, _, hid, -⟩ := run_bind_eq_ok.mp h
  exact positiveId_eq_ok.mp (run_attempt_trusted hid)

theorem alertEventRecord_positive {db : Database} {e : AlertEventRow} {alertId : Int}
    (h : (alertEventRecord alertId e).run db = .ok (e, db)) :
    Positive maxObservationSequence e.id := by
  unfold alertEventRecord at h
  obtain ⟨-, _, -, h⟩ := run_bind_eq_ok.mp h
  obtain ⟨_, _, hvalid, -⟩ := run_bind_eq_ok.mp h
  have hv := run_attempt_trusted hvalid
  unfold validateAlertEventRecord at hv
  obtain ⟨_, hid, -⟩ := bind_eq_ok.mp hv
  exact positiveId_eq_ok.mp hid

/-- The samples that a listing with this status shows, newest first. -/
def listedSamples (overallStatus : Option HealthHistoryStatus) (db : Database) :
    List HealthSampleRow :=
  (db.samples.rows.filter (having HealthSampleRow.overallStatus overallStatus)).insertionSort
    (newestFirst samplePosition)

/-- The alerts that a listing with this lifecycle shows, newest first. -/
def listedAlerts (lifecycle : Option AlertLifecycle) (db : Database) : List AlertRow :=
  (db.alerts.rows.filter (having AlertRow.lifecycle lifecycle)).insertionSort
    (newestFirst alertPosition)

/-- The events of an alert, oldest first. -/
def listedEvents (alertId : Int) (db : Database) : List AlertEventRow :=
  (db.events.rows.filter fun e => e.alertId = alertId).insertionSort (oldestFirst eventPosition)

section Rows

variable {ρ : Type} {position : ρ → Int × Int} {rows : List ρ}

/-- Filtering the rows behind the cursor before they are sorted, or after. -/
theorem newestFirst_behind (hrows : (rows.map position).Nodup) (p : ρ → Bool)
    (cursor : Option Cursor) :
    (rows.filter fun r => p r && behind position cursor r).insertionSort (newestFirst position) =
      behindCursor newer position (cursor.map Cursor.position)
        ((rows.filter p).insertionSort (newestFirst position)) := by
  unfold behindCursor
  rw [← insertionSort_filter, List.filter_filter]
  · congr 1
    refine List.filter_congr fun r _ => ?_
    rw [Bool.and_comm]
    congr 1
    cases cursor with
    | none => simp [behind]
    | some c => simp [behind, newer, Cursor.position]
  · exact untied (hrows.sublist ((List.filter_sublist).map position)) fun a b h h' =>
      position_ext h h'

/-- What the query leaves out is what lies before the cursor. -/
theorem oldestFirst_behind (hrows : (rows.map position).Nodup) (p : ρ → Prop) [DecidablePred p]
    (cursor : Option Cursor) :
    (rows.filter fun r => p r ∧ ∀ c ∈ cursor, positionLt (c.timestamp, c.rowId)
        (position r)).insertionSort (oldestFirst position) =
      behindCursor positionLt position (cursor.map Cursor.position)
        ((rows.filter fun r => p r).insertionSort (oldestFirst position)) := by
  unfold behindCursor
  rw [← insertionSort_filter, List.filter_filter]
  · congr 1
    refine List.filter_congr fun r _ => ?_
    rw [Bool.decide_and, Bool.and_comm]
    congr 1
    cases cursor with
    | none => simp
    | some c => simp [Cursor.position]
  · exact untied (hrows.sublist ((List.filter_sublist).map position)) fun a b h h' =>
      position_ext h' h

/-- Positions end with the identifier, so they are different. -/
theorem positions_nodup {time id : ρ → Int} (h : (rows.map id).Nodup) :
    (rows.map fun r => (time r, id r)).Nodup := by
  refine List.Nodup.of_map Prod.snd ?_
  rw [List.map_map]
  exact h

end Rows

section Lists

variable {ρ τ : Type} {list : Database → Int → Option Cursor → Except QueryError (Page τ)}
  {before : Int × Int → Int × Int → Prop} [DecidableRel before] {listed : Database → List ρ}
  {record : ρ → Transaction τ} {position : ρ → Int × Int} {key : τ → Int × Int} {db : Database}

/-- A list whose pages are read from the listed rows behind the cursor serves them. -/
theorem serves_of_readPage (rows : Option Cursor → Database → List ρ)
    (hrecord : ∀ r ∈ listed db, ∃ t, (record r).run db = .ok (t, db) ∧ key t = position r)
    (hsorted : ((listed db).map position).Pairwise before)
    (hplaced : ∀ r ∈ listed db, Placed (position r))
    (hrows : ∀ cursor, rows cursor db =
      behindCursor before position (cursor.map Cursor.position) (listed db))
    (hlist : ∀ pageSize cursor page, Positive 100 pageSize →
      (readPage record key pageSize.toNat (rows cursor)).run db = .ok (page, db) →
        list db pageSize cursor = .ok page) :
    Serves list before listed record position key db := by
  obtain ⟨ts, hts⟩ := exists_records hrecord
  refine ⟨ts, hts, hts.keys ▸ hsorted, fun pageSize cursor hsize => ?_⟩
  obtain ⟨page, hrun, hpage⟩ := run_readPage hts hplaced (n := pageSize.toNat) (hrows cursor)
  exact ⟨page, hlist pageSize cursor page hsize hrun, hpage⟩

end Lists

/-- The list of samples serves its pages from the sorted rows. -/
theorem Readable.serves_samples {db : Database} (h : Readable db)
    (overallStatus : Option HealthHistoryStatus) :
    Serves (fun db n c => (listHealthSamples Faults.none db n c overallStatus).1) newer
      (listedSamples overallStatus) healthSampleRecord samplePosition
      (fun r => (r.observedAtUtcUs, r.id)) db := by
  have hids := sampleIds_nodup db
  have hnodup : (db.samples.rows.map samplePosition).Nodup := positions_nodup hids
  have hmem : ∀ r ∈ listedSamples overallStatus db, r ∈ db.samples.rows := fun r hr =>
    (List.mem_filter.mp ((List.mem_insertionSort _).mp hr)).1
  refine serves_of_readPage (fun cursor db => (db.samples.rows.filter fun r =>
    having HealthSampleRow.overallStatus overallStatus r && behind samplePosition cursor r).insertionSort
      (newestFirst samplePosition)) (fun r hr => ?_)
    (newestFirst_sorted (hnodup.sublist ((List.filter_sublist).map _))) (fun r hr => ?_)
    (fun cursor => newestFirst_behind hnodup (having HealthSampleRow.overallStatus overallStatus)
      cursor) (fun pageSize cursor page hsize hrun => ?_)
  · obtain ⟨t, ht⟩ := h.samples r (hmem r hr)
    obtain ⟨hid, hat⟩ := healthSampleRecord_eq_ok ht
    exact ⟨t, ht, Prod.ext hat hid⟩
  · obtain ⟨t, ht⟩ := h.samples r (hmem r hr)
    exact ⟨(db.consistent.sampleCheck r (hmem r hr)).2.1, healthSampleRecord_positive ht⟩
  · unfold listHealthSamples
    rw [show maxHealthSamplePageSize = 100 from rfl, pageSize?_eq_ok hsize]
    exact checkedQuery_none hrun

theorem Readable.serves_alerts {db : Database} (h : Readable db)
    (lifecycle : Option AlertLifecycle) :
    Serves (fun db n c => (listAlerts Faults.none db n c lifecycle).1) newer
      (listedAlerts lifecycle) alertRecord alertPosition alertPosition db := by
  have hids : (db.alerts.rows.map AlertRow.id).Nodup :=
    List.pairwise_map.mpr (db.alerts.sorted.imp fun h => h.ne)
  have hnodup : (db.alerts.rows.map alertPosition).Nodup := positions_nodup hids
  have hmem : ∀ r ∈ listedAlerts lifecycle db, r ∈ db.alerts.rows := fun r hr =>
    (List.mem_filter.mp ((List.mem_insertionSort _).mp hr)).1
  refine serves_of_readPage (fun cursor db => (db.alerts.rows.filter fun r =>
    having AlertRow.lifecycle lifecycle r && behind alertPosition cursor r).insertionSort
      (newestFirst alertPosition)) (fun r hr => ⟨r, h.alerts r (hmem r hr), rfl⟩)
    (newestFirst_sorted (hnodup.sublist ((List.filter_sublist).map _))) (fun r hr => ?_)
    (fun cursor => newestFirst_behind hnodup (having AlertRow.lifecycle lifecycle) cursor)
    (fun pageSize cursor page hsize hrun => ?_)
  · exact ⟨(db.consistent.alertCheck r (hmem r hr)).openedAt,
      alertRecord_positive (h.alerts r (hmem r hr))⟩
  · unfold listAlerts
    rw [show maxAlertPageSize = 100 from rfl, pageSize?_eq_ok hsize]
    exact checkedQuery_none hrun

theorem Readable.serves_events {db : Database} (h : Readable db) {alertId : Int}
    (halert : db.alerts.Has alertId) :
    Serves (fun db n c => (listAlertEvents Faults.none db alertId n c).1) positionLt
      (listedEvents alertId) (alertEventRecord alertId) eventPosition eventPosition db := by
  have hids : (db.events.rows.map AlertEventRow.id).Nodup :=
    List.pairwise_map.mpr (db.events.sorted.imp fun h => h.ne)
  have hnodup : (db.events.rows.map eventPosition).Nodup := positions_nodup hids
  have hmem : ∀ e ∈ listedEvents alertId db, e ∈ db.events.rows ∧ e.alertId = alertId := by
    intro e he
    have hfilter := List.mem_filter.mp ((List.mem_insertionSort _).mp he)
    exact ⟨hfilter.1, of_decide_eq_true hfilter.2⟩
  obtain ⟨a, ha⟩ := Table.has_iff.mp halert
  obtain ⟨hmema, hida⟩ := Table.find?_eq_some.mp ha
  have halertRun := h.alerts a hmema
  refine serves_of_readPage (selectAlertEvents alertId) (fun e he => ?_)
    (oldestFirst_sorted (hnodup.sublist ((List.filter_sublist).map _))) (fun e he => ?_)
    (fun cursor => oldestFirst_behind hnodup (fun e => e.alertId = alertId) cursor)
    (fun pageSize cursor page hsize hrun => ?_)
  · obtain ⟨hevent, rfl⟩ := hmem e he
    exact ⟨e, h.events e hevent, rfl⟩
  · obtain ⟨hevent, rfl⟩ := hmem e he
    exact ⟨(db.consistent.eventCheck e hevent).1, alertEventRecord_positive (h.events e hevent)⟩
  · have hquery : queryId alertId = .ok () := by
      rw [← hida]
      exact require_pos (alertRecord_positive halertRun)
    have hfind : (findAlert alertId).run db = .ok (a, db) := by
      unfold findAlert select
      rw [run_bind, run_read]
      dsimp only
      rw [ha]
      exact halertRun
    have hread : (readAlertEvents alertId pageSize.toNat cursor).run db = .ok (page, db) := by
      unfold readAlertEvents
      rw [run_bind_ok hfind]
      exact hrun
    unfold listAlertEvents
    rw [show maxAlertEventPageSize = 100 from rfl, hquery, ok_bind, pageSize?_eq_ok hsize]
    exact checkedQuery_none hread

/-- A walk through samples, alerts or the events of an alert is complete, in order, and without
    repetition, under every filter. -/
theorem lists_page_exactly (overallStatus : Option HealthHistoryStatus)
    (lifecycle : Option AlertLifecycle) (alertId : Int) :
    PagesExactly (fun db n c => (listHealthSamples Faults.none db n c overallStatus).1)
        (fun _ => True) (listedSamples overallStatus) healthSampleRecord samplePosition
        (fun r => (r.observedAtUtcUs, r.id)) ∧
      PagesExactly (fun db n c => (listAlerts Faults.none db n c lifecycle).1)
        (fun _ => True) (listedAlerts lifecycle) alertRecord alertPosition alertPosition ∧
      PagesExactly (fun db n c => (listAlertEvents Faults.none db alertId n c).1)
        (fun db => db.alerts.Has alertId) (listedEvents alertId) (alertEventRecord alertId)
        eventPosition eventPosition :=
  ⟨.of_serves fun _ h _ => h.serves_samples overallStatus,
    .of_serves fun _ h _ => h.serves_alerts lifecycle,
    .of_serves fun _ h halert => h.serves_events halert⟩

/-- Two observations on pages of one: the newest is on the first. -/
theorem lists_page_exactly_wled : ∃ (db : Database) (samples : List HealthSampleRecord) (k : Nat),
    Pages (fun db n c => (listHealthSamples Faults.none db n c none).1) none
        (([1, 1, 1].take k).map fun n => (db, n)) samples ∧
      samples.map (fun r => (r.observedAtUtcUs, r.id)) = [(7, 2), (5, 1)] := by
  obtain ⟨fresh, hfresh⟩ : ∃ fresh, createSchemaV1 0 = .ok fresh := ⟨_, rfl⟩
  have hcoherent := runCalls_coherent hfresh
    [.ingest Faults.none (wledReport 1 5 .degraded .wledInfoTimeout),
      .ingest Faults.none (wledReport 2 7 .healthy .wledHealthy)]
  generalize hdb : runCalls fresh
    [.ingest Faults.none (wledReport 1 5 .degraded .wledInfoTimeout),
      .ingest Faults.none (wledReport 2 7 .healthy .wledHealthy)] = db at hcoherent
  obtain ⟨hlisted, hnone⟩ : (listedSamples none db).map samplePosition = [(7, 2), (5, 1)] ∧
      db.alerts.rows = [] := by
    obtain rfl := Except.ok.inj hfresh
    rw [← hdb]
    decide +kernel
  have hlegible : Legible db.toTables := by
    obtain ⟨c, rows, baseline, hc⟩ := hcoherent
    refine ⟨hc.history, hc.live, ?_, ?_⟩ <;> rw [hnone] <;> exact fun _ h => nomatch h
  obtain ⟨samples, hrecords, -, hends⟩ := (lists_page_exactly none none 1).1.constant db [1, 1, 1]
    hlegible.readable trivial (by decide)
  obtain ⟨k, hk⟩ := hends (by
    have hlength := congrArg List.length hlisted
    rw [List.length_map] at hlength
    rw [hlength]
    decide)
  exact ⟨db, samples, k, hk, hrecords.keys.trans hlisted⟩

end Aurora.HealthHistory
