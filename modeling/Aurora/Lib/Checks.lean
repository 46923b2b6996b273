/-
  Chains of checks in `Except`: each one passes or names what is wrong.

  A validator is a sequence of `require`s.  `require_bind_eq_ok` and `bind_eq_ok` turn the statement
  that the whole sequence passed into the conjunction of what its parts checked.
-/
import Mathlib.Data.List.Basic

namespace Aurora

variable {ε α β : Type}

/-- Pass when `p` holds, otherwise fail with `e`. -/
def require (e : ε) (p : Prop) [Decidable p] : Except ε Unit := if p then .ok () else .error e

theorem require_pos {e : ε} {p : Prop} [Decidable p] (h : p) : require e p = .ok () := if_pos h

theorem require_neg {e : ε} {p : Prop} [Decidable p] (h : ¬p) : require e p = .error e := if_neg h

/-- A check passes exactly if its condition holds. -/
@[simp] theorem require_eq_ok {e : ε} {p : Prop} [Decidable p] {u : Unit} :
    require e p = .ok u ↔ p := by
  by_cases h : p
  · rw [require_pos h]
    exact iff_of_true rfl h
  · rw [require_neg h]
    exact iff_of_false (fun hu => nomatch hu) h

/-- An option is a result without its error. -/
theorem toOption_eq_some {x : Except ε α} {a : α} : x.toOption = some a ↔ x = .ok a := by
  cases x with
  | ok b =>
    show some b = some a ↔ _
    rw [Option.some.injEq, Except.ok.injEq]
  | error e => exact iff_of_false (fun h => by cases h) (fun h => by cases h)

@[simp] theorem ok_bind (a : α) (k : α → Except ε β) : (Except.ok a >>= k) = k a := rfl

@[simp] theorem error_bind (e : ε) (k : α → Except ε β) :
    ((Except.error e : Except ε α) >>= k) = .error e := rfl

@[simp] theorem map_ok (f : α → β) (a : α) : (Except.ok a : Except ε α).map f = .ok (f a) := rfl

@[simp] theorem map_error (f : α → β) (e : ε) :
    (Except.error e : Except ε α).map f = .error e := rfl

/-- A sequence passes when its parts do. -/
theorem bind_eq_ok {x : Except ε α} {k : α → Except ε β} {b : β} :
    (x >>= k) = .ok b ↔ ∃ a, x = .ok a ∧ k a = .ok b := by
  constructor
  · intro h
    cases x with
    | error e => cases h
    | ok a => exact ⟨a, rfl, h⟩
  · rintro ⟨a, rfl, hk⟩
    exact hk

/-- A sequence fails where one of its parts does. -/
theorem bind_eq_error {x : Except ε α} {k : α → Except ε β} {e : ε} :
    (x >>= k) = .error e ↔ x = .error e ∨ ∃ a, x = .ok a ∧ k a = .error e := by
  constructor
  · intro h
    cases x with
    | error e' => exact Or.inl (congrArg Except.error (Except.error.inj h))
    | ok a => exact Or.inr ⟨a, rfl, h⟩
  · rintro (rfl | ⟨a, rfl, hk⟩)
    · rfl
    · exact hk

/-- What follows a check runs under its condition. -/
@[simp] theorem require_bind_eq_ok {e : ε} {p : Prop} [Decidable p] {k : Unit → Except ε β} {b : β} :
    (require e p >>= k) = .ok b ↔ p ∧ k () = .ok b := by
  rw [bind_eq_ok]
  constructor
  · rintro ⟨u, hp, hk⟩
    exact ⟨require_eq_ok.mp hp, hk⟩
  · rintro ⟨hp, hk⟩
    exact ⟨(), require_pos hp, hk⟩

/-- A check repeated over a list passes when it passes on every element. -/
theorem forM_eq_ok {f : α → Except ε Unit} : ∀ {l : List α} {u : Unit},
    l.forM f = .ok u ↔ ∀ a ∈ l, f a = .ok ()
  | [], u => iff_of_true rfl (by simp)
  | a :: l, u => by
    show (f a >>= fun _ => l.forM f) = .ok u ↔ _
    rw [bind_eq_ok]
    simp only [List.forall_mem_cons]
    constructor
    · rintro ⟨v, ha, hl⟩
      exact ⟨ha, forM_eq_ok.mp hl⟩
    · rintro ⟨ha, hl⟩
      exact ⟨(), ha, forM_eq_ok.mpr hl⟩

/-- Mapping a fallible function over a list succeeds element by element. -/
theorem mapM_eq_ok {f : α → Except ε β} : ∀ {l : List α} {r : List β},
    l.mapM f = .ok r ↔ List.Forall₂ (fun a b => f a = .ok b) l r
  | [], r => by
    rw [List.mapM_nil]
    constructor
    · intro h
      obtain rfl := Except.ok.inj h
      exact .nil
    · intro h
      cases h
      rfl
  | a :: l, r => by
    rw [List.mapM_cons, bind_eq_ok]
    constructor
    · rintro ⟨b, hb, h⟩
      obtain ⟨bs, hbs, h⟩ := bind_eq_ok.mp h
      obtain rfl := Except.ok.inj h
      exact .cons hb (mapM_eq_ok.mp hbs)
    · intro h
      cases h with
      | cons hb hbs => exact ⟨_, hb, bind_eq_ok.mpr ⟨_, mapM_eq_ok.mpr hbs, rfl⟩⟩

/-- Every result of a mapped fallible function comes from an element. -/
theorem exists_of_mapM {f : α → Except ε β} {l : List α} {r : List β} (h : l.mapM f = .ok r)
    {b : β} (hb : b ∈ r) : ∃ a ∈ l, f a = .ok b := by
  have hall := mapM_eq_ok.mp h
  clear h
  induction hall with
  | nil => exact absurd hb List.not_mem_nil
  | @cons a b' l r hab _ ih =>
    rcases List.mem_cons.mp hb with rfl | hb
    · exact ⟨a, List.mem_cons_self, hab⟩
    · obtain ⟨a', ha', hfa⟩ := ih hb
      exact ⟨a', List.mem_cons_of_mem _ ha', hfa⟩

end Aurora
