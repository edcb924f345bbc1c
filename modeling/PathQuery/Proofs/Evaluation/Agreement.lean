import PathQuery.Proofs.Evaluation.Approximation
import PathQuery.Proofs.Function.Yield

/-!
Computations that agree up to the failure. Which failure an evaluation meets first depends on the
order in which it goes through the values. Whether it gives a result, and which one, does not: two
computations that do not depend on each other can be swapped, and a list can be worked off in one
stage after the other or element by element.
-/

namespace PathQuery

/-- Both give the same result, or neither gives one because it fails or would not end. -/
inductive Outcome.Agree {α : Type} : Outcome α → Outcome α → Prop
  | ok (a : α) : Agree (.ok a) (.ok a)
  | error (h h' : Halt) : Agree (.error h) (.error h')

namespace Outcome.Agree

variable {α β γ : Type} {x y z : Outcome α}

theorem refl (x : Outcome α) : Agree x x := by
  cases x with
  | ok a => exact .ok a
  | error h => exact .error h h

theorem of_eq (h : x = y) : Agree x y :=
  h ▸ refl x

theorem symm (h : Agree x y) : Agree y x := by
  cases h with
  | ok a => exact .ok a
  | error h h' => exact .error h' h

theorem trans (h : Agree x y) (h' : Agree y z) : Agree x z := by
  cases h with
  | ok a => exact h'
  | error h _ =>
      cases h' with
      | error _ h' => exact .error h h'

instance : Trans (Agree (α := α)) (Agree (α := α)) (Agree (α := α)) :=
  ⟨trans⟩

theorem eq_ok_iff (h : Agree x y) (a : α) : x = .ok a ↔ y = .ok a := by
  cases h with
  | ok b => exact Iff.rfl
  | error _ _ => exact ⟨nofun, nofun⟩

theorem of_eq_ok_iff (h : ∀ a, x = .ok a ↔ y = .ok a) : Agree x y := by
  cases x with
  | ok a => exact .of_eq ((h a).1 rfl).symm
  | error e =>
      cases y with
      | ok b => cases (h b).2 rfl
      | error e' => exact .error e e'

/-- Each of the two approximates the other. -/
theorem of_below {lost lost' : Halt → Prop} (h : Below lost x y) (h' : Below lost' y x) :
    Agree x y :=
  of_eq_ok_iff fun _ => ⟨h.eq_of_ok, h'.eq_of_ok⟩

theorem bind {f g : α → Outcome β} (h : Agree x y) (hf : ∀ a, Agree (f a) (g a)) :
    Agree (x >>= f) (y >>= g) := by
  cases h with
  | ok a => exact hf a
  | error h h' => exact .error h h'

theorem map (f : α → β) (h : Agree x y) : Agree (x.map f) (y.map f) := by
  cases h with
  | ok a => exact .ok (f a)
  | error h h' => exact .error h h'

/-- Two computations can be swapped when neither needs what the other gives. -/
theorem comm (x : Outcome α) (y : Outcome β) (f : α → β → Outcome γ) :
    Agree (do f (← x) (← y)) (do let b ← y; f (← x) b) := by
  cases x with
  | ok a => exact refl _
  | error h =>
      cases y with
      | ok b => exact refl _
      | error h' => exact .error h h'

end Outcome.Agree

/-! ### Lists worked off element by element -/

namespace Outcome

variable {α β γ : Type}

/-- What the elements of a list give, one behind the other. -/
def collect (f : α → Outcome (List β)) (xs : List α) : Outcome (List β) := do
  return (← xs.mapM f).flatten

variable {f : α → Outcome (List β)} {g : β → Outcome (List γ)}

@[simp] theorem collect_nil : collect f [] = .ok [] :=
  rfl

theorem collect_cons (x : α) (xs : List α) :
    collect f (x :: xs) = do return (← f x) ++ (← collect f xs) := by
  simp [collect, List.mapM_cons]

@[simp] theorem collect_singleton (x : α) : collect f [x] = f x := by
  rw [collect_cons, collect_nil]
  cases f x with
  | ok ys => exact congrArg Except.ok (List.append_nil ys)
  | error h => rfl

theorem collect_append (xs ys : List α) :
    collect f (xs ++ ys) = do return (← collect f xs) ++ (← collect f ys) := by
  induction xs with
  | nil => exact (bind_pure (collect f ys)).symm
  | cons x xs ih =>
      rw [List.cons_append, collect_cons, collect_cons, ih]
      simp only [bind_assoc, pure_bind, List.append_assoc]

theorem collect_append_eq_ok_iff {xs ys : List α} {zs : List β} :
    collect f (xs ++ ys) = .ok zs ↔
      ∃ as bs, collect f xs = .ok as ∧ collect f ys = .ok bs ∧ zs = as ++ bs := by
  rw [collect_append]
  constructor
  · intro h
    obtain ⟨as, front, h⟩ := eq_ok_of_bind h
    obtain ⟨bs, back, h⟩ := eq_ok_of_bind h
    cases h
    exact ⟨as, bs, front, back, rfl⟩
  · rintro ⟨as, bs, front, back, rfl⟩
    rw [front, back]
    rfl

@[simp] theorem collect_single (xs : List α) : collect (fun x => .ok [x]) xs = .ok xs := by
  induction xs with
  | nil => rfl
  | cons x xs ih =>
      rw [collect_cons, ih]
      rfl

theorem collect_map (f : α → Outcome γ) (g : γ → List β) (xs : List α) :
    collect (fun x => (f x).map g) xs = do return (← xs.mapM f).flatMap g := by
  induction xs with
  | nil => rfl
  | cons x xs ih =>
      rw [collect_cons, ih, List.mapM_cons]
      cases f x with
      | error h => rfl
      | ok y =>
          cases xs.mapM f with
          | error h => rfl
          | ok ys => rfl

theorem Agree.collect {f' : α → Outcome (List β)} (h : ∀ x, Agree (f x) (f' x)) (xs : List α) :
    Agree (collect f xs) (collect f' xs) := by
  induction xs with
  | nil => exact refl _
  | cons x xs ih =>
      rw [collect_cons, collect_cons]
      exact (h x).bind fun _ => ih.bind fun _ => refl _

/-- The second stage may begin when the first is over, or for each element when the first is over
for it. -/
theorem collect_collect (xs : List α) :
    Agree (do collect g (← collect f xs)) (collect (fun x => do collect g (← f x)) xs) := by
  induction xs with
  | nil => exact .refl _
  | cons x xs ih =>
      calc
        (do collect g (← collect f (x :: xs)))
        _ = (do
              let ys ← f x
              let zs ← collect f xs
              let us ← collect g ys
              return us ++ (← collect g zs)) := by
            simp only [collect_cons, collect_append, bind_assoc, pure_bind]
        Agree _ (do
              let ys ← f x
              let us ← collect g ys
              let zs ← collect f xs
              return us ++ (← collect g zs)) :=
            (Agree.refl _).bind fun ys => .comm _ _ fun zs us => do return us ++ (← collect g zs)
        _ = (do
              let us ← (do collect g (← f x))
              let vs ← (do collect g (← collect f xs))
              return us ++ vs) := by
            simp only [bind_assoc]
        Agree _ (do
              let us ← (do collect g (← f x))
              let vs ← collect (fun x => do collect g (← f x)) xs
              return us ++ vs) :=
            (Agree.refl _).bind fun us => ih.bind fun vs => .refl _
        _ = collect (fun x => do collect g (← f x)) (x :: xs) := by
            rw [collect_cons]

end Outcome

end PathQuery
