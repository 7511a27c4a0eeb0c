import Mathlib.Data.List.Forall2
import Mathlib.Tactic.Common

/-!
# Lists of results

A function that can fail, over a list: all results if there are all, or the error of the first
element without one. `Yields` says of one result when it is there and which one it is.
-/
namespace CrontabRenderer

variable {α β ε : Type}

theorem bind_eq_ok_iff {x : Except ε α} {f : α → Except ε β} {y : β} :
    x >>= f = .ok y ↔ ∃ a, x = .ok a ∧ f a = .ok y := by
  cases x with
  | error e => simp [bind, Except.bind]
  | ok a => simp [bind, Except.bind]

theorem bind_eq_error_iff {x : Except ε α} {f : α → Except ε β} {e : ε} :
    x >>= f = .error e ↔ x = .error e ∨ ∃ a, x = .ok a ∧ f a = .error e := by
  cases x with
  | error e => simp [bind, Except.bind]
  | ok a => simp [bind, Except.bind]

theorem map_eq_ok_iff {x : Except ε α} {f : α → β} {y : β} :
    x.map f = .ok y ↔ ∃ a, x = .ok a ∧ f a = y := by
  cases x with
  | error e => simp [Except.map]
  | ok a => simp [Except.map]

theorem map_eq_error_iff {x : Except ε α} {f : α → β} {e : ε} :
    x.map f = .error e ↔ x = .error e := by
  cases x <;> simp [Except.map]

theorem mapM_eq_ok_iff {f : α → Except ε β} {xs : List α} {ys : List β} :
    xs.mapM f = .ok ys ↔ List.Forall₂ (fun x y => f x = .ok y) xs ys := by
  induction xs generalizing ys with
  | nil => cases ys <;> simp [pure, Except.pure]
  | cons x xs ih =>
    rw [List.mapM_cons, List.forall₂_cons_left_iff, bind_eq_ok_iff]
    constructor
    · rintro ⟨y, hx, h⟩
      obtain ⟨rest, hxs, h⟩ := bind_eq_ok_iff.1 h
      cases h
      exact ⟨y, rest, hx, ih.1 hxs, rfl⟩
    · rintro ⟨y, rest, hx, hxs, rfl⟩
      exact ⟨y, hx, bind_eq_ok_iff.2 ⟨rest, ih.2 hxs, rfl⟩⟩

theorem exists_left_of_forall₂ {R : α → β → Prop} {xs : List α} {ys : List β}
    (h : List.Forall₂ R xs ys) {y : β} (hy : y ∈ ys) : ∃ x ∈ xs, R x y := by
  obtain ⟨i, hi, rfl⟩ := List.getElem_of_mem hy
  have hi' : i < xs.length := h.length_eq ▸ hi
  exact ⟨xs[i], List.getElem_mem hi', h.get hi' hi⟩

theorem exists_right_of_forall₂ {R : α → β → Prop} {xs : List α} {ys : List β}
    (h : List.Forall₂ R xs ys) {x : α} (hx : x ∈ xs) : ∃ y ∈ ys, R x y :=
  exists_left_of_forall₂ h.flip hx

theorem mapM_eq_error_iff {f : α → Except ε β} {xs : List α} {e : ε} :
    xs.mapM f = .error e ↔ ∃ before x after, xs = before ++ x :: after ∧
      (∀ y ∈ before, ∃ value, f y = .ok value) ∧ f x = .error e := by
  induction xs with
  | nil => simp [pure, Except.pure]
  | cons x xs ih =>
    rw [List.mapM_cons]
    constructor
    · intro h
      cases hx : f x with
      | error e' =>
        rw [hx] at h
        cases h
        exact ⟨[], x, xs, rfl, by simp, hx⟩
      | ok value =>
        cases hxs : xs.mapM f with
        | ok values => rw [hx, hxs] at h; cases h
        | error e' =>
          rw [hx, hxs] at h
          cases h
          obtain ⟨before, y, after, rfl, hbefore, hy⟩ := ih.1 hxs
          exact ⟨x :: before, y, after, rfl, List.forall_mem_cons.2 ⟨⟨value, hx⟩, hbefore⟩, hy⟩
    · rintro ⟨before, y, after, hsplit, hbefore, hy⟩
      cases before with
      | nil =>
        cases hsplit
        rw [hy]
        rfl
      | cons first before =>
        cases hsplit
        obtain ⟨⟨value, hvalue⟩, hbefore⟩ := List.forall_mem_cons.1 hbefore
        rw [hvalue, ih.2 ⟨before, y, after, rfl, hbefore, hy⟩]
        rfl

/-- The first element of a list with a property. -/
def IsFirst (p : α → Prop) (xs : List α) (x : α) : Prop :=
  ∃ before after, xs = before ++ x :: after ∧ (∀ y ∈ before, ¬p y) ∧ p x

theorem IsFirst.mem {p : α → Prop} {xs : List α} {x : α} (h : IsFirst p xs x) : x ∈ xs := by
  obtain ⟨before, after, rfl, -, -⟩ := h
  simp

theorem IsFirst.holds {p : α → Prop} {xs : List α} {x : α} (h : IsFirst p xs x) : p x := by
  obtain ⟨before, after, -, -, hx⟩ := h
  exact hx

theorem isFirst_congr {p q : α → Prop} {xs : List α} (h : ∀ x ∈ xs, p x ↔ q x) {x : α} :
    IsFirst p xs x ↔ IsFirst q xs x := by
  apply exists₂_congr
  rintro before after
  apply and_congr_right
  rintro rfl
  have hbefore : ∀ y ∈ before, p y ↔ q y := fun y hy => h y (List.mem_append_left _ hy)
  have hx : p x ↔ q x := h x (by simp)
  rw [hx]
  apply and_congr_left
  intro _
  exact forall₂_congr fun y hy => not_congr (hbefore y hy)

theorem not_exists_isFirst_iff {p : α → Prop} {xs : List α} :
    (¬∃ x, IsFirst p xs x) ↔ ∀ x ∈ xs, ¬p x := by
  constructor
  · intro h
    induction xs with
    | nil => simp
    | cons y xs ih =>
      have hy : ¬p y := fun hy => h ⟨y, [], xs, rfl, by simp, hy⟩
      refine List.forall_mem_cons.2 ⟨hy, ih ?_⟩
      rintro ⟨x, before, after, rfl, hbefore, hx⟩
      exact h ⟨x, y :: before, after, rfl, List.forall_mem_cons.2 ⟨hy, hbefore⟩, hx⟩
  · rintro h ⟨x, before, after, rfl, -, hx⟩
    exact h x (by simp) hx

theorem isOk_iff_not_error {x : Except ε α} : (∃ a, x = .ok a) ↔ ¬∃ e, x = .error e := by
  cases x <;> simp

theorem mapM_eq_error_iff_isFirst {f : α → Except ε β} {xs : List α} {e : ε} :
    xs.mapM f = .error e ↔ ∃ x, IsFirst (fun x => ∃ e, f x = .error e) xs x ∧ f x = .error e := by
  rw [mapM_eq_error_iff]
  constructor
  · rintro ⟨before, x, after, hsplit, hbefore, hx⟩
    exact ⟨x, ⟨before, after, hsplit, fun y hy => isOk_iff_not_error.1 (hbefore y hy), e, hx⟩, hx⟩
  · rintro ⟨x, ⟨before, after, hsplit, hbefore, -⟩, hx⟩
    exact ⟨before, x, after, hsplit, fun y hy => isOk_iff_not_error.2 (hbefore y hy), hx⟩

theorem exists_mapM_eq_ok_iff {f : α → Except ε β} {xs : List α} :
    (∃ ys, xs.mapM f = .ok ys) ↔ ∀ x ∈ xs, ¬∃ e, f x = .error e := by
  rw [isOk_iff_not_error, ← not_exists_isFirst_iff]
  apply not_congr
  simp only [mapM_eq_error_iff_isFirst]
  constructor
  · rintro ⟨e, x, hfirst, -⟩
    exact ⟨x, hfirst⟩
  · rintro ⟨x, hfirst⟩
    obtain ⟨e, he⟩ := hfirst.holds
    exact ⟨e, x, hfirst, he⟩

theorem forM_eq_map_mapM {f : α → Except ε Unit} {xs : List α} :
    xs.forM f = (xs.mapM f).map fun _ => () := by
  induction xs with
  | nil => rfl
  | cons x xs ih =>
    rw [List.mapM_cons]
    show (f x >>= fun _ => xs.forM f) = _
    rw [ih]
    cases f x with
    | error e => rfl
    | ok _ => cases xs.mapM f <;> rfl

theorem forM_eq_ok_iff {f : α → Except ε Unit} {xs : List α} :
    xs.forM f = .ok () ↔ ∀ x ∈ xs, f x = .ok () := by
  rw [forM_eq_map_mapM]
  induction xs with
  | nil => simp [pure, Except.pure, Except.map]
  | cons x xs ih =>
    rw [List.mapM_cons, List.forall_mem_cons, ← ih]
    cases f x with
    | error e => simp [bind, Except.bind, Except.map]
    | ok _ => cases xs.mapM f <;> simp [bind, Except.bind, Except.map, pure, Except.pure]

theorem forM_eq_error_iff {f : α → Except ε Unit} {xs : List α} {e : ε} :
    xs.forM f = .error e ↔ ∃ x, IsFirst (fun x => ∃ e, f x = .error e) xs x ∧ f x = .error e := by
  rw [forM_eq_map_mapM, ← mapM_eq_error_iff_isFirst]
  cases xs.mapM f <;> simp [Except.map]

/-- The elements of a list without a result, each with its error. -/
def errorsOf (f : α → Except ε β) (xs : List α) : List (α × ε) :=
  xs.filterMap fun x =>
    match f x with
    | .ok _ => none
    | .error e => some (x, e)

section ErrorsOf

variable {f g : α → Except ε β} {x : α} {xs : List α} {e : ε}

theorem errorsOf_cons_of_ok {y : β} (h : f x = .ok y) : errorsOf f (x :: xs) = errorsOf f xs := by
  unfold errorsOf
  exact List.filterMap_cons_none (by rw [h])

theorem errorsOf_cons_of_error (h : f x = .error e) :
    errorsOf f (x :: xs) = (x, e) :: errorsOf f xs := by
  unfold errorsOf
  exact List.filterMap_cons_some (by rw [h])

/-- A walk that stops at the first error has the first of the errors of all elements. -/
theorem mapM_eq_error_iff_head? :
    xs.mapM f = .error e ↔ ∃ x, (errorsOf f xs).head? = some (x, e) := by
  induction xs with
  | nil => simp [errorsOf, pure, Except.pure]
  | cons x xs ih =>
    rw [List.mapM_cons]
    cases hx : f x with
    | error e' => simp [errorsOf_cons_of_error hx, bind, Except.bind]
    | ok y =>
      rw [errorsOf_cons_of_ok hx, ← ih]
      cases xs.mapM f <;> simp [bind, Except.bind, pure, Except.pure]

theorem exists_mapM_eq_ok_iff_errorsOf : (∃ ys, xs.mapM f = .ok ys) ↔ errorsOf f xs = [] := by
  rw [isOk_iff_not_error]
  simp only [mapM_eq_error_iff_head?]
  cases errorsOf f xs with
  | nil => simp
  | cons first rest => exact iff_of_false (fun h => h ⟨first.2, first.1, rfl⟩) (by simp)

theorem errorsOf_congr (h : ∀ x e, f x = .error e ↔ g x = .error e) :
    errorsOf f xs = errorsOf g xs := by
  induction xs with
  | nil => rfl
  | cons x xs ih =>
    cases hx : f x with
    | error e => rw [errorsOf_cons_of_error hx, errorsOf_cons_of_error ((h x e).1 hx), ih]
    | ok y =>
      have hok : ∃ z, g x = .ok z := by
        refine isOk_iff_not_error.2 ?_
        rintro ⟨e, he⟩
        rw [(h x e).2 he] at hx
        cases hx
      obtain ⟨z, hz⟩ := hok
      rw [errorsOf_cons_of_ok hx, errorsOf_cons_of_ok hz, ih]

end ErrorsOf

/-- Success without its value, or the error. -/
def outcome (x : Except ε α) : Except ε Unit := x.map fun _ => ()

theorem outcome_eq_of_error_iff {x : Except ε α} {y : Except ε β}
    (h : ∀ e, x = .error e ↔ y = .error e) : outcome x = outcome y := by
  cases x with
  | error e => rw [(h e).1 rfl]; rfl
  | ok a =>
    cases y with
    | error e => simpa using (h e).2 rfl
    | ok b => rfl

@[simp] theorem outcome_map (x : Except ε α) (f : α → β) : outcome (x.map f) = outcome x := by
  cases x <;> rfl

theorem outcome_bind_congr {γ δ : Type} {x : Except ε α} {y : Except ε γ} {f : α → Except ε β}
    {g : γ → Except ε δ} (h : outcome x = outcome y) (hfg : ∀ a c, outcome (f a) = outcome (g c)) :
    outcome (x >>= f) = outcome (y >>= g) := by
  cases x with
  | error e =>
    cases y with
    | error e' =>
      obtain rfl : e = e' := by simpa [outcome, Except.map] using h
      rfl
    | ok c => cases h
  | ok a =>
    cases y with
    | error e => cases h
    | ok c => exact hfg a c

theorem outcome_mapM_cons {f : α → Except ε β} (x : α) (xs : List α) :
    outcome ((x :: xs).mapM f) = outcome (f x) >>= fun _ => outcome (xs.mapM f) := by
  rw [List.mapM_cons]
  cases f x with
  | error e => rfl
  | ok y => cases xs.mapM f <;> rfl

/-- The outcome over a list comes from the outcomes for its elements. -/
theorem outcome_mapM_congr {γ δ : Type} {f : α → Except ε β} {g : γ → Except ε δ} {xs : List α}
    {ys : List γ} (h : List.Forall₂ (fun x y => outcome (f x) = outcome (g y)) xs ys) :
    outcome (xs.mapM f) = outcome (ys.mapM g) := by
  induction h with
  | nil => rfl
  | cons hfirst _ ih => rw [outcome_mapM_cons, outcome_mapM_cons, hfirst, ih]

theorem mapM_id_eq_ok_iff {results : List (Except ε α)} {values : List α} :
    results.mapM id = .ok values ↔ results = values.map .ok := by
  rw [mapM_eq_ok_iff, ← List.forall₂_eq_eq_eq, List.forall₂_map_right_iff]
  rfl

/-- The first error of a list, or success if there is none. -/
def firstError : List ε → Except ε Unit
  | [] => .ok ()
  | e :: _ => .error e

section FirstError

variable {e : ε} {es : List ε}

theorem firstError_eq_ok_iff : firstError es = .ok () ↔ es = [] := by
  cases es <;> simp [firstError]

theorem firstError_eq_error_iff : firstError es = .error e ↔ es.head? = some e := by
  cases es <;> simp [firstError]

/-- The errors of one check come before those of the next. -/
theorem firstError_append (es es' : List ε) :
    firstError (es ++ es') = firstError es >>= fun _ => firstError es' := by
  cases es <;> rfl

theorem firstError_ite (p : Prop) [Decidable p] (e : ε) :
    firstError (if p then [e] else []) = if p then .error e else .ok () := by
  split <;> rfl

/-- Of the elements with a property, the first one counts. -/
theorem firstError_map_filter (f : α → ε) (p : α → Bool) (xs : List α) :
    firstError ((xs.filter p).map f) =
      match xs.find? p with
      | some x => .error (f x)
      | none => .ok () := by
  rw [← List.head?_filter]
  cases xs.filter p <;> rfl

theorem forM_eq_firstError {f : α → Except ε Unit} {errors : α → List ε} {xs : List α}
    (h : ∀ x ∈ xs, f x = firstError (errors x)) :
    xs.forM f = firstError (xs.flatMap errors) := by
  induction xs with
  | nil => rfl
  | cons x xs ih =>
    obtain ⟨hx, hxs⟩ := List.forall_mem_cons.1 h
    rw [List.flatMap_cons, firstError_append, ← ih hxs, ← hx]
    rfl

end FirstError

section Yields

variable {x : Except ε α} {p q : Prop} {a : α}

/-- There is a result under a condition, and then it is the value. -/
def Yields (x : Except ε α) (condition : Prop) (value : α) : Prop :=
  ∀ a, x = .ok a ↔ condition ∧ a = value

theorem yields_ok (a : α) : Yields (.ok a : Except ε α) True a := by
  intro b
  rw [Except.ok.injEq, true_and, eq_comm]

theorem yields_pure (a : α) : Yields (pure a : Except ε α) True a := yields_ok a

theorem Yields.congr (h : Yields x p a) (hpq : p ↔ q) : Yields x q a :=
  fun b => (h b).trans (and_congr_left' hpq)

theorem Yields.bind {f : α → Except ε β} {b : β} (hx : Yields x p a) (hf : Yields (f a) q b) :
    Yields (x >>= f) (p ∧ q) b := by
  intro c
  rw [bind_eq_ok_iff]
  constructor
  · rintro ⟨a', ha, hb⟩
    obtain ⟨hp, rfl⟩ := (hx a').1 ha
    obtain ⟨hq, rfl⟩ := (hf c).1 hb
    exact ⟨⟨hp, hq⟩, rfl⟩
  · rintro ⟨⟨hp, hq⟩, rfl⟩
    exact ⟨a, (hx a).2 ⟨hp, rfl⟩, (hf c).2 ⟨hq, rfl⟩⟩

theorem Yields.map (hx : Yields x p a) (f : α → β) :
    Yields (do return f (← x)) p (f a) := (hx.bind (yields_pure (f a))).congr (and_true p).to_iff

/-- Over a list, the condition is that of all elements. -/
theorem yields_mapM {γ : Type} {write : γ → α} {f : α → Except ε β} {p : γ → Prop} {g : γ → β}
    {xs : List γ} (h : ∀ x ∈ xs, Yields (f (write x)) (p x) (g x)) :
    Yields ((xs.map write).mapM f) (∀ x ∈ xs, p x) (xs.map g) := by
  induction xs with
  | nil => exact (yields_pure []).congr (by simp)
  | cons x xs ih =>
    obtain ⟨hx, hxs⟩ := List.forall_mem_cons.1 h
    rw [List.map_cons, List.mapM_cons]
    exact (hx.bind ((ih hxs).map fun ys => g x :: ys)).congr List.forall_mem_cons.symm

end Yields

end CrontabRenderer
