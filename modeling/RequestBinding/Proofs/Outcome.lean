import Mathlib.Data.List.Forall2
import RequestBinding.Log

set_option autoImplicit false

namespace RequestBinding

variable {ε α β : Type}

theorem map_eq_error_iff {g : α → β} {x : Except ε α} {e : ε} :
    x.map g = .error e ↔ x = .error e := by
  cases x <;> simp [Except.map]

theorem mapM_cons_ok {f : α → Except ε β} {a : α} {b : β} {rest : List α} (done : f a = .ok b) :
    (a :: rest).mapM f = (rest.mapM f).map (b :: ·) := by
  rw [List.mapM_cons, done]
  cases rest.mapM f <;> rfl

theorem mapM_cons_error {f : α → Except ε β} {a : α} {e : ε} (rest : List α)
    (failed : f a = .error e) : (a :: rest).mapM f = .error e := by
  rw [List.mapM_cons, failed]
  rfl

theorem mapM_eq_ok_iff {f : α → Except ε β} {xs : List α} {ys : List β} :
    xs.mapM f = .ok ys ↔ List.Forall₂ (fun x y => f x = .ok y) xs ys := by
  induction xs generalizing ys with
  | nil =>
    rw [List.mapM_nil, List.forall₂_nil_left_iff]
    exact ⟨fun same => (Except.ok.inj same).symm, fun same => same ▸ rfl⟩
  | cons a rest ih =>
    rw [List.forall₂_cons_left_iff]
    cases result : f a with
    | error e => simp [mapM_cons_error rest result]
    | ok b =>
      rw [mapM_cons_ok result]
      cases more : rest.mapM f with
      | error e =>
        constructor
        · exact fun impossible => nomatch impossible
        · rintro ⟨_, others, _, tail, _⟩
          rw [← ih, more] at tail
          exact nomatch tail
      | ok others =>
        simp only [Except.map, Except.ok.injEq, ← ih, more]
        grind

theorem exists_of_mem_right {R : α → β → Prop} {xs : List α} {ys : List β}
    (related : List.Forall₂ R xs ys) {y : β} (member : y ∈ ys) : ∃ x ∈ xs, R x y := by
  induction related with
  | nil => simp at member
  | cons here _ ih =>
    rcases List.mem_cons.mp member with rfl | later
    · exact ⟨_, by simp, here⟩
    · obtain ⟨x, present, holds⟩ := ih later
      exact ⟨x, List.mem_cons_of_mem _ present, holds⟩

theorem exists_forall₂ {R : α → β → Prop} {xs : List α} (each : ∀ x ∈ xs, ∃ y, R x y) :
    ∃ ys, List.Forall₂ R xs ys := by
  induction xs with
  | nil => exact ⟨[], .nil⟩
  | cons x xs ih =>
    rw [List.forall_mem_cons] at each
    obtain ⟨y, here⟩ := each.1
    obtain ⟨ys, later⟩ := ih each.2
    exact ⟨y :: ys, .cons here later⟩

theorem mapM_congr_of_map_eq {f : α → Except ε β} {xs ys : List α} (same : xs.map f = ys.map f) :
    xs.mapM f = ys.mapM f := by
  have run (zs : List α) : zs.mapM f = (zs.map f).mapM id := by simp [List.mapM_map]
  rw [run, run, same]

theorem mapM_congr_of_forall₂ {f : α → Except ε β} {xs ys : List α}
    (same : List.Forall₂ (fun x y => f y = f x) xs ys) : ys.mapM f = xs.mapM f := by
  apply mapM_congr_of_map_eq
  induction same with
  | nil => rfl
  | cons here _ ih => rw [List.map_cons, List.map_cons, here, ih]

theorem mapError_mapM {ε' : Type} (g : ε → ε') (f : α → Except ε β) (xs : List α) :
    (xs.mapM f).mapError g = xs.mapM fun x => (f x).mapError g := by
  induction xs with
  | nil => rfl
  | cons a rest ih =>
    cases result : f a with
    | error e =>
      have viewed : (f a).mapError g = .error (g e) := congrArg _ result
      rw [mapM_cons_error rest result,
        mapM_cons_error (f := fun x => (f x).mapError g) rest viewed]
      rfl
    | ok b =>
      have viewed : (f a).mapError g = .ok b := congrArg _ result
      rw [mapM_cons_ok result, mapM_cons_ok (f := fun x => (f x).mapError g) viewed, ← ih]
      cases rest.mapM f <;> rfl

theorem mapM_eq_error_iff {f : α → Except ε β} {xs : List α} {e : ε} :
    xs.mapM f = .error e ↔
      ∃ before x after, xs = before ++ x :: after ∧ (∀ y ∈ before, ∃ b, f y = .ok b) ∧
        f x = .error e := by
  induction xs with
  | nil => simp [pure, Except.pure]
  | cons a rest ih =>
    cases result : f a with
    | error d =>
      rw [mapM_cons_error rest result]
      constructor
      · intro same
        exact ⟨[], a, rest, rfl, by simp, result.trans (congrArg _ (Except.error.inj same))⟩
      · rintro ⟨before, x, after, whole, done, failed⟩
        cases before with
        | nil =>
          obtain ⟨rfl, rfl⟩ := List.cons.inj whole
          exact congrArg _ (Except.error.inj (result.symm.trans failed))
        | cons y before =>
          obtain ⟨rfl, rfl⟩ := List.cons.inj whole
          obtain ⟨b, fine⟩ := done a (by simp)
          simp [result] at fine
    | ok b =>
      have same : (a :: rest).mapM f = .error e ↔ rest.mapM f = .error e := by
        rw [mapM_cons_ok result, map_eq_error_iff]
      rw [same, ih]
      constructor
      · rintro ⟨before, x, after, rfl, done, failed⟩
        exact ⟨a :: before, x, after, rfl, List.forall_mem_cons.mpr ⟨⟨b, result⟩, done⟩, failed⟩
      · rintro ⟨before, x, after, whole, done, failed⟩
        cases before with
        | nil =>
          obtain ⟨rfl, rfl⟩ := List.cons.inj whole
          simp [result] at failed
        | cons y before =>
          obtain ⟨rfl, rfl⟩ := List.cons.inj whole
          exact ⟨before, x, after, rfl, fun z member => done z (by simp [member]), failed⟩

theorem mapError_eq_ok_iff {ε' : Type} {g : ε → ε'} {x : Except ε α} {a : α} :
    x.mapError g = .ok a ↔ x = .ok a := by
  cases x <;> simp [Except.mapError]

theorem mapError_eq_error_iff {ε' : Type} {g : ε → ε'} {x : Except ε α} {d : ε'} :
    x.mapError g = .error d ↔ ∃ e, x = .error e ∧ g e = d := by
  cases x <;> simp [Except.mapError]

-- Nothing is tried behind the first element that fails.
def tried (f : α → Except ε β) (xs : List α) : List α :=
  xs.takeWhile (fun a => (f a).isOk) ++ (xs.dropWhile fun a => (f a).isOk).take 1

theorem tried_cons_ok {f : α → Except ε β} {a : α} {b : β} (rest : List α) (done : f a = .ok b) :
    tried f (a :: rest) = a :: tried f rest := by
  simp [tried, done, Except.isOk, Except.toBool]

theorem tried_cons_error {f : α → Except ε β} {a : α} {e : ε} (rest : List α)
    (failed : f a = .error e) : tried f (a :: rest) = [a] := by
  simp [tried, failed, Except.isOk, Except.toBool]

theorem Logged.log_each (f : α → Logged ε β) (xs : List α) :
    (each f xs).log = (tried (fun a => (f a).outcome) xs).flatMap fun a => (f a).log := by
  induction xs with
  | nil => rfl
  | cons a rest ih =>
    cases result : (f a).outcome with
    | error e =>
      have last : tried (fun a => (f a).outcome) (a :: rest) = [a] := tried_cons_error rest result
      simp [each, andThen, result, last]
    | ok b =>
      have more : tried (fun a => (f a).outcome) (a :: rest) =
          a :: tried (fun a => (f a).outcome) rest := tried_cons_ok rest result
      simp [each, andThen, result, more, ih]

section Runs

variable {f : α → Logged ε β} {records : β → List Record} {before : List α} {values : List β}

theorem Logged.each_append
    (done : List.Forall₂ (fun a b => f a = ⟨records b, .ok b⟩) before values) (rest : List α) :
    each f (before ++ rest) =
      ⟨values.flatMap records ++ (each f rest).log, (each f rest).outcome.map (values ++ ·)⟩ := by
  induction done with
  | nil =>
    rw [List.nil_append]
    generalize each f rest = left
    obtain ⟨log, outcome⟩ := left
    cases outcome <;> rfl
  | @cons a b before values here _ ih =>
    have next : each f (a :: (before ++ rest)) =
        ⟨records b ++ (each f (before ++ rest)).log,
          (each f (before ++ rest)).outcome.map (b :: ·)⟩ := by
      rw [each, here]
      rfl
    rw [List.cons_append, next, ih, List.flatMap_cons, List.append_assoc]
    cases (each f rest).outcome <;> rfl

theorem Logged.each_of_all_done
    (done : List.Forall₂ (fun a b => f a = ⟨records b, .ok b⟩) before values) :
    each f before = ⟨values.flatMap records, .ok values⟩ := by
  have whole := each_append done []
  rw [List.append_nil] at whole
  rw [whole]
  simp [each, ok, Except.map]

theorem Logged.each_of_failure {a : α} {e : ε}
    (done : List.Forall₂ (fun a b => f a = ⟨records b, .ok b⟩) before values)
    (failed : f a = ⟨[], .error e⟩) (after : List α) :
    each f (before ++ a :: after) = ⟨values.flatMap records, .error e⟩ := by
  have first : each f (a :: after) = ⟨[], .error e⟩ := by
    rw [each, failed]
    rfl
  rw [each_append done, first, List.append_nil]
  rfl

end Runs

def failure? : Except ε α → Option ε
  | .ok _ => none
  | .error e => some e

@[simp] theorem failure?_ok (a : α) : failure? (.ok a : Except ε α) = none := rfl

@[simp] theorem failure?_error (e : ε) : failure? (.error e : Except ε α) = some e := rfl

theorem failure?_eq_some_iff {x : Except ε α} {e : ε} : failure? x = some e ↔ x = .error e := by
  cases x <;> simp

theorem failure?_eq_none_iff {x : Except ε α} : failure? x = none ↔ ∃ a, x = .ok a := by
  cases x <;> simp

@[simp] theorem failure?_map (f : α → β) (x : Except ε α) : failure? (x.map f) = failure? x := by
  cases x <;> rfl

-- Running up to the first failure finds the first of all that could be reported.
theorem failure?_mapM {f : α → Except ε β} {reports : α → List ε} {xs : List α}
    (first : ∀ x ∈ xs, failure? (f x) = (reports x).head?) :
    failure? (xs.mapM f) = (xs.flatMap reports).head? := by
  induction xs with
  | nil => rfl
  | cons a rest ih =>
    have later := ih fun x member => first x (by simp [member])
    have here := first a (by simp)
    rw [List.flatMap_cons, List.head?_append, ← here, ← later]
    cases result : f a with
    | ok b => simp [mapM_cons_ok result]
    | error e => simp [mapM_cons_error rest result]

end RequestBinding
