/-!
# Laws of checked computations

A computation that may be refused gives a result exactly when each of its parts gives one, and the
fault of the first part that gives none otherwise.
-/

namespace Rollout

variable {ε α β : Type}

theorem bind_eq_ok {first : Except ε α} {next : α → Except ε β} {result : β} :
    (first >>= next) = .ok result ↔ ∃ value, first = .ok value ∧ next value = .ok result := by
  cases first with
  | ok value => simp [bind, Except.bind]
  | error fault => simp [bind, Except.bind]

theorem bind_eq_error {first : Except ε α} {next : α → Except ε β} {fault : ε} :
    (first >>= next) = .error fault ↔
      first = .error fault ∨ ∃ value, first = .ok value ∧ next value = .error fault := by
  cases first with
  | ok value => simp [bind, Except.bind]
  | error given => simp [bind, Except.bind]

theorem map_eq_ok {change : α → β} {result : Except ε α} {value : β} :
    result.map change = .ok value ↔ ∃ given, result = .ok given ∧ change given = value := by
  cases result with
  | ok given => simp [Except.map]
  | error fault => simp [Except.map]

theorem map_eq_error {change : α → β} {result : Except ε α} {fault : ε} :
    result.map change = .error fault ↔ result = .error fault := by
  cases result with
  | ok given => simp [Except.map]
  | error given => simp [Except.map]

theorem pure_eq_ok {value result : α} :
    (pure value : Except ε α) = .ok result ↔ value = result := by
  simp [pure, Except.pure]

theorem mapError_eq_ok {δ : Type} {reword : ε → δ} {result : Except ε α} {value : α} :
    result.mapError reword = .ok value ↔ result = .ok value := by
  cases result with
  | ok given =>
      change Except.ok given = Except.ok value ↔ Except.ok given = Except.ok value
      rw [Except.ok.injEq, Except.ok.injEq]
  | error fault => exact iff_of_false (fun same => nomatch same) fun same => nomatch same

theorem mapError_eq_error {δ : Type} {reword : ε → δ} {result : Except ε α} {fault : δ} :
    result.mapError reword = .error fault ↔
      ∃ given, result = .error given ∧ fault = reword given := by
  cases result with
  | ok value => exact iff_of_false (fun same => nomatch same) fun ⟨_, same, _⟩ => nomatch same
  | error given =>
      change Except.error (reword given) = Except.error fault ↔ _
      rw [Except.error.injEq, eq_comm]
      simp

theorem exists_error_iff {result : Except ε α} :
    (∃ fault, result = .error fault) ↔ ¬ ∃ value, result = .ok value := by
  cases result <;> simp

theorem eq_ok_of_toOption {result : Except ε α} {value : α}
    (found : result.toOption = some value) : result = .ok value := by
  cases result with
  | ok given => exact congrArg Except.ok (Option.some.inj found)
  | error fault => contradiction

theorem eq_ok_of_isOk {result : Except ε α} (accepted : result.isOk = true) :
    ∃ value, result = .ok value := by
  cases result with
  | ok value => exact ⟨value, rfl⟩
  | error fault => contradiction

/-- What holds of every part of a gathered list. -/
theorem forall_mem_of_mapM {compute : α → Except ε β} {property : β → Prop}
    (each : ∀ item value, compute item = .ok value → property value) {items : List α}
    {values : List β} (gathered : items.mapM compute = .ok values) :
    ∀ value ∈ values, property value := by
  induction items generalizing values with
  | nil =>
      rw [List.mapM_nil, pure_eq_ok] at gathered
      subst gathered
      simp
  | cons item items ih =>
      rw [List.mapM_cons, bind_eq_ok] at gathered
      obtain ⟨value, head, gathered⟩ := gathered
      rw [bind_eq_ok] at gathered
      obtain ⟨rest, tail, gathered⟩ := gathered
      rw [pure_eq_ok] at gathered
      subst gathered
      rw [List.forall_mem_cons]
      exact ⟨each item value head, ih tail⟩

end Rollout
