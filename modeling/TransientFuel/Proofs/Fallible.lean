import TransientFuel.Proofs.Lists

/-!
# Computations that can fail

What a computation that is made of others came from, given its value or its fault. Going through a
list with a step that can fail ends at the first step that does, `mapM_eq_error_iff`, and otherwise
gives a result for each element, `mapM_eq_ok_iff`.
-/

namespace TransientFuel

variable {α β γ Fault Other : Type}

theorem map_eq_ok_iff {result : Except Fault α} {change : α → β} {value : β} :
    result.map change = .ok value ↔ ∃ first, result = .ok first ∧ change first = value := by
  cases result with
  | error fault => simp [Except.map]
  | ok first => simp [Except.map]

theorem bind_eq_ok {result : Except Fault α} {next : α → Except Fault β} {value : β} :
    (result >>= next) = .ok value ↔ ∃ first, result = .ok first ∧ next first = .ok value := by
  cases result with
  | error fault => simp [bind, Except.bind]
  | ok first => simp [bind, Except.bind]

theorem bind_eq_error {result : Except Fault α} {next : α → Except Fault β} {fault : Fault} :
    (result >>= next) = .error fault ↔
      result = .error fault ∨ ∃ first, result = .ok first ∧ next first = .error fault := by
  cases result with
  | error fault => simp [bind, Except.bind]
  | ok first => simp [bind, Except.bind]

theorem mapError_eq_ok_iff {result : Except Fault α} {wrap : Fault → Other} {value : α} :
    result.mapError wrap = .ok value ↔ result = .ok value := by
  cases result with
  | error fault => simp [Except.mapError]
  | ok first => simp [Except.mapError]

theorem mapError_eq_error_iff {result : Except Fault α} {wrap : Fault → Other} {fault : Other} :
    result.mapError wrap = .error fault ↔ ∃ inner, result = .error inner ∧ wrap inner = fault := by
  cases result with
  | error inner => simp [Except.mapError]
  | ok first => simp [Except.mapError]

theorem exists_ok_of_any {outcome : Except Fault α} {test : α → Bool}
    (passes : outcome.toOption.any test = true) :
    ∃ value, outcome = .ok value ∧ test value = true := by
  cases outcome with
  | error fault => contradiction
  | ok value => exact ⟨value, rfl, passes⟩

section Traversals

theorem mapM_eq_ok_iff {step : α → Except Fault β} {list : List α}
    {results : List β} :
    list.mapM step = .ok results ↔
      List.Forall₂ (fun element result => step element = .ok result) list results := by
  induction list generalizing results with
  | nil =>
      simp only [List.mapM_nil, List.forall₂_nil_left_iff]
      exact ⟨fun same => (Except.ok.inj same).symm, fun empty => congrArg Except.ok empty.symm⟩
  | cons first rest inductionHypothesis =>
      simp only [List.mapM_cons, bind_eq_ok, inductionHypothesis, List.forall₂_cons_left_iff]
      constructor
      · rintro ⟨result, stepped, later, laterStepped, same⟩
        exact ⟨result, later, stepped, laterStepped, (Except.ok.inj same).symm⟩
      · rintro ⟨result, later, stepped, laterStepped, rfl⟩
        exact ⟨result, stepped, later, laterStepped, rfl⟩

/-- What fails is the first step that fails. -/
theorem mapM_eq_error_iff {step : α → Except Fault β} {list : List α} {fault : Fault} :
    list.mapM step = .error fault ↔
      ∃ (index : ℕ) (element : α), list[index]? = some element ∧ step element = .error fault ∧
        ∀ earlier ∈ list.take index, ∃ result, step earlier = .ok result := by
  induction list with
  | nil => simp [pure, Except.pure]
  | cons first rest inductionHypothesis =>
      rw [List.mapM_cons, ← Nat.or_exists_add_one]
      simp only [bind_eq_error, inductionHypothesis, List.getElem?_cons_zero,
        List.getElem?_cons_succ, List.take_zero, List.take_succ_cons, List.forall_mem_cons]
      apply or_congr
      · simp
      · simp only [pure, Except.pure, reduceCtorEq, and_false, exists_false, or_false]
        constructor
        · rintro ⟨result, stepped, index, element, found, failed, passed⟩
          exact ⟨index, element, found, failed, ⟨result, stepped⟩, passed⟩
        · rintro ⟨index, element, found, failed, ⟨result, stepped⟩, passed⟩
          exact ⟨result, stepped, index, element, found, failed, passed⟩

theorem exists_mapM_iff {step : α → Except Fault β} {list : List α} :
    (∃ results, list.mapM step = .ok results) ↔
      ∀ element ∈ list, ∃ result, step element = .ok result := by
  simp only [mapM_eq_ok_iff]
  constructor
  · rintro ⟨results, stepped⟩ element member
    rcases exists_of_forall₂ stepped member with ⟨result, _, passed⟩
    exact ⟨result, passed⟩
  · intro each
    exact exists_forall₂ each

/-- Of the places where a step over rows and columns fails, the first one is met. -/
theorem mapM_mapM_eq_error_iff {step : α → β → Except Fault γ} {rows : List α}
    {columns : List β} {fault : Fault} :
    (rows.mapM fun row => columns.mapM fun column => step row column) = .error fault ↔
      ∃ (row column : ℕ) (before : α) (after : β),
        IsLeast {place : ℕ ×ₗ ℕ | ∃ before after fault, rows[(ofLex place).1]? = some before ∧
          columns[(ofLex place).2]? = some after ∧ step before after = .error fault}
          (toLex (row, column)) ∧
        rows[row]? = some before ∧ columns[column]? = some after ∧
        step before after = .error fault := by
  rw [mapM_eq_error_iff]
  simp only [mapM_eq_error_iff, exists_mapM_iff]
  constructor
  · rintro ⟨row, before, beforeAt, ⟨column, after, afterAt, failed, columnsPassed⟩, rowsPassed⟩
    refine ⟨row, column, before, after, ⟨⟨before, after, fault, beforeAt, afterAt, failed⟩, ?_⟩,
      beforeAt, afterAt, failed⟩
    rintro ⟨otherRow, otherColumn⟩ ⟨otherBefore, otherAfter, otherFault, otherBeforeAt,
      otherAfterAt, otherFailed⟩
    have fails : ¬∃ result, step otherBefore otherAfter = .ok result := by
      simp [otherFailed]
    by_contra notLe
    rcases Prod.Lex.toLex_lt_toLex.mp (not_le.mp notLe) with earlierRow | ⟨sameRow, earlierColumn⟩
    · apply fails
      exact rowsPassed otherBefore (mem_take_iff.mpr ⟨otherRow, earlierRow, otherBeforeAt⟩)
        otherAfter (List.mem_of_getElem? otherAfterAt)
    · apply fails
      obtain rfl : otherRow = row := sameRow
      obtain rfl : before = otherBefore := Option.some.inj (beforeAt.symm.trans otherBeforeAt)
      exact columnsPassed otherAfter (mem_take_iff.mpr ⟨otherColumn, earlierColumn, otherAfterAt⟩)
  · rintro ⟨row, column, before, after, ⟨_, least⟩, beforeAt, afterAt, failed⟩
    have passed {otherRow otherColumn : ℕ} {otherBefore : α} {otherAfter : β}
        (otherBeforeAt : rows[otherRow]? = some otherBefore)
        (otherAfterAt : columns[otherColumn]? = some otherAfter)
        (earlier : toLex (otherRow, otherColumn) < toLex (row, column)) :
        ∃ result, step otherBefore otherAfter = .ok result := by
      cases stepped : step otherBefore otherAfter with
      | ok result => exact ⟨result, rfl⟩
      | error otherFault =>
          have later : toLex (row, column) ≤ toLex (otherRow, otherColumn) :=
            least ⟨otherBefore, otherAfter, otherFault, otherBeforeAt, otherAfterAt, stepped⟩
          exact absurd later (not_le.mpr earlier)
    refine ⟨row, before, beforeAt, ⟨column, after, afterAt, failed, ?_⟩, ?_⟩
    · intro otherAfter member
      rcases mem_take_iff.mp member with ⟨otherColumn, earlier, otherAfterAt⟩
      exact passed beforeAt otherAfterAt (Prod.Lex.toLex_lt_toLex.mpr (Or.inr ⟨rfl, earlier⟩))
    · intro otherBefore rowMember otherAfter columnMember
      rcases mem_take_iff.mp rowMember with ⟨otherRow, earlier, otherBeforeAt⟩
      rcases List.mem_iff_getElem?.mp columnMember with ⟨otherColumn, otherAfterAt⟩
      exact passed otherBeforeAt otherAfterAt (Prod.Lex.toLex_lt_toLex.mpr (Or.inl earlier))

theorem mapM_zipIdx_map {image : α → β} {indexed : β × ℕ → Except Fault γ}
    {plain : α → Except Fault γ} {list : List α} {start : ℕ}
    (agree : ∀ (index : ℕ) (inside : index < list.length),
      indexed (image list[index], start + index) = plain list[index]) :
    ((list.map image).zipIdx start).mapM indexed = list.mapM plain := by
  induction list generalizing start with
  | nil => rfl
  | cons first rest inductionHypothesis =>
      have atFirst := agree 0 (by simp)
      have behind : ((rest.map image).zipIdx (start + 1)).mapM indexed = rest.mapM plain := by
        apply inductionHypothesis
        intro index inside
        have later := agree (index + 1) (by simpa using inside)
        rw [show start + (index + 1) = start + 1 + index by omega] at later
        exact later
      simp only [List.map_cons, List.zipIdx_cons, List.mapM_cons, behind]
      simp only [Nat.add_zero, List.getElem_cons_zero] at atFirst
      rw [atFirst]

theorem mapM_mapError {outer : Fault → Other} {step : α → Except Fault β} (list : List α) :
    (list.mapM step).mapError outer = list.mapM fun element => (step element).mapError outer := by
  induction list with
  | nil => rfl
  | cons first rest inductionHypothesis =>
      rw [List.mapM_cons, List.mapM_cons, ← inductionHypothesis]
      cases step first with
      | error fault => rfl
      | ok value => cases rest.mapM step <;> rfl

end Traversals

end TransientFuel
