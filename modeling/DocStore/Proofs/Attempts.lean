import DocStore.Attempt

/-!
# Outcomes of attempts

An attempt is opened by its outcome: a bind succeeds exactly when both halves do,
and fails where one of them does.  `Attempt.Keeps` says that a property of states
outlives an attempt whatever its outcome, since what was done before a failure
stays done; `Attempt.FailsOnly` says which failures an attempt may end in.
-/

namespace DocStore

namespace Attempt

variable {σ τ α β : Type}

/-- What an attempt makes of a state: an answer or a failure, and the state after
it. -/
def outcome (attempt : Attempt σ α) (state : σ) : Except Failure α × σ :=
  attempt state

/-- A bind runs its first half, and the second one only after a success. -/
theorem bind_outcome (first : Attempt σ α) (next : α → Attempt σ β) (state : σ) :
    (first >>= next).outcome state =
      match first.outcome state with
      | (.ok value, middle) => (next value).outcome middle
      | (.error failure, middle) => (.error failure, middle) := by
  have opened : (first >>= next).outcome state =
      ExceptT.bindCont next (first state).1 (first state).2 := rfl
  rw [opened, outcome]
  rcases first state with ⟨failure | value, middle⟩ <;> rfl

@[simp]
theorem pure_outcome (value : α) (state : σ) :
    (pure value : Attempt σ α).outcome state = (.ok value, state) :=
  rfl

@[simp]
theorem modify_outcome (change : σ → σ) (state : σ) :
    (modify change : Attempt σ PUnit).outcome state = (.ok ⟨⟩, change state) :=
  rfl

@[simp]
theorem ofResult_outcome (result : Except Failure α) (state : σ) :
    (ofResult result : Attempt σ α).outcome state = (result, state) :=
  rfl

@[simp]
theorem onPart_outcome (part : σ → τ) (withPart : σ → τ → σ) (attempt : Attempt τ α)
    (state : σ) :
    (attempt.onPart part withPart).outcome state =
      ((attempt.outcome (part state)).1, withPart state (attempt.outcome (part state)).2) :=
  rfl

@[simp]
theorem retold_outcome (tell : Failure → Failure) (attempt : Attempt σ α) (state : σ) :
    (attempt.retold tell).outcome state =
      ((attempt.outcome state).1.mapError tell, (attempt.outcome state).2) :=
  rfl

theorem step_outcome {next : σ → Except Failure σ} {state changed : σ}
    (isNext : next state = .ok changed) : (step next).outcome state = (.ok (), changed) := by
  rw [outcome, step, isNext]

/-- What is read of the state goes into what follows. -/
@[simp]
theorem get_bind_outcome (next : σ → Attempt σ β) (state : σ) :
    ((get : Attempt σ σ) >>= next).outcome state = (next state).outcome state :=
  rfl

/-- What follows a replaced state starts from the new one. -/
@[simp]
theorem set_bind_outcome (replacement state : σ) (next : PUnit → Attempt σ β) :
    ((set replacement : Attempt σ PUnit) >>= next).outcome state =
      (next ⟨⟩).outcome replacement :=
  rfl

theorem bind_ok_iff {first : Attempt σ α} {next : α → Attempt σ β} {state final : σ}
    {result : β} :
    (first >>= next).outcome state = (.ok result, final) ↔
      ∃ value middle, first.outcome state = (.ok value, middle) ∧
        (next value).outcome middle = (.ok result, final) := by
  rw [bind_outcome]
  rcases first.outcome state with ⟨failure | value, middle⟩ <;> simp [and_assoc]

theorem bind_error_iff {first : Attempt σ α} {next : α → Attempt σ β} {state final : σ}
    {failure : Failure} :
    (first >>= next).outcome state = (.error failure, final) ↔
      first.outcome state = (.error failure, final) ∨
        ∃ value middle, first.outcome state = (.ok value, middle) ∧
          (next value).outcome middle = (.error failure, final) := by
  rw [bind_outcome]
  rcases first.outcome state with ⟨failure | value, middle⟩ <;> simp [and_assoc]

theorem exists_of_toOption {attempt : Attempt σ α} {state : σ} {answer : α}
    (answers : (attempt.outcome state).1.toOption = some answer) :
    ∃ final, attempt.outcome state = (.ok answer, final) := by
  rcases ran : attempt.outcome state with ⟨failure | value, final⟩
  · simp [ran, Except.toOption] at answers
  · obtain rfl : value = answer := by simpa [ran, Except.toOption] using answers
    exact ⟨final, rfl⟩

/-- A loop that succeeds: if every turn from a good state leads to a good one in which
its item is done, and what is done stays done, then all items are done in the end. -/
theorem forM_ok {ι : Type} (good : σ → Prop) (leads : σ → σ → Prop) (done : ι → σ → Prop)
    {each : ι → Attempt σ PUnit} (refl : ∀ state, leads state state)
    (trans : ∀ {first second third}, leads first second → leads second third →
      leads first third)
    (stays : ∀ {item first second}, leads first second → done item first → done item second)
    {items : List ι}
    (turn : ∀ item ∈ items, ∀ {first second}, good first →
      (each item).outcome first = (.ok ⟨⟩, second) →
        good second ∧ leads first second ∧ done item second)
    {first last : σ} (isGood : good first)
    (ran : (items.forM each).outcome first = (.ok ⟨⟩, last)) :
    good last ∧ leads first last ∧ ∀ item ∈ items, done item last := by
  induction items generalizing first with
  | nil =>
      obtain rfl : first = last := congrArg Prod.snd ran
      exact ⟨isGood, refl first, by simp⟩
  | cons item items ih =>
      obtain ⟨_, middle, ranFirst, ranRest⟩ := bind_ok_iff.1 ran
      obtain ⟨middleGood, led, isDone⟩ := turn item List.mem_cons_self isGood ranFirst
      obtain ⟨lastGood, ledOn, restDone⟩ :=
        ih (fun other member => turn other (List.mem_cons_of_mem _ member)) middleGood ranRest
      refine ⟨lastGood, trans led ledOn, fun other member => ?_⟩
      rcases List.mem_cons.1 member with rfl | inRest
      · exact stays ledOn isDone
      · exact restDone other inRest

/-- Whatever its outcome, the attempt leaves the property true. -/
def Keeps (property : σ → Prop) (attempt : Attempt σ α) : Prop :=
  ∀ state, property state → property (attempt.outcome state).2

section Keeps

variable {property : σ → Prop}

theorem keeps_of_stays {attempt : Attempt σ α}
    (stays : ∀ state, (attempt.outcome state).2 = state) : Keeps property attempt := by
  intro state holds
  rwa [stays state]

theorem Keeps.bind {first : Attempt σ α} {next : α → Attempt σ β}
    (firstKeeps : Keeps property first)
    (nextKeeps : ∀ state value middle, property state →
      first.outcome state = (.ok value, middle) → Keeps property (next value)) :
    Keeps property (first >>= next) := by
  intro state holds
  have middleHolds := firstKeeps state holds
  rw [bind_outcome]
  rcases outcome : first.outcome state with ⟨failure | value, middle⟩
  · simpa [outcome] using middleHolds
  · exact nextKeeps state value middle holds outcome middle
      (by simpa [outcome] using middleHolds)

theorem keeps_get_bind {next : σ → Attempt σ β}
    (nextKeeps : ∀ state, property state → property ((next state).outcome state).2) :
    Keeps property ((get : Attempt σ σ) >>= next) :=
  nextKeeps

theorem keeps_forM (items : List α) (each : α → Attempt σ PUnit)
    (eachKeeps : ∀ item ∈ items, Keeps property (each item)) :
    Keeps property (items.forM each) := by
  induction items with
  | nil => exact keeps_of_stays fun _ => rfl
  | cons item items ih =>
      exact Keeps.bind (eachKeeps item (by simp)) fun _ _ _ _ _ =>
        ih fun other member => eachKeeps other (by simp [member])

theorem keeps_foldlM (items : List α) (each : β → α → Attempt σ β) (start : β)
    (eachKeeps : ∀ item ∈ items, ∀ value, Keeps property (each value item)) :
    Keeps property (items.foldlM each start) := by
  induction items generalizing start with
  | nil => exact keeps_of_stays fun _ => rfl
  | cons item items ih =>
      rw [List.foldlM_cons]
      exact Keeps.bind (eachKeeps item (by simp) start) fun _ value _ _ _ =>
        ih value fun other member => eachKeeps other (by simp [member])

theorem Keeps.onPart {inner : τ → Prop} {part : σ → τ} {withPart : σ → τ → σ}
    {attempt : Attempt τ α} (attemptKeeps : Keeps inner attempt)
    (enter : ∀ state, property state → inner (part state))
    (leave : ∀ state changed, property state → inner changed →
      property (withPart state changed)) :
    Keeps property (attempt.onPart part withPart) := by
  intro state holds
  rw [onPart_outcome]
  exact leave state _ holds (attemptKeeps _ (enter state holds))

end Keeps

/-- Whether every failure of the attempt is an allowed one. -/
def FailsOnly (allowed : Failure → Prop) (attempt : Attempt σ α) : Prop :=
  ∀ state failure after, attempt.outcome state = (.error failure, after) → allowed failure

section FailsOnly

variable {allowed : Failure → Prop}

theorem failsOnly_of_ok {attempt : Attempt σ α} (answer : σ → α)
    (succeeds : ∀ state, (attempt.outcome state).1 = .ok (answer state)) :
    FailsOnly allowed attempt := by
  intro state failure after failed
  have result := succeeds state
  rw [failed] at result
  cases result

theorem FailsOnly.bind {first : Attempt σ α} {next : α → Attempt σ β}
    (firstFails : FailsOnly allowed first) (nextFails : ∀ value, FailsOnly allowed (next value)) :
    FailsOnly allowed (first >>= next) := by
  intro state failure after failed
  rcases bind_error_iff.1 failed with failedFirst | ⟨value, middle, -, failedNext⟩
  · exact firstFails state failure after failedFirst
  · exact nextFails value middle failure after failedNext

theorem FailsOnly.onPart {part : σ → τ} {withPart : σ → τ → σ} {attempt : Attempt τ α}
    (fails : FailsOnly allowed attempt) : FailsOnly allowed (attempt.onPart part withPart) := by
  intro state failure after failed
  rw [onPart_outcome, Prod.mk.injEq] at failed
  exact fails (part state) failure _ (Prod.ext failed.1 rfl)

theorem failsOnly_foldlM (items : List α) (each : β → α → Attempt σ β) (start : β)
    (eachFails : ∀ value item, FailsOnly allowed (each value item)) :
    FailsOnly allowed (items.foldlM each start) := by
  induction items generalizing start with
  | nil => exact failsOnly_of_ok (fun _ => start) fun _ => rfl
  | cons item items ih =>
      rw [List.foldlM_cons]
      exact (eachFails start item).bind ih

end FailsOnly

end Attempt

end DocStore
