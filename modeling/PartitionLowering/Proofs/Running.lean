import Mathlib.Data.List.Forall2
import PartitionLowering.Lowering.Draft

/-!
Running steps that may fail.  A sequence of look-ups succeeds exactly when each of them does
(`bind_eq_ok`), and so does a sequence of steps on a state (`run_bind_eq_ok`).  `Takes` is what can be
said of a step without knowing whether it fails: where it takes the state, and of what it gives.
-/

set_option autoImplicit false

namespace PartitionLowering

section LookUps

variable {ε α β : Type}

@[simp] theorem ok_bind (value : α) (next : α → Except ε β) :
    ((.ok value : Except ε α) >>= next) = next value :=
  rfl

@[simp] theorem error_bind (error : ε) (next : α → Except ε β) :
    ((.error error : Except ε α) >>= next) = .error error :=
  rfl

@[simp] theorem pure_eq_ok (value : α) : (pure value : Except ε α) = .ok value :=
  rfl

@[simp] theorem throw_eq_error (error : ε) : (throw error : Except ε α) = .error error :=
  rfl

theorem bind_eq_ok {first : Except ε α} {next : α → Except ε β} {result : β} :
    first >>= next = .ok result ↔ ∃ value, first = .ok value ∧ next value = .ok result := by
  cases first with
  | error error => simp
  | ok value => simp

theorem exists_of_isOk {result : Except ε α} (succeeds : result.isOk = true) :
    ∃ value, result = .ok value := by
  cases result with
  | error error => cases succeeds
  | ok value => exact ⟨value, rfl⟩

/-- What is read off a result that may have failed is read off a success. -/
theorem exists_of_toOption_bind {result : Except ε α} {read : α → Option β} {shown : β}
    (found : result.toOption.bind read = some shown) :
    ∃ value, result = .ok value ∧ read value = some shown := by
  cases result with
  | error error => cases found
  | ok value => exact ⟨value, rfl, found⟩

/-- A guard lets a look-up go on where its condition does not hold. -/
theorem guard_eq_ok {condition : Prop} [Decidable condition] {error : ε}
    {next : Except ε β} {result : β} :
    (if condition then .error error else next) = .ok result ↔
      ¬condition ∧ next = .ok result := by
  by_cases holds : condition <;> simp [holds]

/-- Look-ups in a row are all there, or there is no answer. -/
theorem mapM_eq_some_iff {look : α → Option β} {places : List α} {values : List β} :
    places.mapM look = some values ↔
      List.Forall₂ (fun place value => look place = some value) places values := by
  induction places generalizing values with
  | nil =>
    rw [List.mapM_nil, List.forall₂_nil_left_iff]
    exact Option.some_inj.trans eq_comm
  | cons place rest ih =>
    rw [List.mapM_cons, List.forall₂_cons_left_iff]
    constructor
    · intro found
      obtain ⟨value, here, found⟩ := Option.bind_eq_some_iff.1 found
      obtain ⟨others, there, found⟩ := Option.bind_eq_some_iff.1 found
      cases found
      exact ⟨value, others, here, ih.1 there, rfl⟩
    · rintro ⟨value, others, here, there, rfl⟩
      rw [here, ih.2 there]
      rfl

end LookUps

section Steps

variable {ε σ α β : Type}

theorem run_bind_of_ok {step : EStateM ε σ α} {state after : σ} {value : α}
    (run : step state = .ok value after) (next : α → EStateM ε σ β) :
    (step >>= next) state = next value after := by
  change EStateM.bind step next state = _
  rw [EStateM.bind, run]

theorem run_bind_of_error {step : EStateM ε σ α} {state after : σ} {error : ε}
    (run : step state = .error error after) (next : α → EStateM ε σ β) :
    (step >>= next) state = .error error after := by
  change EStateM.bind step next state = _
  rw [EStateM.bind, run]

theorem run_bind_eq_ok {step : EStateM ε σ α} {next : α → EStateM ε σ β} {state last : σ}
    {result : β} :
    (step >>= next) state = .ok result last ↔
      ∃ value between, step state = .ok value between ∧ next value between = .ok result last := by
  cases run : step state with
  | error error after => simp [run_bind_of_error run]
  | ok value after =>
    rw [run_bind_of_ok run]
    constructor
    · intro rest
      exact ⟨value, after, rfl, rest⟩
    · rintro ⟨_, _, ran, rest⟩
      cases ran
      exact rest

theorem run_get (state : σ) : (get : EStateM ε σ σ) state = .ok state state :=
  rfl

theorem run_lift_ok {lookup : Except Failure α} {value : α} (found : lookup = .ok value)
    (state : σ) : (liftM lookup : EStateM Failure σ α) state = .ok value state := by
  rw [found]
  rfl

theorem run_lift_error {lookup : Except Failure α} {failure : Failure}
    (missed : lookup = .error failure) (state : σ) :
    (liftM lookup : EStateM Failure σ α) state = .error failure state := by
  rw [missed]
  rfl

theorem run_lift_eq_ok {lookup : Except Failure α} {value : α} {state after : σ} :
    (liftM lookup : EStateM Failure σ α) state = .ok value after ↔
      lookup = .ok value ∧ after = state := by
  cases found : lookup with
  | error failure => simp [run_lift_error rfl state]
  | ok value' => simp [run_lift_ok rfl state, eq_comm]

theorem run_lift_bind_eq_ok {lookup : Except Failure α} {next : α → EStateM Failure σ β}
    {state after : σ} {result : β} :
    ((liftM lookup : EStateM Failure σ α) >>= next) state = .ok result after ↔
      ∃ value, lookup = .ok value ∧ next value state = .ok result after := by
  rw [run_bind_eq_ok]
  constructor
  · rintro ⟨value, between, looked, rest⟩
    obtain ⟨found, rfl⟩ := run_lift_eq_ok.1 looked
    exact ⟨value, found, rest⟩
  · rintro ⟨value, found, rest⟩
    exact ⟨value, state, run_lift_eq_ok.2 ⟨found, rfl⟩, rest⟩

end Steps

section Outcomes

variable {ε σ α β : Type} {Goes : σ → σ → Prop} {Fails : ε → Prop} {Shows : σ → α → Prop}
  {Shows' : σ → β → Prop} {step : EStateM ε σ α} {state after : σ}

/-- A step takes a state where `Goes` allows, whether it succeeds with a value of which `Shows` holds or
fails with an error of which `Fails` holds. -/
def Takes (Goes : σ → σ → Prop) (Fails : ε → Prop) (Shows : σ → α → Prop) (step : EStateM ε σ α)
    (state : σ) : Prop :=
  match step state with
  | .ok value after => Goes state after ∧ Shows after value
  | .error error after => Goes state after ∧ Fails error

theorem Takes.of_ok (takes : Takes Goes Fails Shows step state) {value : α}
    (ran : step state = .ok value after) : Goes state after ∧ Shows after value := by
  rwa [Takes, ran] at takes

theorem Takes.of_error (takes : Takes Goes Fails Shows step state) {error : ε}
    (ran : step state = .error error after) : Goes state after ∧ Fails error := by
  rwa [Takes, ran] at takes

theorem takes_of_ok {value : α} (ran : step state = .ok value after) (goes : Goes state after)
    (shown : Shows after value) : Takes Goes Fails Shows step state := by
  rw [Takes, ran]
  exact ⟨goes, shown⟩

theorem takes_of_error {error : ε} (ran : step state = .error error after) (goes : Goes state after)
    (fails : Fails error) : Takes Goes Fails Shows step state := by
  rw [Takes, ran]
  exact ⟨goes, fails⟩

theorem Takes.bind {next : α → EStateM ε σ β}
    (trans : ∀ {first second third}, Goes first second → Goes second third → Goes first third)
    (first : Takes Goes Fails Shows step state)
    (rest : ∀ value after, Goes state after → Shows after value →
      Takes Goes Fails Shows' (next value) after) : Takes Goes Fails Shows' (step >>= next) state := by
  cases ran : step state with
  | error error after =>
    obtain ⟨goes, fails⟩ := first.of_error ran
    exact takes_of_error (run_bind_of_error ran next) goes fails
  | ok value after =>
    obtain ⟨goes, shown⟩ := first.of_ok ran
    have later := rest value after goes shown
    cases ran' : next value after with
    | error error last =>
      obtain ⟨goes', fails⟩ := later.of_error ran'
      exact takes_of_error ((run_bind_of_ok ran next).trans ran') (trans goes goes') fails
    | ok value' last =>
      obtain ⟨goes', shown'⟩ := later.of_ok ran'
      exact takes_of_ok ((run_bind_of_ok ran next).trans ran') (trans goes goes') shown'

theorem Takes.imp {Fails' : ε → Prop} {Shows' : σ → α → Prop} (takes : Takes Goes Fails Shows step state)
    (fails : ∀ error, Fails error → Fails' error) (tells : ∀ after value, Shows after value →
      Shows' after value) : Takes Goes Fails' Shows' step state := by
  cases ran : step state with
  | error error after =>
    obtain ⟨goes, failed⟩ := takes.of_error ran
    exact takes_of_error ran goes (fails error failed)
  | ok value after =>
    obtain ⟨goes, shown⟩ := takes.of_ok ran
    exact takes_of_ok ran goes (tells after value shown)

theorem takes_lift {Goes : σ → σ → Prop} {Fails : Failure → Prop} {lookup : Except Failure α}
    (stays : Goes state state) (fails : ∀ failure, lookup = .error failure → Fails failure) :
    Takes Goes Fails (fun _ value => lookup = .ok value) (liftM lookup) state := by
  cases outcome : lookup with
  | error failure => exact takes_of_error (run_lift_error rfl state) stays (fails failure outcome)
  | ok value => exact takes_of_ok (run_lift_ok rfl state) stays rfl

theorem takes_get {next : σ → EStateM ε σ α} (rest : Takes Goes Fails Shows (next state) state) :
    Takes Goes Fails Shows (get >>= next) state := by
  rwa [Takes, run_bind_of_ok (run_get state)]

end Outcomes

end PartitionLowering
