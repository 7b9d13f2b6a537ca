import Floorplan.Proofs.Generate.Attempts
import Floorplan.Proofs.Generate.Stream
import Floorplan.Proofs.Generate.Valid
import Floorplan.Proofs.Words.Generate

/-!
Runs of one generator. Each run starts over from the seed, which no run changes, so all of them come to the
same: the refusal of the configuration, the first layout that an attempt makes, or the failure of the last
attempt of the budget.
-/

set_option autoImplicit false

namespace Floorplan

open Floorplan.Random (Draw Rng)

variable {α : Type} [Coord α]

theorem Config.Valid.some_attempt {config : Config α} (valid : config.Valid) :
    0 < config.budgets.pipeline.toNat := by
  have passed := valid.budgets
  rw [checkBudgets] at passed
  split at passed
  next => cases passed
  next none =>
    have checked := List.find?_eq_none.mp none .pipeline (by simp [BudgetField.all])
    apply Nat.pos_of_ne_zero
    intro zero
    apply checked
    rw [beq_iff_eq]
    exact UInt32.toNat_inj.mp zero

namespace Generator

-- What a run leaves behind: the seed and the configuration as they were, and the phase and the count of
-- attempts that go with its result.
structure Left (config : Config α) (seed : UInt64) (result : Except (Failure α) (Layout α))
    (after : Generator α) : Prop where
  sameConfig : after.config = config
  sameSeed : after.rng.seed = seed
  ended : match config.validate with
    | .error error => result = .error (.invalidConfig error) ∧ after.phase = .failed ∧ after.attempts = 0
    | .ok _ =>
      (∃ layout, result = .ok layout ∧ after.phase = .done ∧ layout.seed = seed
        ∧ layout.attempts = after.attempts ∧ 1 ≤ after.attempts ∧ after.attempts ≤ config.budgets.pipeline.toNat
        ∧ FirstFail config seed (after.attempts - 1)
        ∧ attemptOutcome config seed (after.attempts - 1) = .ok layout)
      ∨ ∃ last, result = .error (.generationExhausted after.attempts last) ∧ after.phase = .failed
        ∧ 1 ≤ after.attempts ∧ after.attempts = config.budgets.pipeline.toNat
        ∧ FirstFail config seed after.attempts
        ∧ attemptOutcome config seed (after.attempts - 1) = .error last ∧ last.EndsAttempt config
  final : ∀ failure, result = .error failure → failure.retryable = false

variable [SteadyCoord α]

@[simp] theorem stream_seed (config : Config α) (seed : UInt64) (n : Nat) : (attemptStream config seed n).seed = seed := by
  induction n with
  | zero => rfl
  | succ n ih => exact (attempt_keeps_seed config _ _ _).trans ih

theorem run_left (config : Config α) (seed : UInt64) :
    Left config seed (Generator.new config seed).run.1 (Generator.new config seed).run.2 := by
  cases checked : config.validate with
  | error error =>
      rw [run_refused config seed error checked]
      refine ⟨rfl, rfl, ?_, fun failure same => ?_⟩
      · rw [checked]
        exact ⟨rfl, rfl, rfl⟩
      · cases same
        rfl
  | ok _ =>
      have budget := (config.valid_of_validate checked).some_attempt
      have ended := run_ended config seed checked
      generalize (Generator.new config seed).run = answer at ended ⊢
      cases ended with
      | finished n layout inBudget failed made =>
          obtain ⟨_, _, _, _, _, _, marked, counted⟩ := attempt_ok config _ _ _ layout made
          refine ⟨rfl, stream_seed config seed (n + 1), ?_, nofun⟩
          rw [checked]
          exact .inl ⟨layout, rfl, rfl, marked.trans (stream_seed config seed n), counted, Nat.le_add_left 1 n,
            inBudget, failed, made⟩
      | exhausted last failed lastFailed =>
          refine ⟨rfl, stream_seed config seed _, ?_, fun failure same => ?_⟩
          · rw [checked]
            exact .inr ⟨last, rfl, rfl, budget, rfl, failed, lastFailed budget,
              attempt_error config _ _ last _ (lastFailed budget)⟩
          · cases same
            rfl

end Generator

namespace Words

def attemptAnswer (config : Config α) (seed : UInt64) (n : Nat) : Option (Except (Failure α) (Layout α)) :=
  let rng := attemptStream config seed n
  ((attempt? config rng.seed (n + 1)).run rng).1.map (·.1)

theorem attempt_answer_sound (config : Config α) (seed : UInt64) (n : Nat) :
    Sound (attemptAnswer config seed n) (attemptOutcome config seed n) := by
  intro outcome answered
  obtain ⟨ended, found, rfl⟩ := Option.map_eq_some_iff.mp answered
  rw [attemptOutcome, attempt_sound config _ _ _ ended _ (Prod.ext found rfl)]

-- One attempt, on the stream as the ones before it left it.
theorem try_again_step (config : Config α) (seed : UInt64) (left : Nat) (last : Failure α) (phase : Phase)
    (attempts : Nat) :
    let answer := tryAgain? (left + 1) last { config, rng := attemptStream config seed attempts, phase, attempts }
    match attemptAnswer config seed attempts with
    | none => answer = none
    | some (.ok _) => answer.isSome = true
    | some (.error failure) => ∃ phase', answer = tryAgain? left failure
        { config, rng := attemptStream config seed (attempts + 1), phase := phase', attempts := attempts + 1 } := by
  intro answer
  have sound := attempt_sound config (attemptStream config seed attempts).seed (attempts + 1)
    (attemptStream config seed attempts)
  have outcome := attempt_answer_sound config seed attempts
  simp only [answer, tryAgain?]
  rw [attemptAnswer] at outcome ⊢
  generalize (attempt? config _ (attempts + 1)).run (attemptStream config seed attempts) = ended at sound outcome ⊢
  obtain ⟨ended, rest⟩ := ended
  cases ended with
  | none => rfl
  | some ended =>
      obtain ⟨result, phase'⟩ := ended
      cases result with
      | ok layout => rfl
      | error failure =>
          have made : attemptOutcome config seed attempts = .error failure := (outcome (.error failure) rfl).symm
          have moved : rest = attemptStream config seed (attempts + 1) := by
            rw [attemptStream, sound _ rest rfl]
          refine ⟨phase', ?_⟩
          simp only
          rw [if_pos (attempt_error config _ _ failure _ made).retryable, moved]

-- The attempts go on over failures, and so break off in the first attempt that does.
theorem try_again_none_iff (config : Config α) (seed : UInt64) (left : Nat) (last : Failure α) (phase : Phase)
    (attempts : Nat) (failed : FirstFail config seed attempts) :
    tryAgain? left last { config, rng := attemptStream config seed attempts, phase, attempts } = none ↔
      ∃ n, attempts ≤ n ∧ n < attempts + left ∧ FirstFail config seed n ∧ attemptAnswer config seed n = none := by
  induction left generalizing last phase attempts with
  | zero =>
      refine iff_of_false (Option.some_ne_none _) ?_
      rintro ⟨n, first, before, _⟩
      omega
  | succ left ih =>
      have step := try_again_step config seed left last phase attempts
      cases answer : attemptAnswer config seed attempts with
      | none =>
          rw [answer] at step
          exact iff_of_true step ⟨attempts, Nat.le_refl _, by omega, failed, answer⟩
      | some result =>
          rw [answer] at step
          have made := attempt_answer_sound config seed attempts result answer
          -- whatever breaks off does so in a later attempt
          have later (n : Nat) (first : attempts ≤ n) (broken : attemptAnswer config seed n = none) :
              attempts + 1 ≤ n := by
            rcases Nat.lt_or_eq_of_le first with after | rfl
            · exact after
            · rw [answer] at broken
              cases broken
          cases result with
          | ok layout =>
              refine iff_of_false (Option.isSome_iff_ne_none.mp step) ?_
              rintro ⟨n, first, _, all, broken⟩
              obtain ⟨failure, fails⟩ := all attempts (later n first broken)
              rw [← made] at fails
              cases fails
          | error failure =>
              obtain ⟨phase', goesOn⟩ := step
              have more : FirstFail config seed (attempts + 1) := by
                intro m before
                rcases Nat.lt_succ_iff_lt_or_eq.mp before with earlier | rfl
                · exact failed m earlier
                · exact ⟨failure, made.symm⟩
              rw [goesOn, ih failure phase' (attempts + 1) more]
              constructor
              · rintro ⟨n, first, before, all, broken⟩
                exact ⟨n, by omega, by omega, all, broken⟩
              · rintro ⟨n, first, before, all, broken⟩
                exact ⟨n, later n first broken, by omega, all, broken⟩

theorem run_none_iff (config : Config α) (seed : UInt64) :
    runGenerator? (Generator.new config seed) = none ↔ config.validate = .ok ()
      ∧ ∃ n < config.budgets.pipeline.toNat, FirstFail config seed n ∧ attemptAnswer config seed n = none := by
  have broken := try_again_none_iff config seed config.budgets.pipeline.toNat (Generator.noAttempt config) .placing 0
    fun m before => absurd before (Nat.not_lt_zero m)
  simp only [Nat.zero_le, true_and, Nat.zero_add] at broken
  have again : (Rng.ofSeed seed).seed = seed := rfl
  simp only [runGenerator?, Generator.new, again]
  cases config.validate with
  | error error =>
      refine iff_of_false (Option.some_ne_none _) ?_
      rintro ⟨valid, _⟩
      cases valid
  | ok _ => exact broken.trans (and_iff_right rfl).symm

theorem generator_breaks (config : Config α) (seed : UInt64) (valid : config.validate = .ok ())
    (vast : ¬ InMemory config.roomCount.toNat roomBytes) : runGenerator? (Generator.new config seed) = none := by
  refine (run_none_iff config seed).mpr
    ⟨valid, 0, (config.valid_of_validate valid).some_attempt, fun m before => absurd before (Nat.not_lt_zero m), ?_⟩
  rw [attemptAnswer, attempt_breaks vast]
  rfl

theorem generator_answers (config : Config α) (seed : UInt64) (spacious : Spacious config)
    (mapped : config.strategy = .grid → Mapped config) :
    (runGenerator? (Generator.new config seed)).isSome = true := by
  rw [Option.isSome_iff_ne_none]
  intro broken
  obtain ⟨_, n, _, _, unanswered⟩ := (run_none_iff config seed).mp broken
  have answers := attempt_answers spacious mapped (attemptStream config seed n).seed (n + 1)
    (attemptStream config seed n)
  rw [attemptAnswer, Option.map_eq_none_iff] at unanswered
  rw [unanswered] at answers
  cases answers

def afterRuns (generator : Generator α) : Nat → Option (Generator α)
  | 0 => some generator
  | k + 1 => (afterRuns generator k).bind fun later => (runGenerator? later).map (·.2)

theorem run_again [SteadyCoord α] (config : Config α) (seed : UInt64) (k : Nat) :
    (afterRuns (Generator.new config seed) k).bind runGenerator? = runGenerator? (Generator.new config seed) := by
  induction k with
  | zero => rfl
  | succ k ih =>
      have next : afterRuns (Generator.new config seed) (k + 1) =
          (runGenerator? (Generator.new config seed)).map (·.2) := by
        rw [afterRuns, ← ih]
        cases afterRuns (Generator.new config seed) k <;> rfl
      rw [next]
      have left := Generator.run_left config seed
      have sound := run_generator_sound (Generator.new config seed)
      cases ran : runGenerator? (Generator.new config seed) with
      | none => rfl
      | some answer =>
          rw [← sound answer ran] at left
          -- a run looks at nothing but the configuration and the seed
          change runGenerator? (Generator.new answer.2.config answer.2.rng.seed) = _
          rw [left.sameConfig, left.sameSeed, ran]

end Words

theorem Generator.Left.attempted {config : Config α} {seed : UInt64} {result : Except (Failure α) (Layout α)}
    {after : Generator α} (left : Generator.Left config seed result after) (n : Nat) (made : n < after.attempts) :
    config.validate = .ok () ∧ n < config.budgets.pipeline.toNat ∧ FirstFail config seed n := by
  have ended := left.ended
  cases checked : config.validate with
  | error error =>
      rw [checked] at ended
      obtain ⟨_, _, none⟩ := ended
      omega
  | ok _ =>
      rw [checked] at ended
      obtain ⟨_, _, _, _, _, _, inBudget, failed, _⟩ | ⟨_, _, _, _, all, failed, _⟩ := ended
      · exact ⟨rfl, by omega, fun m before => failed m (by omega)⟩
      · exact ⟨rfl, by omega, fun m before => failed m (by omega)⟩

-- Every run comes to what a single generation comes to, and breaks off just when one of its
-- attempts does.
theorem repeated_runs_agree [SteadyCoord α] (config : Config α) (seed : UInt64) (k : Nat) :
    let first := Generator.new config seed
    let run := (Words.afterRuns first k).bind Words.runGenerator?
    run = Words.runGenerator? first ∧ run.map (·.1) = Words.generate? config seed
      ∧ (∀ result after, run = some (result, after) → Generator.Left config seed result after
        ∧ ∀ n < after.attempts, Words.attemptAnswer config seed n = some (attemptOutcome config seed n))
      ∧ (∀ n failure, attemptOutcome config seed n = .error failure → failure.retryable = true)
      ∧ (run = none ↔ config.validate = .ok ()
        ∧ ∃ n < config.budgets.pipeline.toNat, FirstFail config seed n ∧ Words.attemptAnswer config seed n = none)
      ∧ (config.validate = .ok () → ¬ Words.InMemory config.roomCount.toNat Words.roomBytes → run = none)
      ∧ (Words.Spacious config → (config.strategy = .grid → Words.Mapped config) → run.isSome = true) := by
  intro first run
  have again : run = Words.runGenerator? first := Words.run_again config seed k
  have broken := Words.run_none_iff config seed
  have sound := Words.attempt_answer_sound config seed
  rw [again]
  refine ⟨rfl, rfl, fun result after ran => ?_, fun n failure failed => ?_, broken, Words.generator_breaks config seed,
    Words.generator_answers config seed⟩
  · have left := Generator.run_left config seed
    rw [← Words.run_generator_sound first _ ran] at left
    refine ⟨left, fun n made => (sound n).eq_some ?_⟩
    obtain ⟨valid, inBudget, failed⟩ := left.attempted n made
    rw [Option.isSome_iff_ne_none]
    intro none
    rw [broken.mpr ⟨valid, n, inBudget, failed, none⟩] at ran
    cases ran
  · exact (attempt_error config _ _ failure _ failed).retryable

def oversized : Config Float :=
  { Config.standard with
    width := 8
    height := 8
    roomCount := 1
    roomSizes := [(9, 9)]
    budgets := { placement := 1, perEdge := 1, pipeline := 2 } }

def lonely : Config Rat :=
  { Config.standard with width := 8, height := 8, roomCount := 1, roomSizes := [(3, 3)], strategy := .grid }

theorem oversized_exhausted :
    let run := (Words.afterRuns (Generator.new oversized 7) 1).bind Words.runGenerator?
    Words.Spacious oversized
      ∧ (∃ after, run = some (.error (.generationExhausted 2 (.placementExhausted 0 1 1)), after)
        ∧ after.attempts = 2 ∧ after.phase = .failed ∧ after.rng.seed = 7)
      ∧ Words.Mapped lonely
      ∧ ((Words.afterRuns (Generator.new lonely 7) 1).bind Words.runGenerator?).isSome = true := by
  intro run
  have mapped : Words.Mapped lonely :=
    Words.InWordsFor.mapped (by decide +kernel) ⟨by decide, by decide, by decide⟩
  obtain ⟨_, _, _, _, _, _, answered⟩ := repeated_runs_agree lonely 7 1
  have counted := answered ⟨by decide, by decide, by decide +kernel⟩ fun _ => mapped
  obtain ⟨again, once, made, _, _, _, answers⟩ := repeated_runs_agree oversized 7 1
  change run = _ at again
  have spacious : Words.Spacious oversized := ⟨by decide, by decide, by decide +kernel⟩
  have valid : oversized.validate = .ok () := by decide +kernel
  have none : (generate oversized 7).toOption.isNone = true := by decide +kernel
  have second : attemptOutcome oversized 7 1 = .error (.placementExhausted 0 1 1) := by decide +kernel
  obtain ⟨⟨result, after⟩, ran⟩ := Option.isSome_iff_exists.mp (answers spacious nofun)
  change run = some (result, after) at ran
  obtain ⟨left, _⟩ := made result after ran
  have ended := left.ended
  rw [valid] at ended
  refine ⟨spacious, ⟨after, ?_⟩, mapped, counted⟩
  obtain ⟨layout, made, _⟩ | ⟨last, rfl, phase, _, all, _, failed, _⟩ := ended
  · have generated : Words.generate? oversized 7 = some result := once.symm.trans (congrArg (Option.map (·.1)) ran)
    have sound := Words.generate_sound oversized 7 result generated
    rw [← sound, made] at none
    cases none
  · have two : after.attempts = 2 := all
    rw [two] at failed ran
    rw [second] at failed
    cases failed
    exact ⟨ran, two, phase, left.sameSeed⟩

def countless : Config Float :=
  { Config.standard with
    width := 40
    height := 40
    roomCount := 4611686018427387904
    roomSizes := [(3, 4)]
    budgets := { placement := 4, perEdge := 1, pipeline := 2 } }

theorem countless_run_breaks :
    countless.validate = .ok () ∧ Words.runGenerator? (Generator.new countless 1) = none := by
  have valid : countless.validate = .ok () := by decide +kernel
  exact ⟨valid, Words.generator_breaks countless 1 valid (by decide)⟩

end Floorplan
