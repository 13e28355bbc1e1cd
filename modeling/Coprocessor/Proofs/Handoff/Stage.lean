import Coprocessor.Proofs.Handoff.Interleaving

/-!
# The stages of a job

Whatever the two threads do, the slot goes through the stages of one job after the
other (`Stage`). `Stage.Fits` says what the slot and the places of the threads are at
each stage, and `Stage.Fits.step` that every step of a thread keeps to the order of
the stages (`Advance`). So the milestones of a run are those of complete rounds,
followed by the ones that the current job has passed (`exists_stage_of_run`).
-/

namespace Coprocessor.Handoff

variable {ι ρ : Type} {lost : ρ}

/-! ## Stages -/

/-- How far the current job is. -/
inductive Stage (ι ρ : Type) where
  /-- There is none. -/
  | vacant
  /-- It was published. -/
  | offered (job : ι)
  /-- It was claimed. -/
  | claimed (job : ι)
  /-- It was taken. -/
  | taken (job : ι)
  /-- It was executed. -/
  | executed (job : ι) (result : ρ)
  /-- Its result is in the slot. -/
  | stored (job : ι) (result : ρ)
  /-- Its result was published. -/
  | delivered (job : ι) (result : ρ)
  /-- Its result was taken out of the slot. -/
  | collected (job : ι) (result : ρ)

/-- Whether the control thread neither changes what the slot holds nor collects. -/
def Control.isQuiet : Control ι ρ → Bool
  | free | submitting _ | waiting _ | raising => true
  | _ => false

/-- Whether the control thread leaves a result that was published where it is. -/
def Control.isBeforeTaking : Control ι ρ → Bool
  | checking _ | taking _ => true
  | c => c.isQuiet

theorem Control.isBeforeTaking_of_isQuiet {c : Control ι ρ} (h : c.isQuiet = true) :
    c.isBeforeTaking = true := by
  cases c <;> first | rfl | exact h

/-- Whether the control thread is not about to collect a result. -/
def Control.isAway : Control ι ρ → Bool
  | checking _ | taking _ | freeing _ _ => false
  | _ => true

/-- The job that the control thread has put into the slot and not published yet. -/
def Control.unpublished? : Control ι ρ → Option ι
  | lowering job | publishing job => some job
  | _ => none

/-- What the slot and the places of the threads are at a stage. -/
inductive Stage.Fits : Stage ι ρ → Threads ι ρ → Prop
  | vacant (r flag) {c : Control ι ρ} {job : Option ι} (hc : c.isAway = true)
      (hjob : c.unpublished? = job) : Fits .vacant ⟨⟨.idle, job, r, flag⟩, c, .watching⟩
  | offered (job r flag) {c : Control ι ρ} (hc : c.isQuiet = true) :
      Fits (.offered job) ⟨⟨.ready, some job, r, flag⟩, c, .watching⟩
  | claimed (job r flag) {c : Control ι ρ} (hc : c.isQuiet = true) :
      Fits (.claimed job) ⟨⟨.running, some job, r, flag⟩, c, .claimed⟩
  | taken (job r flag) {c : Control ι ρ} (hc : c.isQuiet = true) :
      Fits (.taken job) ⟨⟨.running, none, r, flag⟩, c, .executing (some job)⟩
  | executed (job result r flag) {c : Control ι ρ} (hc : c.isQuiet = true) :
      Fits (.executed job result) ⟨⟨.running, none, r, flag⟩, c, .storing result⟩
  | stored (job result flag) {c : Control ι ρ} (hc : c.isQuiet = true) :
      Fits (.stored job result) ⟨⟨.running, none, some result, flag⟩, c, .delivering⟩
  | delivered (job result flag) {c : Control ι ρ} (hc : c.isBeforeTaking = true) :
      Fits (.delivered job result) ⟨⟨.done, none, some result, flag⟩, c, .watching⟩
  | collected (job result flag purpose) :
      Fits (.collected job result)
        ⟨⟨.done, none, none, flag⟩, .freeing purpose (some result), .watching⟩

/-- Whether an event is one that a job passes on its way. -/
def Event.isMilestone : Event ι ρ → Bool
  | accept _ | take _ | execute _ _ | deliver | collect _ | answer _ => true
  | _ => false

/-- The stage after an event. -/
inductive Advance : Stage ι ρ → Event ι ρ → Stage ι ρ → Prop
  | stay (g) {e : Event ι ρ} (h : e.isMilestone = false) : Advance g e g
  | accept (job) : Advance .vacant (.accept job) (.offered job)
  | claim (job) : Advance (.offered job) .claim (.claimed job)
  | take (job) : Advance (.claimed job) (.take (some job)) (.taken job)
  | execute (job result) : Advance (.taken job) (.execute job result) (.executed job result)
  | store (job result) : Advance (.executed job result) .silent (.stored job result)
  | deliver (job result) : Advance (.stored job result) .deliver (.delivered job result)
  | collect (job result) :
      Advance (.delivered job result) (.collect (some result)) (.collected job result)
  | answer (job result) : Advance (.collected job result) (.answer result) .vacant
  | drop (job result) {e : Event ι ρ} (h : e.isMilestone = false) :
      Advance (.collected job result) e .vacant

/-! ## Steps keep to the stages -/

/-- While a job waits or runs, the control thread can only look, and move the flag. -/
theorem ControlStep.of_busy {s s' : Slot ι ρ} {c c' : Control ι ρ} {e : Event ι ρ}
    (h : ControlStep lost s c e s' c') (hc : c.isQuiet = true) (hs : s.tag.isBusy = true) :
    e.isMilestone = false ∧ c'.isQuiet = true ∧ ∃ flag, s' = { s with cancelled := flag } := by
  cases h with
  | callSubmit | callWait | refuse | lookAgain | runOut | abandon =>
    exact ⟨rfl, rfl, s.cancelled, rfl⟩
  | giveUp => exact ⟨rfl, rfl, true, rfl⟩
  | findStale _ h | findFree _ h | findDone _ h => simp [h, Tag.isBusy] at hs
  | checkDone | checkGone | takeResult | release | fill | lower | accept =>
    simp [Control.isQuiet] at hc

/-- What a step does while a job waits or runs : the worker goes on, or what the slot holds
stays. -/
theorem Step.of_busy {s : Slot ι ρ} {c : Control ι ρ} {w : Worker ι ρ} {e : Event ι ρ}
    {t' : Threads ι ρ} (h : Step lost ⟨s, c, w⟩ e t') (hc : c.isQuiet = true)
    (hs : s.tag.isBusy = true) :
    (∃ s' w', WorkerStep lost s w e s' w' ∧ t' = ⟨s', c, w'⟩) ∨
      e.isMilestone = false ∧
        ∃ flag c', c'.isQuiet = true ∧ t' = ⟨{ s with cancelled := flag }, c', w⟩ := by
  cases h with
  | control w h =>
    obtain ⟨he, hc', flag, rfl⟩ := h.of_busy hc hs
    exact Or.inr ⟨he, flag, _, hc', rfl⟩
  | worker c h => exact Or.inl ⟨_, _, h, rfl⟩
  | cancel => exact Or.inr ⟨rfl, true, c, hc, rfl⟩

namespace Stage.Fits

variable {t t' : Threads ι ρ} {e : Event ι ρ}

/-- A slot without a job : the control thread may put one there and publish it. -/
theorem step_vacant (hf : Fits .vacant t) (h : Step lost t e t') :
    ∃ g, Advance .vacant e g ∧ g.Fits t' := by
  cases hf with
  | vacant r flag hc hjob =>
    cases h with
    | control w h =>
      cases h with
      | accept job =>
        cases hjob
        exact ⟨_, .accept job, .offered job r flag rfl⟩
      | callSubmit | callWait | findFree | lookAgain | runOut | abandon =>
        exact ⟨_, .stay _ rfl, .vacant r flag rfl hjob⟩
      | fill => exact ⟨_, .stay _ rfl, .vacant none flag rfl rfl⟩
      | lower => exact ⟨_, .stay _ rfl, .vacant r false rfl hjob⟩
      | giveUp => exact ⟨_, .stay _ rfl, .vacant r true rfl hjob⟩
      | refuse _ h => simp [Tag.isBusy] at h
      | findStale _ h | findDone _ h => cases h
      | checkDone | checkGone | takeResult | release => simp [Control.isAway] at hc
    | worker c h =>
      cases h with
      | claim h => simp [Slot.claim?] at h
      | watch => exact ⟨_, .stay _ rfl, .vacant r flag hc hjob⟩
    | cancel => exact ⟨_, .stay _ rfl, .vacant r true hc hjob⟩

/-- A result that was published : the control thread may take it. -/
theorem step_delivered {job : ι} {result : ρ} (hf : Fits (.delivered job result) t)
    (h : Step lost t e t') : ∃ g, Advance (.delivered job result) e g ∧ g.Fits t' := by
  cases hf with
  | delivered _ _ flag hc =>
    cases h with
    | control w h =>
      cases h with
      | takeResult p => exact ⟨_, .collect job result, .collected job result flag p⟩
      | callSubmit | callWait | findStale | checkDone | findDone =>
        exact ⟨_, .stay _ rfl, .delivered job result flag rfl⟩
      | giveUp => exact ⟨_, .stay _ rfl, .delivered job result true rfl⟩
      | refuse _ h => simp [Tag.isBusy] at h
      | findFree _ h => cases h
      | checkGone _ h | lookAgain _ h | runOut h | abandon h => exact absurd rfl h
      | release | fill | lower | accept => simp [Control.isBeforeTaking, Control.isQuiet] at hc
    | worker c h =>
      cases h with
      | claim h => simp [Slot.claim?] at h
      | watch => exact ⟨_, .stay _ rfl, .delivered job result flag hc⟩
    | cancel => exact ⟨_, .stay _ rfl, .delivered job result true hc⟩

/-- A result that was taken : the control thread makes the slot free, and returns the result
if somebody waits. -/
theorem step_collected {job : ι} {result : ρ} (hf : Fits (.collected job result) t)
    (h : Step lost t e t') : ∃ g, Advance (.collected job result) e g ∧ g.Fits t' := by
  cases hf with
  | collected _ _ flag purpose =>
    cases h with
    | control w h =>
      cases h with
      | release =>
        match purpose with
        | .submit job' => exact ⟨_, .drop job result rfl, .vacant none flag rfl rfl⟩
        | .wait false => exact ⟨_, .answer job result, .vacant none flag rfl rfl⟩
        | .wait true => exact ⟨_, .drop job result rfl, .vacant none flag rfl rfl⟩
    | worker c h =>
      cases h with
      | claim h => simp [Slot.claim?] at h
      | watch => exact ⟨_, .stay _ rfl, .collected job result flag purpose⟩
    | cancel => exact ⟨_, .stay _ rfl, .collected job result true purpose⟩

/-- Every step of a thread keeps to the order of the stages. -/
theorem step {g : Stage ι ρ} (hf : g.Fits t) (h : Step lost t e t') :
    ∃ g', Advance g e g' ∧ g'.Fits t' := by
  cases g with
  | vacant => exact hf.step_vacant h
  | delivered => exact hf.step_delivered h
  | collected => exact hf.step_collected h
  | offered job =>
    cases hf with
    | offered _ r flag hc =>
      obtain ⟨s', w', hw, rfl⟩ | ⟨he, flag', c', hc', rfl⟩ := h.of_busy hc rfl
      · cases hw with
        | claim hclaim =>
          simp only [Slot.claim?, if_true, Option.some.injEq] at hclaim
          subst hclaim
          exact ⟨_, .claim job, .claimed job r flag hc⟩
        | watch hclaim => simp [Slot.claim?] at hclaim
      · exact ⟨_, .stay _ he, .offered job r flag' hc'⟩
  | claimed job =>
    cases hf with
    | claimed _ r flag hc =>
      obtain ⟨s', w', hw, rfl⟩ | ⟨he, flag', c', hc', rfl⟩ := h.of_busy hc rfl
      · cases hw
        exact ⟨_, .take job, .taken job r flag hc⟩
      · exact ⟨_, .stay _ he, .claimed job r flag' hc'⟩
  | taken job =>
    cases hf with
    | taken _ r flag hc =>
      obtain ⟨s', w', hw, rfl⟩ | ⟨he, flag', c', hc', rfl⟩ := h.of_busy hc rfl
      · cases hw with
        | execute _ result => exact ⟨_, .execute job result, .executed job result r flag hc⟩
      · exact ⟨_, .stay _ he, .taken job r flag' hc'⟩
  | executed job result =>
    cases hf with
    | executed _ _ r flag hc =>
      obtain ⟨s', w', hw, rfl⟩ | ⟨he, flag', c', hc', rfl⟩ := h.of_busy hc rfl
      · cases hw
        exact ⟨_, .store job result, .stored job result flag hc⟩
      · exact ⟨_, .stay _ he, .executed job result r flag' hc'⟩
  | stored job result =>
    cases hf with
    | stored _ _ flag hc =>
      obtain ⟨s', w', hw, rfl⟩ | ⟨he, flag', c', hc', rfl⟩ := h.of_busy hc rfl
      · cases hw
        exact ⟨_, .deliver job result,
          .delivered job result flag (Control.isBeforeTaking_of_isQuiet hc)⟩
      · exact ⟨_, .stay _ he, .stored job result flag' hc'⟩

end Stage.Fits

/-! ## Rounds -/

/-- The milestones that the current job has passed. -/
def Stage.milestones : Stage ι ρ → List (Event ι ρ)
  | vacant => []
  | offered job | claimed job => [.accept job]
  | taken job => [.accept job, .take (some job)]
  | executed job result | stored job result =>
    [.accept job, .take (some job), .execute job result]
  | delivered job result => [.accept job, .take (some job), .execute job result, .deliver]
  | collected job result =>
    [.accept job, .take (some job), .execute job result, .deliver, .collect (some result)]

/-- The milestones of complete rounds, whether or not their results were returned. -/
inductive Rounds : List (Event ι ρ) → Prop
  | nil : Rounds []
  | dropped {past} (h : Rounds past) (job : ι) (result : ρ) :
      Rounds (past ++ (Stage.collected job result).milestones)
  | answered {past} (h : Rounds past) (job : ι) (result : ρ) :
      Rounds (past ++ ((Stage.collected job result).milestones ++ [.answer result]))

/-- An event adds its milestone to the current round, or ends the round. -/
theorem Advance.rounds {g g' : Stage ι ρ} {e : Event ι ρ} {past : List (Event ι ρ)}
    (h : Advance g e g') (hp : Rounds past) : ∃ past', Rounds past' ∧
      past ++ g.milestones ++ [e].filter Event.isMilestone = past' ++ g'.milestones := by
  cases h with
  | stay g he => exact ⟨past, hp, by simp [he]⟩
  | drop job result he => exact ⟨_, hp.dropped job result, by simp [he, Stage.milestones]⟩
  | answer job result =>
    exact ⟨_, hp.answered job result, by simp [Event.isMilestone, Stage.milestones]⟩
  | accept | claim | take | execute | store | deliver | collect =>
    exact ⟨past, hp, by simp [Event.isMilestone, Stage.milestones]⟩

/-- At the end of a run the slot and the threads are at a stage of some job, and the
milestones of the run are those of complete rounds and of that stage. -/
theorem exists_stage_of_run {events : List (Event ι ρ)} {t : Threads ι ρ}
    (h : Run lost events t) : ∃ g past, Stage.Fits g t ∧ Rounds past ∧
      events.filter Event.isMilestone = past ++ g.milestones := by
  induction h with
  | start => exact ⟨.vacant, [], .vacant none false rfl rfl, .nil, rfl⟩
  | step _ hs ih =>
    obtain ⟨g, past, hf, hp, hm⟩ := ih
    obtain ⟨g', ha, hf'⟩ := hf.step hs
    obtain ⟨past', hp', hm'⟩ := ha.rounds hp
    exact ⟨g', past', hf', hp', by rw [List.filter_append, hm, hm']⟩

end Coprocessor.Handoff
