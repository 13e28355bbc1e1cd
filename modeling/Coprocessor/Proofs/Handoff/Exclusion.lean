import Coprocessor.Proofs.Handoff.Stage

/-!
# One job at a time

However the two threads interleave, their runs are orderly (`Orderly`) : at most one
job is on its way, a job stays in the slot until the worker takes it, nobody finds
nothing where something should be, and a wait returns the result of the last job that
was accepted, once. The tag shows a result a little longer than the slot holds it : the
control thread takes the result out, and then shows that the slot is free.

All of it is read off the stage that the slot is at (`exists_stage_of_run`) : the
milestones since the last acceptance are those of the current round, or of the round
before it.
-/

namespace Coprocessor.Handoff

variable {ι ρ : Type} {lost : ρ} {events since since' : List (Event ι ρ)} {t t' : Threads ι ρ}
  {job job' : ι}

/-- Whether a job was accepted. -/
def Event.isAccept : Event ι ρ → Bool
  | accept _ => true
  | _ => false

/-- Whether a result was published. -/
def Event.isDeliver : Event ι ρ → Bool
  | deliver => true
  | _ => false

/-! ## What leads to an event -/

/-- What is so when a step is told of by an event. -/
def Event.Cause (lost : ρ) (t t' : Threads ι ρ) : Event ι ρ → Prop
  | refuse job =>
    t.control = .submitting job ∧ t.slot.tag.isBusy = true ∧ t' = { t with control := .free }
  | accept job => t.control = .publishing job
  | answer result => (∃ p, t.control = .checking p ∧ t.slot.tag ≠ .done) ∨
    ∃ p found, t.control = .freeing p found ∧ result = found.getD lost
  | take found => t.worker = .claimed ∧ t.slot.job = found
  | execute job _ => t.worker = .executing (some job)
  | _ => True

/-- Every event has its cause. -/
theorem Step.cause {e : Event ι ρ} (h : Step lost t e t') : e.Cause lost t t' := by
  cases h with
  | cancel => trivial
  | worker c h =>
    cases h with
    | takeJob => exact ⟨rfl, rfl⟩
    | execute => exact rfl
    | claim | watch | miss | putResult | deliver => trivial
  | control w h =>
    cases h with
    | refuse job hb => exact ⟨rfl, hb, rfl⟩
    | accept => exact rfl
    | checkGone p hd =>
      match p with
      | .submit _ | .wait true => trivial
      | .wait false => exact Or.inl ⟨_, rfl, hd⟩
    | release p found =>
      match p with
      | .submit _ | .wait true => trivial
      | .wait false => exact Or.inr ⟨_, found, rfl, rfl⟩
    | callSubmit | callWait | findStale | findFree | checkDone | takeResult | fill | lower
    | findDone | lookAgain | runOut | giveUp | abandon => trivial

/-- A call that submits a job begins without a change of the slot. -/
theorem Step.slot_of_submitting {e : Event ι ρ} (h : Step lost t e t')
    (hc : t.control ≠ .submitting job) (hc' : t'.control = .submitting job) :
    t'.slot = t.slot := by
  cases h with
  | worker | cancel => exact absurd hc' hc
  | control w h =>
    cases h with
    | callSubmit => rfl
    | checkGone p | release p =>
      match p with
      | .submit _ | .wait false | .wait true => cases hc'
    | callWait | refuse | findStale | findFree | checkDone | takeResult | fill | lower | accept
    | findDone | lookAgain | runOut | giveUp | abandon => cases hc'

/-! ## The last job -/

/-- A run has one last job. -/
theorem Latest.unique (h : Latest events job since) (h' : Latest events job' since') :
    job = job' ∧ since = since' := by
  obtain ⟨⟨before, hb⟩, hs⟩ := h
  obtain ⟨⟨before', hb'⟩, hs'⟩ := h'
  rw [hb] at hb'
  rcases List.append_eq_append_iff.mp hb' with ⟨l, -, hl⟩ | ⟨l, -, hl⟩
  · cases l with
    | nil => simpa using hl
    | cons x l =>
      obtain ⟨-, rfl⟩ := List.cons.inj hl
      exact absurd (by simp) (hs job')
  · cases l with
    | nil => simpa [eq_comm] using hl
    | cons x l =>
      obtain ⟨-, rfl⟩ := List.cons.inj hl
      exact absurd (by simp) (hs' job)

/-- The last job is found among the milestones. -/
theorem exists_latest_of_filter {past rest : List (Event ι ρ)}
    (h : events.filter Event.isMilestone = past ++ .accept job :: rest)
    (hr : ∀ other, .accept other ∉ rest) :
    ∃ since, Latest events job since ∧ since.filter Event.isMilestone = rest := by
  obtain ⟨l, l', rfl, -, hl'⟩ := List.filter_eq_append_iff.mp h
  obtain ⟨m, since, rfl, -, -, hs⟩ := List.filter_eq_cons_iff.mp hl'
  refine ⟨since, ⟨⟨l ++ m, by simp⟩, fun other ho => hr other ?_⟩, hs⟩
  rw [← hs]
  exact List.mem_filter.mpr ⟨ho, rfl⟩

/-- A milestone has happened if it is among the milestones. -/
theorem mem_iff_of_filter {rest : List (Event ι ρ)} {e : Event ι ρ}
    (h : since.filter Event.isMilestone = rest) (he : e.isMilestone = true) :
    e ∈ since ↔ e ∈ rest := by
  rw [← h, List.mem_filter, and_iff_left he]

/-- After complete rounds the last job was taken, and its result was published. -/
theorem Rounds.delivered (h : Rounds (events.filter Event.isMilestone))
    (hl : Latest events job since) : .take (some job) ∈ since ∧ .deliver ∈ since := by
  generalize hm : events.filter Event.isMilestone = milestones at h
  cases h with
  | nil =>
    obtain ⟨⟨before, rfl⟩, -⟩ := hl
    simp [Event.isMilestone] at hm
  | dropped _ job' result =>
    obtain ⟨s, hl', hs⟩ := exists_latest_of_filter hm (by simp)
    obtain ⟨rfl, rfl⟩ := hl.unique hl'
    constructor <;> rw [mem_iff_of_filter hs rfl] <;> simp
  | answered _ job' result =>
    obtain ⟨s, hl', hs⟩ := exists_latest_of_filter hm (by simp)
    obtain ⟨rfl, rfl⟩ := hl.unique hl'
    constructor <;> rw [mem_iff_of_filter hs rfl] <;> simp

/-! ## Counts -/

/-- In complete rounds as many results were published as jobs were accepted. -/
theorem Rounds.countP {past : List (Event ι ρ)} (h : Rounds past) :
    past.countP Event.isAccept = past.countP Event.isDeliver := by
  induction h with
  | nil => rfl
  | dropped _ _ _ ih | answered _ _ _ ih =>
    simp [ih, Stage.milestones, List.countP_cons, Event.isAccept, Event.isDeliver]

/-- At a stage one job at most was accepted, and its result published at most once. -/
theorem Stage.countP_milestones (g : Stage ι ρ) :
    g.milestones.countP Event.isDeliver ≤ g.milestones.countP Event.isAccept ∧
      g.milestones.countP Event.isAccept ≤ g.milestones.countP Event.isDeliver + 1 := by
  cases g <;> simp [Stage.milestones, List.countP_cons, Event.isAccept, Event.isDeliver]

/-- What milestones count is counted among the milestones. -/
theorem countP_eq_countP_filter {p : Event ι ρ → Bool}
    (h : ∀ e, p e = true → e.isMilestone = true) (events : List (Event ι ρ)) :
    events.countP p = (events.filter Event.isMilestone).countP p := by
  rw [List.countP_filter]
  congr 1
  ext e
  cases hp : p e with
  | false => rfl
  | true => simp [h e hp]

/-! ## What a run comes to -/

/-- The state of the slot and of the threads, and what their next step can be, at the end
of a run. -/
structure Orderly (lost : ρ) (events : List (Event ι ρ)) (t : Threads ι ρ) : Prop where
  /-- One job at most was accepted whose result is not published. -/
  one_on_its_way : events.countP Event.isDeliver ≤ events.countP Event.isAccept ∧
    events.countP Event.isAccept ≤ events.countP Event.isDeliver + 1
  /-- What is about to be refused has left the slot as it was, and refusing it does so too;
  there is another job, and its result is not published. -/
  refused : ∀ {job t'}, Step lost t (.refuse job) t' →
    t.control = .submitting job ∧ t' = { t with control := .free } ∧
      ∃ other since, Latest events other since ∧ .deliver ∉ since
  /-- A call that submits a job begins without a change of the slot. -/
  submitted : ∀ {e job t'}, Step lost t e t' → t.control ≠ .submitting job →
    t'.control = .submitting job → t'.slot = t.slot
  /-- The last job is in the slot until it is taken. -/
  kept : ∀ {job since}, Latest events job since → (∀ found, .take found ∉ since) →
    t.slot.job = some job
  /-- What is taken is the last job, for the first time. -/
  taken : ∀ {found t'}, Step lost t (.take found) t' →
    ∃ job since, found = some job ∧ Latest events job since ∧ ∀ other, .take other ∉ since
  /-- What is executed is the last job, after it was taken and for the first time. -/
  executed : ∀ {job result t'}, Step lost t (.execute job result) t' →
    ∃ since, Latest events job since ∧ .take (some job) ∈ since ∧
      ∀ other result, .execute other result ∉ since
  /-- The next job is accepted after the last one was taken and its result published. -/
  accepted : ∀ {job since next t'}, Latest events job since → Step lost t (.accept next) t' →
    .take (some job) ∈ since ∧ .deliver ∈ since
  /-- Where the tag shows a result the slot holds one, or the control thread has taken it out and
  has it in its hand, and the next that this thread does is to show that the slot is free. -/
  done : t.slot.tag = .done → (∃ result, t.slot.result = some result) ∨
    ∃ p result, t.control = .freeing p (some result) ∧
      ∀ {e s' c'}, ControlStep lost t.slot t.control e s' c' → s' = t.slot.publish .idle
  /-- Where the worker has claimed a job the slot holds one. -/
  claimed : t.worker = .claimed → ∃ job, t.slot.job = some job
  /-- The worker always found a job. -/
  found_job : t.worker ≠ .executing none
  /-- The tag shows a result whenever the control thread looks again. -/
  checked : ∀ {p}, t.control = .checking p → t.slot.tag = .done
  /-- The control thread always found a result. -/
  found_result : ∀ {p}, t.control ≠ .freeing p none
  /-- What a wait returns is the result of executing the last job, for the first time. -/
  answered : ∀ {result t'}, Step lost t (.answer result) t' →
    ∃ job since, Latest events job since ∧ .execute job result ∈ since ∧
      ∀ other, .answer other ∉ since

/-- One job at most is on its way. -/
theorem Run.countP_le (h : Run lost events t) :
    events.countP Event.isDeliver ≤ events.countP Event.isAccept ∧
      events.countP Event.isAccept ≤ events.countP Event.isDeliver + 1 := by
  obtain ⟨g, past, -, hp, hm⟩ := exists_stage_of_run h
  have ha : ∀ e : Event ι ρ, e.isAccept = true → e.isMilestone = true := by
    rintro ⟨⟩ <;> simp [Event.isAccept, Event.isMilestone]
  have hd : ∀ e : Event ι ρ, e.isDeliver = true → e.isMilestone = true := by
    rintro ⟨⟩ <;> simp [Event.isDeliver, Event.isMilestone]
  rw [countP_eq_countP_filter ha, countP_eq_countP_filter hd, hm, List.countP_append,
    List.countP_append, hp.countP]
  have := g.countP_milestones
  omega

/-- While a job waits or runs, its result is not published. -/
theorem Run.exists_latest_of_busy (h : Run lost events t) (hb : t.slot.tag.isBusy = true) :
    ∃ job since, Latest events job since ∧ .deliver ∉ since := by
  obtain ⟨g, past, hf, -, hm⟩ := exists_stage_of_run h
  cases hf with
  | vacant | delivered | collected => simp [Tag.isBusy] at hb
  | offered job | claimed job | taken job | executed job | stored job =>
    obtain ⟨since, hl, hs⟩ := exists_latest_of_filter hm (by simp)
    exact ⟨job, since, hl, by rw [mem_iff_of_filter hs rfl]; simp⟩

/-- The last job is in the slot until it is taken. -/
theorem Run.job_of_latest (h : Run lost events t) (hl : Latest events job since)
    (ht : ∀ found, .take found ∉ since) : t.slot.job = some job := by
  obtain ⟨g, past, hf, hp, hm⟩ := exists_stage_of_run h
  cases hf with
  | vacant =>
    rw [Stage.milestones, List.append_nil] at hm
    exact absurd (Rounds.delivered (hm ▸ hp) hl).1 (ht _)
  | offered | claimed =>
    obtain ⟨s, hl', -⟩ := exists_latest_of_filter hm (by simp)
    obtain ⟨rfl, -⟩ := hl.unique hl'
    rfl
  | taken job | executed job | stored job | delivered job | collected job =>
    obtain ⟨s, hl', hs⟩ := exists_latest_of_filter hm (by simp)
    obtain ⟨rfl, rfl⟩ := hl.unique hl'
    exact absurd ((mem_iff_of_filter hs rfl).mpr (by simp)) (ht (some job))

/-- The worker takes the last job, for the first time. -/
theorem Run.latest_of_claimed (h : Run lost events t) (hw : t.worker = .claimed) :
    ∃ job since, t.slot.job = some job ∧ Latest events job since ∧
      ∀ other, .take other ∉ since := by
  obtain ⟨g, past, hf, -, hm⟩ := exists_stage_of_run h
  cases hf with
  | vacant | offered | taken | executed | stored | delivered | collected => cases hw
  | claimed job =>
    obtain ⟨since, hl, hs⟩ := exists_latest_of_filter hm (by simp)
    exact ⟨job, since, rfl, hl, fun other => by rw [mem_iff_of_filter hs rfl]; simp⟩

/-- The worker executes the last job, for the first time. -/
theorem Run.latest_of_executing (h : Run lost events t) {found : Option ι}
    (hw : t.worker = .executing found) :
    ∃ job since, found = some job ∧ Latest events job since ∧ .take (some job) ∈ since ∧
      ∀ other result, .execute other result ∉ since := by
  obtain ⟨g, past, hf, -, hm⟩ := exists_stage_of_run h
  cases hf with
  | vacant | offered | claimed | executed | stored | delivered | collected => cases hw
  | taken job =>
    cases hw
    obtain ⟨since, hl, hs⟩ := exists_latest_of_filter hm (by simp)
    refine ⟨job, since, rfl, hl, (mem_iff_of_filter hs rfl).mpr (by simp), ?_⟩
    exact fun other result => by rw [mem_iff_of_filter hs rfl]; simp

/-- The control thread publishes a job after the last one was taken and its result
published. -/
theorem Run.delivered_of_publishing (h : Run lost events t) (hl : Latest events job since)
    (hc : t.control = .publishing job') : .take (some job) ∈ since ∧ .deliver ∈ since := by
  obtain ⟨g, past, hf, hp, hm⟩ := exists_stage_of_run h
  cases hf with
  | vacant =>
    rw [Stage.milestones, List.append_nil] at hm
    exact Rounds.delivered (hm ▸ hp) hl
  | offered _ _ _ hq | claimed _ _ _ hq | taken _ _ _ hq | executed _ _ _ _ hq
  | stored _ _ _ hq | delivered _ _ _ hq =>
    subst hc
    simp [Control.isBeforeTaking, Control.isQuiet] at hq
  | collected => cases hc

/-- What the control thread has in its hand is the result of the last job, and no wait has
returned it. -/
theorem Run.latest_of_freeing (h : Run lost events t) {p : Purpose ι} {found : Option ρ}
    (hc : t.control = .freeing p found) :
    ∃ job result since, found = some result ∧ Latest events job since ∧
      .execute job result ∈ since ∧ ∀ other, .answer other ∉ since := by
  obtain ⟨g, past, hf, -, hm⟩ := exists_stage_of_run h
  cases hf with
  | vacant _ _ hq | offered _ _ _ hq | claimed _ _ _ hq | taken _ _ _ hq | executed _ _ _ _ hq
  | stored _ _ _ hq | delivered _ _ _ hq =>
    subst hc
    simp [Control.isAway, Control.isBeforeTaking, Control.isQuiet] at hq
  | collected job result =>
    cases hc
    obtain ⟨since, hl, hs⟩ := exists_latest_of_filter hm (by simp)
    refine ⟨job, result, since, rfl, hl, (mem_iff_of_filter hs rfl).mpr (by simp), ?_⟩
    exact fun other => by rw [mem_iff_of_filter hs rfl]; simp

/-- What the control thread does with a result in its hand is to show that the slot is free. -/
theorem ControlStep.eq_publish {s s' : Slot ι ρ} {c' : Control ι ρ} {e : Event ι ρ}
    {p : Purpose ι} {found : Option ρ} (h : ControlStep lost s (.freeing p found) e s' c') :
    s' = s.publish .idle := by
  cases h
  rfl

/-- Where the tag shows a result, it is in the slot or in the hand of the control thread. -/
theorem Run.result_of_done (h : Run lost events t) (hd : t.slot.tag = .done) :
    (∃ result, t.slot.result = some result) ∨ ∃ p result, t.control = .freeing p (some result) ∧
      ∀ {e s' c'}, ControlStep lost t.slot t.control e s' c' → s' = t.slot.publish .idle := by
  obtain ⟨g, past, hf, -, -⟩ := exists_stage_of_run h
  cases hf with
  | vacant | offered | claimed | taken | executed | stored => cases hd
  | delivered job result => exact Or.inl ⟨result, rfl⟩
  | collected job result _ p => exact Or.inr ⟨p, result, rfl, ControlStep.eq_publish⟩

/-- The tag shows a result whenever the control thread looks again. -/
theorem Run.done_of_checking (h : Run lost events t) {p : Purpose ι}
    (hc : t.control = .checking p) : t.slot.tag = .done := by
  obtain ⟨g, past, hf, -, -⟩ := exists_stage_of_run h
  cases hf with
  | delivered => rfl
  | collected => cases hc
  | vacant _ _ hq | offered _ _ _ hq | claimed _ _ _ hq | taken _ _ _ hq | executed _ _ _ _ hq
  | stored _ _ _ hq =>
    subst hc
    simp [Control.isAway, Control.isQuiet] at hq

/-- However the two threads interleave, and whenever the flag is raised, a run is orderly. -/
theorem Run.orderly (h : Run lost events t) : Orderly lost events t where
  one_on_its_way := h.countP_le
  refused hs := by
    obtain ⟨hc, hb, ht⟩ := hs.cause
    exact ⟨hc, ht, h.exists_latest_of_busy hb⟩
  submitted := Step.slot_of_submitting
  kept := h.job_of_latest
  taken hs := by
    obtain ⟨hw, rfl⟩ := hs.cause
    exact h.latest_of_claimed hw
  executed hs := by
    obtain ⟨job, since, hj, hl, ht⟩ := h.latest_of_executing hs.cause
    cases hj
    exact ⟨since, hl, ht⟩
  accepted hl hs := h.delivered_of_publishing hl hs.cause
  done := h.result_of_done
  claimed hw := by
    obtain ⟨job, since, hj, -⟩ := h.latest_of_claimed hw
    exact ⟨job, hj⟩
  found_job hw := by
    obtain ⟨job, since, hj, -⟩ := h.latest_of_executing hw
    cases hj
  checked := h.done_of_checking
  found_result hc := by
    obtain ⟨job, result, since, hr, -⟩ := h.latest_of_freeing hc
    cases hr
  answered hs := by
    rcases hs.cause with ⟨p, hc, hd⟩ | ⟨p, found, hc, rfl⟩
    · exact absurd (h.done_of_checking hc) hd
    · obtain ⟨job, result, since, rfl, hl, he, ha⟩ := h.latest_of_freeing hc
      exact ⟨job, since, hl, he, ha⟩

/-- The tag can show a result that the slot does not hold : a job is submitted, executed and waited
for, and the control thread has taken the result and not yet shown that the slot is free. -/
theorem done_without_result :
    let events : List (Event Nat Nat) :=
      [.silent, .silent, .silent, .lower, .accept 7, .claim, .take (some 7), .execute 7 49,
        .silent, .deliver, .silent, .silent, .silent, .collect (some 49)]
    let t : Threads Nat Nat :=
      ⟨⟨.done, none, none, false⟩, .freeing (.wait false) (some 49), .watching⟩
    Run 0 events t ∧ t.slot.tag = .done ∧ ¬∃ result, t.slot.result = some result := by
  intro events t
  have empty : Run 0 [] ⟨(.empty : Slot Nat Nat), .free, .watching⟩ := .start
  have called := empty.step (.control _ (.callSubmit _ 7))
  have filled := (called.step (.control _ (.findFree _ _ rfl))).step (.control _ (.fill _ _))
  have offered := (filled.step (.control _ (.lower _ _))).step (.control _ (.accept _ _))
  have taken := (offered.step (.worker _ (.claim rfl))).step (.worker _ (.takeJob _))
  have stored := (taken.step (.worker _ (.execute _ _ 49))).step (.worker _ (.putResult _ _))
  have waiting := (stored.step (.worker _ (.deliver _))).step (.control _ (.callWait _))
  have checked := (waiting.step (.control _ (.findDone _ _ rfl))).step
    (.control _ (.checkDone _ _ rfl))
  exact ⟨checked.step (.control _ (.takeResult _ _)), rfl, nofun⟩

/-- There is a run in which a wait for `job` gives up, `job'` is refused meanwhile, the
worker ends `job`, and `job'` is submitted again, executed and waited for. -/
theorem exists_run_of_late (job job' : ι) (result result' : ρ) :
    ∃ events, (.accept job ∈ events ∧ .giveUp ∈ events ∧ .refuse job' ∈ events) ∧ Run lost events
      ⟨⟨.done, none, none, false⟩, .freeing (.wait false) (some result'), .watching⟩ := by
  have empty : Run lost [] ⟨(.empty : Slot ι ρ), .free, .watching⟩ := .start
  have called := empty.step (.control _ (.callSubmit _ job))
  have filled := (called.step (.control _ (.findFree _ _ rfl))).step (.control _ (.fill _ _))
  have offered := (filled.step (.control _ (.lower _ _))).step (.control _ (.accept _ _))
  have taken := (offered.step (.worker _ (.claim rfl))).step (.worker _ (.takeJob _))
  have waiting := taken.step (.control _ (.callWait _))
  have raised := (waiting.step (.control _ (.runOut _ nofun))).step (.control _ (.giveUp _))
  have late := raised.step (.control _ (.abandon _ nofun))
  have refused := (late.step (.control _ (.callSubmit _ job'))).step (.control _ (.refuse _ _ rfl))
  have stored := (refused.step (.worker _ (.execute _ _ result))).step (.worker _ (.putResult _ _))
  have stale := (stored.step (.worker _ (.deliver _))).step (.control _ (.callSubmit _ job'))
  have checked := (stale.step (.control _ (.findStale _ _ rfl))).step
    (.control _ (.checkDone _ _ rfl))
  have dropped := (checked.step (.control _ (.takeResult _ _))).step (.control _ (.release _ _ _))
  have lowered := (dropped.step (.control _ (.fill _ _))).step (.control _ (.lower _ _))
  have offered' := lowered.step (.control _ (.accept _ _))
  have taken' := (offered'.step (.worker _ (.claim rfl))).step (.worker _ (.takeJob _))
  have stored' := (taken'.step (.worker _ (.execute _ _ result'))).step (.worker _ (.putResult _ _))
  have waiting' := (stored'.step (.worker _ (.deliver _))).step (.control _ (.callWait _))
  have checked' := (waiting'.step (.control _ (.findDone _ _ rfl))).step
    (.control _ (.checkDone _ _ rfl))
  exact ⟨_, by simp, checked'.step (.control _ (.takeResult _ _))⟩

/-- When the wait for a late job has given up, and the next job was executed with the result
`64`, the wait for it can only return that. -/
theorem answer_of_late : ∃ events t, Run (ι := Nat) 0 events t ∧ Orderly 0 events t ∧
    (∃ t', Step 0 t (.answer 64) t') ∧ ∀ result t', Step 0 t (.answer result) t' → result = 64 := by
  obtain ⟨events, -, h⟩ : ∃ events, _ ∧ Run 0 events _ := exists_run_of_late 7 8 49 64
  refine ⟨events, _, h, h.orderly, ⟨_, .control _ (.release _ _ _)⟩, ?_⟩
  intro result t' hs
  obtain ⟨p, hc, -⟩ | ⟨p, found, hc, rfl⟩ := hs.cause
  · cases hc
  · cases hc
    rfl

end Coprocessor.Handoff
