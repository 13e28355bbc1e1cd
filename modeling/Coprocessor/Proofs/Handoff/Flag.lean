import Coprocessor.Proofs.Handoff.Exclusion
import Mathlib.Data.List.Induction

/-!
# The flag belongs to the last job

One flag serves all jobs. Its value is told by the events alone (`Run.cancelled_eq`) : it is
up if it was raised since it was lowered last. The control thread lowers it for a job that it
is about to publish, when the slot is free, and does nothing else until the job is published
(`Run.exists_lower_of_publishing`). While a job waits or runs the flag is not lowered
(`Step.keeps_of_busy`). So it is then up exactly if it was raised since it was lowered for that
job (`Run.exists_cleared_of_busy`), and once a wait has given up on the job it stays up until
the result is published (`Run.raised_of_giveUp`).
-/

namespace Coprocessor.Handoff

variable {ι ρ : Type} {lost : ρ} {events since : List (Event ι ρ)} {t t' : Threads ι ρ}
  {e : Event ι ρ} {job : ι}

/-! ## What moves the flag -/

/-- Whether the flag is up after an event. -/
def Event.flag (up : Bool) : Event ι ρ → Bool
  | lower => false
  | giveUp | cancel => true
  | _ => up

theorem Slot.eq_of_claim? {s s' : Slot ι ρ} (h : s.claim? = some s') :
    s.tag = .ready ∧ s' = s.publish .running := by
  unfold claim? at h
  split at h
  case isTrue htag => exact ⟨htag, (Option.some.inj h).symm⟩
  case isFalse => cases h

theorem Event.flag_true (h : e ≠ .lower) : e.flag true = true := by
  cases e with
  | lower => exact absurd rfl h
  | _ => rfl

theorem Event.flag_of_purpose (up : Bool) (found : Option ρ) (p : Purpose ι) :
    (p.next lost found).1.flag up = up := by
  match p with
  | .submit _ | .wait false | .wait true => rfl

/-- What a step makes of the flag can be told from its event. -/
theorem Step.cancelled_eq (h : Step lost t e t') :
    t'.slot.cancelled = e.flag t.slot.cancelled := by
  cases h with
  | cancel => rfl
  | worker c h =>
    cases h with
    | claim h =>
      obtain ⟨-, rfl⟩ := Slot.eq_of_claim? h
      rfl
    | watch | takeJob | execute | miss | putResult | deliver => rfl
  | control w h =>
    cases h with
    | checkGone p | release p => exact (Event.flag_of_purpose _ _ p).symm
    | callSubmit | callWait | refuse | findStale | findFree | checkDone | takeResult | fill | lower
    | accept | findDone | lookAgain | runOut | giveUp | abandon => rfl

/-- The flag is as the last event that moved it has left it. -/
theorem Run.cancelled_eq (h : Run lost events t) :
    t.slot.cancelled = events.foldl Event.flag false := by
  induction h with
  | start => rfl
  | step _ last ih => rw [last.cancelled_eq, ih, List.foldl_append, List.foldl_cons, List.foldl_nil]

/-- Where the flag is not lowered it is up if it was, or was raised. -/
theorem foldl_flag_eq_true_iff (h : .lower ∉ events) (up : Bool) :
    events.foldl Event.flag up = true ↔ up = true ∨ .cancel ∈ events ∨ .giveUp ∈ events := by
  induction events generalizing up with
  | nil => simp
  | cons e events ih =>
    rw [List.mem_cons, not_or] at h
    rw [List.foldl_cons, ih h.2]
    cases e with
    | lower => exact absurd rfl h.1
    | _ => simp [Event.flag]

/-! ## When it is lowered -/

/-- The flag is lowered by a control thread that has put a job into the slot and publishes it
next. -/
theorem Step.exists_of_lower (h : Step lost t e t') (he : e = .lower) :
    ∃ job, t.control = .lowering job := by
  cases h with
  | cancel => cases he
  | worker c h => cases h <;> cases he
  | control w h =>
    cases h with
    | lower job => exact ⟨job, rfl⟩
    | checkGone p | release p =>
      match p with
      | .submit _ | .wait false | .wait true => cases he
    | callSubmit | callWait | refuse | findStale | findFree | checkDone | takeResult | fill
    | accept | findDone | lookAgain | runOut | giveUp | abandon => cases he

/-- While a job waits or runs the control thread only looks, and raises the flag. -/
theorem Run.isQuiet_of_busy (h : Run lost events t) (hb : t.slot.tag.isBusy = true) :
    t.control.isQuiet = true := by
  obtain ⟨g, past, hf, -, -⟩ := exists_stage_of_run h
  cases hf with
  | vacant | delivered | collected => cases hb
  | offered _ _ _ hc | claimed _ _ _ hc | taken _ _ _ hc | executed _ _ _ _ hc
  | stored _ _ _ hc => exact hc

/-- While a job waits or runs the flag is not lowered, and no other job is accepted. -/
theorem Step.keeps_of_busy (hs : Step lost t e t') (h : Run lost events t)
    (hb : t.slot.tag.isBusy = true) : e ≠ .lower ∧ ∀ other, e ≠ .accept other := by
  have hquiet := h.isQuiet_of_busy hb
  constructor
  · intro he
    obtain ⟨job, hc⟩ := hs.exists_of_lower he
    simp [hc, Control.isQuiet] at hquiet
  · rintro other rfl
    have hc : t.control = .publishing other := hs.cause
    simp [hc, Control.isQuiet] at hquiet

/-- When a job is about to be published the slot is free, and the worker finds nothing. -/
theorem Run.free_of_publishing (h : Run lost events t) (hc : t.control = .publishing job) :
    t.slot.tag = .idle ∧ t.worker = .watching := by
  obtain ⟨g, past, hf, -, -⟩ := exists_stage_of_run h
  cases hf with
  | vacant => exact ⟨rfl, rfl⟩
  | collected => cases hc
  | offered _ _ _ hq | claimed _ _ _ hq | taken _ _ _ hq | executed _ _ _ _ hq
  | stored _ _ _ hq | delivered _ _ _ hq =>
    subst hc
    simp [Control.isBeforeTaking, Control.isQuiet] at hq

/-- The control thread comes to publish a job by lowering the flag. Otherwise it was there
before, and the worker has looked in vain or the flag was raised. -/
theorem Step.of_publishing (hs : Step lost t e t') (h : Run lost events t)
    (hc : t'.control = .publishing job) :
    e = .lower ∨ t.control = .publishing job ∧ (e = .silent ∨ e = .cancel) := by
  cases hs with
  | cancel => exact .inr ⟨hc, .inr rfl⟩
  | worker c hw =>
    obtain ⟨htag, hworker⟩ := h.free_of_publishing hc
    dsimp only at htag hworker
    subst hworker
    cases hw with
    | claim hclaim => simp [Slot.claim?, htag] at hclaim
    | watch => exact .inr ⟨hc, .inl rfl⟩
  | control w hs =>
    cases hs with
    | lower => exact .inl rfl
    | checkGone p | release p =>
      cases p with
      | submit => cases hc
      | wait late => cases late <;> cases hc
    | callSubmit | callWait | refuse | findStale | findFree | checkDone | takeResult | fill
    | accept | findDone | lookAgain | runOut | giveUp | abandon => cases hc

/-- The flag was lowered just before a job is published, and only calls for it have come
since. -/
theorem Run.exists_lower_of_publishing (h : Run lost events t)
    (hc : t.control = .publishing job) : ∃ before pause, events = before ++ .lower :: pause ∧
      ∀ e ∈ pause, e = .silent ∨ e = .cancel := by
  induction h with
  | start => cases hc
  | @step events t e t' hr last ih =>
    rcases last.of_publishing hr hc with rfl | ⟨hc', he⟩
    · exact ⟨events, [], rfl, nofun⟩
    · obtain ⟨before, pause, rfl, hp⟩ := ih hc'
      refine ⟨before, pause ++ [e], by simp, fun e' he' => ?_⟩
      rcases List.mem_append.mp he' with he' | he'
      · exact hp e' he'
      · rw [List.mem_singleton.mp he']
        exact he

/-! ## The flag while a job waits or runs -/

/-- The flag was lowered to submit the last job. Until the job was accepted the control thread
did nothing else, and `since` are the events after that. -/
structure Cleared (events : List (Event ι ρ)) (job : ι) (pause since : List (Event ι ρ)) :
    Prop where
  /-- The flag was lowered, and then the job was accepted. -/
  events_eq : ∃ before, events = before ++ .lower :: (pause ++ .accept job :: since)
  /-- Between the two the flag was raised at most. -/
  pause : ∀ e ∈ pause, e = .silent ∨ e = .cancel
  /-- No other job was accepted. -/
  since : ∀ other, .accept other ∉ since

variable {pause : List (Event ι ρ)}

theorem Cleared.latest (h : Cleared events job pause since) : Latest events job since := by
  obtain ⟨before, rfl⟩ := h.events_eq
  exact ⟨⟨before ++ .lower :: pause, by simp⟩, h.since⟩

theorem Cleared.concat (h : Cleared events job pause since) (he : ∀ other, e ≠ .accept other) :
    Cleared (events ++ [e]) job pause (since ++ [e]) where
  events_eq := by
    obtain ⟨before, rfl⟩ := h.events_eq
    exact ⟨before, by simp⟩
  pause := h.pause
  since other ho := by
    rcases List.mem_append.mp ho with ho | ho
    · exact h.since other ho
    · exact he other (List.mem_singleton.mp ho).symm

/-- A slot becomes busy when a job is accepted. -/
theorem Step.exists_accept_of_busy (hs : Step lost t e t') (hb : t.slot.tag.isBusy = false)
    (hb' : t'.slot.tag.isBusy = true) :
    ∃ job, e = .accept job ∧ t.control = .publishing job := by
  cases hs with
  | cancel => simp [Slot.raise, hb] at hb'
  | worker c hw =>
    cases hw with
    | claim hclaim =>
      obtain ⟨htag, -⟩ := Slot.eq_of_claim? hclaim
      simp [htag, Tag.isBusy] at hb
    | watch | execute | miss => simp [hb] at hb'
    | takeJob => simp [Slot.takeJob, hb] at hb'
    | putResult => simp [Slot.putResult, hb] at hb'
    | deliver => cases hb'
  | control w hs =>
    cases hs with
    | accept job => exact ⟨job, rfl, rfl⟩
    | release => cases hb'
    | takeResult => simp [Slot.takeResult, hb] at hb'
    | fill => simp [Slot.fill, hb] at hb'
    | lower => simp [Slot.lower, hb] at hb'
    | giveUp => simp [Slot.raise, hb] at hb'
    | callSubmit | callWait | refuse | findStale | findFree | checkDone | checkGone | findDone
    | lookAgain | runOut | abandon => simp [hb] at hb'

/-- While a job waits or runs the flag was not lowered since it was lowered for that job. -/
theorem Run.exists_cleared_of_busy (h : Run lost events t) (hb : t.slot.tag.isBusy = true) :
    ∃ job pause since, Cleared events job pause since ∧ .lower ∉ since := by
  induction h with
  | start => cases hb
  | @step events t e t' hr last ih =>
    cases hbusy : t.slot.tag.isBusy with
    | true =>
      obtain ⟨job, pause, since, hcleared, hlower⟩ := ih hbusy
      obtain ⟨he, ha⟩ := last.keeps_of_busy hr hbusy
      refine ⟨job, pause, since ++ [e], hcleared.concat ha, ?_⟩
      rw [List.mem_append, List.mem_singleton, not_or]
      exact ⟨hlower, he.symm⟩
    | false =>
      obtain ⟨job, rfl, hc⟩ := last.exists_accept_of_busy hbusy hb
      obtain ⟨before, pause, rfl, hp⟩ := hr.exists_lower_of_publishing hc
      exact ⟨job, pause, [], ⟨⟨before, by simp⟩, hp, nofun⟩, nofun⟩

/-- Where the flag was not lowered since, it is up exactly if it was raised since. -/
theorem Cleared.cancelled_iff (hc : Cleared events job pause since) (h : Run lost events t)
    (hl : .lower ∉ since) : t.slot.cancelled = true ↔
      .cancel ∈ pause ∨ .cancel ∈ since ∨ .giveUp ∈ since := by
  obtain ⟨before, rfl⟩ := hc.events_eq
  have hpause : ∀ e : Event ι ρ, e ≠ .silent → e ≠ .cancel → e ∉ pause := fun e hs hc' he =>
    (hc.pause e he).elim hs hc'
  have hlower : Event.lower ∉ pause ++ .accept job :: since := by
    simp [hpause .lower nofun nofun, hl]
  rw [h.cancelled_eq, List.foldl_append, List.foldl_cons, foldl_flag_eq_true_iff hlower]
  simp [Event.flag, hpause .giveUp nofun nofun, or_assoc]

/-! ## The flag after a wait has given up -/

theorem Run.exists_of_concat (h : Run lost (events ++ [e]) t') :
    ∃ t, Run lost events t ∧ Step lost t e t' := by
  generalize hl : events ++ [e] = all at h
  cases h with
  | start => simp at hl
  | step hr last =>
    obtain ⟨rfl, hlast⟩ := List.append_inj' hl rfl
    obtain rfl := List.singleton_inj.mp hlast
    exact ⟨_, hr, last⟩

/-- A job whose result is not published waits or runs. -/
theorem Run.busy_of_latest (h : Run lost events t) (hl : Latest events job since)
    (hd : .deliver ∉ since) : t.slot.tag.isBusy = true := by
  obtain ⟨g, past, hf, hp, hm⟩ := exists_stage_of_run h
  cases hf with
  | offered | claimed | taken | executed | stored => rfl
  | vacant =>
    rw [Stage.milestones, List.append_nil] at hm
    exact absurd (Rounds.delivered (hm ▸ hp) hl).2 hd
  | delivered | collected =>
    obtain ⟨since', hl', hs⟩ := exists_latest_of_filter hm (by simp)
    obtain ⟨-, rfl⟩ := hl.unique hl'
    exact absurd ((mem_iff_of_filter hs rfl).mpr (by simp)) hd

theorem Latest.concat (h : Latest events job since) (he : ∀ other, e ≠ .accept other) :
    Latest (events ++ [e]) job (since ++ [e]) := by
  obtain ⟨⟨before, rfl⟩, hs⟩ := h
  refine ⟨⟨before, by simp⟩, fun other ho => ?_⟩
  rcases List.mem_append.mp ho with ho | ho
  · exact hs other ho
  · exact he other (List.mem_singleton.mp ho).symm

/-- When a wait has given up on a job the flag is up, and as long as the result of that job is
not published it stays up and no other job is accepted. -/
theorem Run.raised_of_giveUp {before after : List (Event ι ρ)}
    (h : Run lost (before ++ .giveUp :: after) t) (hl : Latest before job since)
    (hs : .deliver ∉ since) (ha : .deliver ∉ after) :
    Latest (before ++ .giveUp :: after) job (since ++ .giveUp :: after) ∧
      t.slot.cancelled = true := by
  induction after using List.reverseRecOn generalizing t with
  | nil =>
    obtain ⟨t₀, -, last⟩ := h.exists_of_concat
    exact ⟨hl.concat nofun, last.cancelled_eq⟩
  | append_singleton after e ih =>
    rw [← List.cons_append, ← List.append_assoc] at h
    rw [List.mem_append, not_or] at ha
    obtain ⟨t₀, hr, last⟩ := h.exists_of_concat
    obtain ⟨hlatest, hflag⟩ := ih hr ha.1
    have hbusy := hr.busy_of_latest hlatest (by simp [hs, ha.1])
    obtain ⟨hlower, haccept⟩ := last.keeps_of_busy hr hbusy
    refine ⟨by simpa using hlatest.concat haccept, ?_⟩
    rw [last.cancelled_eq, hflag, Event.flag_true hlower]

/-! ## What the flag tells -/

/-- What the flag tells at the end of a run. -/
structure Flagged (lost : ρ) (events : List (Event ι ρ)) (t : Threads ι ρ) : Prop where
  /-- If a wait has given up on a job, and the result of that job was not published before or
  since, the flag is up. That job is still the last one. -/
  abandoned : ∀ {before after job since}, events = before ++ .giveUp :: after →
    Latest before job since → .deliver ∉ since → .deliver ∉ after →
      Latest events job (since ++ .giveUp :: after) ∧ t.slot.cancelled = true
  /-- While a job waits or runs the flag is up exactly if there was a call for it, or a wait has
  given up, since it was lowered to submit that job. -/
  active : t.slot.tag.isBusy = true → ∃ job pause since, Cleared events job pause since ∧
    (t.slot.cancelled = true ↔ .cancel ∈ pause ∨ .cancel ∈ since ∨ .giveUp ∈ since)
  /-- When a job is executed, it is the one that the flag was lowered for. -/
  executed : ∀ {job result t'}, Step lost t (.execute job result) t' →
    ∃ pause since, Cleared events job pause since ∧
      (t.slot.cancelled = true ↔ .cancel ∈ pause ∨ .cancel ∈ since ∨ .giveUp ∈ since)

/-- However the two threads interleave, and whenever there are calls for the flag, it tells of
the last job only. -/
theorem Run.flagged (h : Run lost events t) : Flagged lost events t where
  abandoned := by
    rintro before after job since rfl hl hs ha
    exact h.raised_of_giveUp hl hs ha
  active hb := by
    obtain ⟨job, pause, since, hc, hl⟩ := h.exists_cleared_of_busy hb
    exact ⟨job, pause, since, hc, hc.cancelled_iff h hl⟩
  executed := by
    intro job result t' hs
    obtain ⟨job', since', hj, hlatest, -, he⟩ := h.latest_of_executing hs.cause
    cases hj
    have hbusy : t.slot.tag.isBusy = true := by
      obtain ⟨g, past, hf, -, -⟩ := exists_stage_of_run h
      have hw : t.worker = .executing (some job) := hs.cause
      cases hf with
      | taken => rfl
      | vacant | offered | claimed | executed | stored | delivered | collected => cases hw
    obtain ⟨job', pause, since, hc, hl⟩ := h.exists_cleared_of_busy hbusy
    obtain ⟨rfl, -⟩ := hlatest.unique hc.latest
    exact ⟨pause, since, hc, hc.cancelled_iff h hl⟩

/-- A wait gives up on the job `7` while it runs. The flag is still up when the job `8` was
refused and somebody has called for the flag. It is down when `7` has ended and `8` was
accepted, and up again after the next call. -/
theorem flagged_of_late :
    let before : List (Event Nat Nat) := [.silent, .silent, .silent, .lower, .accept 7, .claim,
      .take (some 7), .silent, .silent]
    let after : List (Event Nat Nat) := [.expire, .silent, .refuse 8, .cancel]
    ∃ events t t' t'', Run 0 (before ++ .giveUp :: after) t ∧ t.slot.cancelled = true ∧
      Run 0 events t' ∧ before ++ .giveUp :: after <+: events ∧
      t'.slot.tag = .ready ∧ t'.slot.cancelled = false ∧
      Step 0 t' .cancel t'' ∧ Flagged 0 (events ++ [.cancel]) t'' := by
  intro before after
  have empty : Run 0 [] ⟨(.empty : Slot Nat Nat), .free, .watching⟩ := .start
  have called := empty.step (.control _ (.callSubmit _ 7))
  have filled := (called.step (.control _ (.findFree _ _ rfl))).step (.control _ (.fill _ _))
  have offered := (filled.step (.control _ (.lower _ _))).step (.control _ (.accept _ _))
  have taken := (offered.step (.worker _ (.claim rfl))).step (.worker _ (.takeJob _))
  have waiting := (taken.step (.control _ (.callWait _))).step (.control _ (.runOut _ nofun))
  have late := (waiting.step (.control _ (.giveUp _))).step (.control _ (.abandon _ nofun))
  have refused := (late.step (.control _ (.callSubmit _ 8))).step (.control _ (.refuse _ _ rfl))
  have again : Run 0 (before ++ .giveUp :: after) _ := refused.step (.cancel _ _ _)
  have latest : Latest before 7 [.claim, .take (some 7), .silent, .silent] :=
    ⟨⟨[.silent, .silent, .silent, .lower], rfl⟩, by simp⟩
  have raised := again.flagged.abandoned rfl latest (by simp) (by simp [after])
  have stored := (again.step (.worker _ (.execute _ _ 49))).step (.worker _ (.putResult _ _))
  have stale := (stored.step (.worker _ (.deliver _))).step (.control _ (.callSubmit _ 8))
  have checked := (stale.step (.control _ (.findStale _ _ rfl))).step
    (.control _ (.checkDone _ _ rfl))
  have dropped := (checked.step (.control _ (.takeResult _ _))).step (.control _ (.release _ _ _))
  have lowered := (dropped.step (.control _ (.fill _ _))).step (.control _ (.lower _ _))
  have offered' := lowered.step (.control _ (.accept _ _))
  exact ⟨_, _, _, _, again, raised.2, offered', by simp [List.append_assoc], rfl, rfl,
    .cancel _ _ _, (offered'.step (.cancel _ _ _)).flagged⟩

end Coprocessor.Handoff
