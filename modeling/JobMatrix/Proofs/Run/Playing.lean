import JobMatrix.Proofs.Run.Ending
import JobMatrix.Run.Timeline

/-!
# Played runs

A run that is played on a host is a run like any other: every step of its timeline is an action that
is possible there. It comes to its end within the bound on its steps, since with each of them less
is left. Time passes only until something is due, and then a command ends or the run is cancelled.
So what holds of all whole runs holds of those that are played.
-/

namespace JobMatrix

/-- The commands of a job that have not ended, at most. -/
def Phase.commands (i : Instance) : Phase → Nat
  | .waiting | .spawned => i.template.steps.length
  | .working _ _ (.ready _ todo) => todo.length
  | .working _ _ (.running _ _ todo) => todo.length + 1
  | _ => 0

namespace Run

variable {s : Setup} {st st' : State} {a : Action} {actions : List Action} {k : Nat} {i : Instance}
  {phase phase' : Phase} {events : List Event} {calls : List Call}

/-! ## Commands that have not ended -/

/-- The commands of a run that have not ended, at most. -/
def State.commands (st : State) : Nat :=
  (st.jobs.map fun job => job.phase.commands job.inst).sum

/-- A sum over some jobs changes by what one of them changes. -/
theorem sum_map_set {jobs : List Job} {job : Job} (f : Job → Nat) (new : Job)
    (hjob : jobs[k]? = some job) :
    ((jobs.set k new).map f).sum + f job = (jobs.map f).sum + f new := by
  induction jobs generalizing k with
  | nil => cases hjob
  | cons first rest ih =>
    cases k with
    | zero =>
      cases hjob
      simp only [List.set_cons_zero, List.map_cons, List.sum_cons]
      omega
    | succ k =>
      have hrest := ih hjob
      simp only [List.set_cons_succ, List.map_cons, List.sum_cons]
      omega

theorem Move.commands_le (h : Move s st k i phase a phase' events calls) :
    phase'.commands i + (if a.endsCommand then 1 else 0) ≤ phase.commands i := by
  cases h <;>
    simp [Phase.commands, Action.endsCommand, Instance.begin]

theorem Step.commands_le (h : Step s st a st') :
    st'.commands + (if a.endsCommand then 1 else 0) ≤ st.commands := by
  cases h with
  | @move k job _ phase _ _ _ _ hjob hmove _ _ =>
    have hsum := sum_map_set (fun job => job.phase.commands job.inst) ⟨job.inst, phase⟩ hjob
    have hle := hmove.commands_le
    simp only at hsum
    simp only [State.commands]
    omega
  | _ => exact Nat.le_refl _

theorem State.commands_start : (State.start s).commands =
    (s.pipeline.instances.map fun i => i.template.steps.length).sum := by
  simp [State.commands, State.start, Phase.commands, Function.comp_def]

/-! ## Jobs with a command -/

theorem State.HasCommand.isSome_abort (h : st.HasCommand k) :
    (st.apply s (.abort k)).isSome = true := by
  obtain ⟨⟨i, phase⟩, hjob, hcommand⟩ := h
  cases phase with
  | working t path progress =>
    cases progress with
    | running records step todo => simp [State.apply, State.abort, hjob]
    | _ => cases hcommand
  | _ => cases hcommand

/-- A job has a command after a move if it asked for it, or if it had one that did not end. -/
theorem Move.hasCommand_iff (h : Move s st k i phase a phase' events calls) :
    phase'.hasCommand = true ↔
      (a = .decide k ∧ calls ≠ []) ∨ (phase.hasCommand = true ∧ a.endsCommand = false) := by
  cases h <;> simp [Phase.hasCommand, Instance.begin, Action.endsCommand]

theorem State.hasCommand_iff {job : Job} (hjob : st.jobs[k]? = some job) :
    st.HasCommand k ↔ job.phase.hasCommand = true := by
  simp [State.HasCommand, hjob]

theorem Step.hasCommand_iff (h : Step s st a st') (k : Nat) :
    st'.HasCommand k ↔ (a = .decide k ∧ st'.calls ≠ st.calls) ∨
      (st.HasCommand k ∧ ¬ (a.endsCommand = true ∧ a.job? = some k)) := by
  cases h with
  | @move j job _ phase events calls _ _ hjob hmove hfront _ =>
    by_cases hk : j = k
    · subst hk
      have hlt := (List.getElem?_eq_some_iff.1 hjob).1
      have hends : a.endsCommand = true → a.job? = some j := by
        rcases hfront with ⟨rfl, -⟩ | ⟨hnamed, -⟩
        · nofun
        · exact fun _ => hnamed
      rw [State.hasCommand_iff hjob, State.hasCommand_iff (List.getElem?_set_self hlt),
        hmove.hasCommand_iff, and_iff_left_of_imp hends]
      simp
    · -- The action is about another job.
      have hother : a.job? ≠ some k := by
        rcases hfront with ⟨rfl, -⟩ | ⟨hnamed, -⟩
        · nofun
        · rw [hnamed]
          exact fun h => hk (Option.some.inj h)
      have hdecide : a ≠ .decide k := by
        rintro rfl
        exact hother rfl
      simp [State.HasCommand, List.getElem?_set_ne hk, hother, hdecide]
  | _ => simp [State.HasCommand, Action.endsCommand]

theorem State.not_hasCommand_start : ¬ (State.start s).HasCommand k := by
  rintro ⟨job, hjob, hcommand⟩
  obtain ⟨i, -, rfl⟩ := List.mem_map.1 (List.mem_of_getElem? hjob)
  cases hcommand

/-- Only a look at a step asks for a command. -/
theorem Move.calls_eq_nil (h : Move s st k i phase a phase' events calls)
    (ha : ∀ k, a ≠ .decide k) : calls = [] := by
  cases h with
  | ask _ _ => exact absurd rfl (ha k)
  | _ => rfl

theorem Step.calls_eq (h : Step s st a st') (ha : ∀ k, a ≠ .decide k) : st'.calls = st.calls := by
  cases h with
  | move _ hmove _ _ => simp [hmove.calls_eq_nil ha]
  | _ => rfl

/-- Work neither cancels a run nor takes time. -/
theorem Step.quiet (h : Step s st a st') (ha : a.Works) :
    st'.cancelled = st.cancelled ∧ st'.clock = st.clock := by
  cases h with
  | move _ _ _ _ | collect _ => exact ⟨rfl, rfl⟩
  | cancel | pass _ | complete _ _ _ => exact ha.elim

/-! ## Steps of a timeline -/

namespace Timeline

variable {World : Type} {host : Host World} {t t' : Timeline World}

/-- A command is due, or the run is. -/
def due (t : Timeline World) : Bool :=
  (!t.state.cancelled && t.cancelAt.any fun time => time.nanos ≤ t.state.clock.nanos) ||
    t.flights.any fun (_, start, flight) =>
      t.state.cancelled || (start.add flight.length).nanos ≤ t.state.clock.nanos

/-- What a step makes of a timeline. -/
inductive Advances (s : Setup) (t : Timeline World) : Timeline World → Prop
  | works {a : Action} {st : State} {world : World} (hworks : a.Works)
      (hends : a.endsCommand = false) (happly : t.state.apply s a = some st)
      (hcalls : st.calls = t.state.calls) : Advances s t ⟨st, world, t.flights, t.cancelAt⟩
  | asks {k : Nat} {st : State} {world : World} {flight : Flight}
      (happly : t.state.apply s (.decide k) = some st) (hcalls : st.calls ≠ t.state.calls) :
      Advances s t ⟨st, world, t.flights ++ [(k, st.clock, flight)], t.cancelAt⟩
  | lands {k : Nat} {a : Action} {st : State} {world : World} (hends : a.endsCommand = true)
      (hnamed : a.job? = some k) (happly : t.state.apply s a = some st) :
      Advances s t ⟨st, world, t.flights.filter (·.1 != k), t.cancelAt⟩
  | cancels (huncancelled : t.state.cancelled = false) :
      Advances s t { t with state := { t.state with cancelled := true } }
  | completes {st : State} (happly : t.state.apply s .complete = some st) :
      Advances s t { t with state := st }
  /-- Time passes until something is due. -/
  | waits {d : Duration} (hidle : t.due = false)
      (hdue : due { t with state := { t.state with clock := t.state.clock.add d } } = true) :
      Advances s t { t with state := { t.state with clock := t.state.clock.add d } }

/-- The timeline shows a run, and the commands in flight are those that jobs wait for. -/
structure Sound (s : Setup) (t : Timeline World) : Prop where
  reached : ∃ actions, State.after s actions = some t.state
  inFlight : ∀ k, k ∈ t.flights.map (·.1) ↔ t.state.HasCommand k

theorem Sound.inOrder (h : t.Sound s) : t.state.InOrder := by
  obtain ⟨actions, hafter⟩ := h.reached
  exact State.inOrder_of_after hafter

theorem Advances.sound (h : Advances s t t') (hsound : t.Sound s) : t'.Sound s := by
  obtain ⟨actions, hafter⟩ := hsound.reached
  have hreached {a : Action} {st : State} (happly : t.state.apply s a = some st) :
      ∃ actions, State.after s actions = some st :=
    ⟨actions ++ [a], by rw [State.after_concat, hafter, Option.bind_some, happly]⟩
  cases h with
  | works _ hends happly hcalls =>
    refine ⟨hreached happly, fun k => ?_⟩
    rw [(Step.of_apply hsound.inOrder happly).hasCommand_iff, hsound.inFlight]
    simp [hends, hcalls]
  | @asks j _ _ _ happly hcalls =>
    refine ⟨hreached happly, fun k => ?_⟩
    rw [(Step.of_apply hsound.inOrder happly).hasCommand_iff, ← hsound.inFlight]
    simp [hcalls, Action.endsCommand, or_comm, eq_comm]
  | @lands j a _ _ hends hnamed happly =>
    refine ⟨hreached happly, fun k => ?_⟩
    rw [(Step.of_apply hsound.inOrder happly).hasCommand_iff, ← hsound.inFlight]
    have hdecide : a ≠ .decide k := by
      rintro rfl
      cases hends
    simp only [hdecide, hends, hnamed, false_and, false_or, true_and, Option.some_inj,
      List.mem_map, List.mem_filter, bne_iff_ne]
    constructor
    · rintro ⟨flight, ⟨hflight, hne⟩, rfl⟩
      exact ⟨⟨flight, hflight, rfl⟩, Ne.symm hne⟩
    · rintro ⟨⟨flight, hflight, rfl⟩, hne⟩
      exact ⟨flight, ⟨hflight, Ne.symm hne⟩, rfl⟩
  | cancels _ => exact ⟨hreached (a := .cancel) rfl, hsound.inFlight⟩
  | completes happly =>
    refine ⟨hreached happly, fun k => ?_⟩
    rw [(Step.of_apply hsound.inOrder happly).hasCommand_iff, hsound.inFlight]
    simp [Action.endsCommand]
  | waits _ _ => exact ⟨hreached (a := .pass _) rfl, hsound.inFlight⟩

/-! ### Every step is an action -/

theorem exists_moved (host : Host World) (t : Timeline World) (k : Nat) (st : State) :
    ∃ world, t.moved host k st = ⟨st, world, t.flights, t.cancelAt⟩ := by
  unfold moved
  split
  · exact ⟨_, rfl⟩
  · exact ⟨_, rfl⟩

theorem advances_plain (hsound : t.Sound s) (hworks : a.Works) (hends : a.endsCommand = false)
    (ha : ∀ k, a ≠ .decide k) {world : World} (happly : t.state.apply s a = some st) :
    Advances s t ⟨st, world, t.flights, t.cancelAt⟩ :=
  .works hworks hends happly ((Step.of_apply hsound.inOrder happly).calls_eq ha)

theorem advances_decide (hsound : t.Sound s) (h : t.decide s host k = some t') : Advances s t t' := by
  obtain ⟨st, happly, h⟩ := Option.bind_eq_some_iff.1 h
  obtain ⟨more, hmore⟩ : ∃ more, st.calls = t.state.calls ++ more := by
    cases Step.of_apply hsound.inOrder happly with
    | move _ _ _ _ => exact ⟨_, rfl⟩
  rw [hmore, List.drop_left] at h
  cases more with
  | nil =>
    obtain ⟨world, hmoved⟩ := exists_moved host t k st
    rw [hmoved] at h
    cases h
    exact .works (a := .decide k) trivial rfl happly (by rw [hmore, List.append_nil])
  | cons call rest =>
    cases h
    exact .asks happly (by rw [hmore]; simp)

theorem advances_land {reply : Option Reply} (h : t.land s host k reply = some t') :
    Advances s t t' := by
  obtain ⟨st, happly, h⟩ := Option.bind_eq_some_iff.1 h
  obtain ⟨world, hmoved⟩ := exists_moved host t k st
  rw [hmoved] at h
  cases h
  cases reply with
  | some reply => exact .lands (a := .answer k reply) rfl rfl happly
  | none => exact .lands (a := .abort k) rfl rfl happly

theorem advances_finish {flight : Flight} (h : t.finish s host k flight = some t') :
    Advances s t t' := by
  unfold finish at h
  split at h
  · rename_i hcancels
    cases h
    have huncancelled : t.state.cancelled = false := by simp_all
    exact .cancels huncancelled
  · exact advances_land h

theorem advances_goOn (hsound : t.Sound s) (h : t.goOn s host k = some t') : Advances s t t' := by
  obtain ⟨⟨i, phase⟩, hjob, h⟩ := Option.bind_eq_some_iff.1 h
  cases phase with
  | working time path progress =>
    cases progress with
    | ready records todo => exact advances_decide hsound h
    | running records step todo =>
      obtain ⟨⟨_, _, flight⟩, -, h⟩ := Option.bind_eq_some_iff.1 h
      exact advances_finish h
    | «over» _ _ => cases h
  | settled result =>
    obtain ⟨st, happly, h⟩ := Option.bind_eq_some_iff.1 h
    cases h
    exact advances_plain (a := .release k) hsound trivial rfl nofun happly
  | released result =>
    obtain ⟨st, happly, h⟩ := Option.bind_eq_some_iff.1 h
    cases h
    exact advances_plain (a := .publish k) hsound trivial rfl nofun happly
  | waiting | skipped _ | spawned | published _ | aborted => cases h

theorem advances_begin (hsound : t.Sound s) (h : t.begin s host k = some t') : Advances s t t' := by
  obtain ⟨st, happly, h⟩ := Option.bind_eq_some_iff.1 h
  cases h
  exact advances_plain (a := .begin k _) hsound trivial rfl nofun happly

theorem advances_cancelDue (h : t.cancelDue s = some t') : Advances s t t' := by
  obtain ⟨time, -, h⟩ := Option.bind_eq_some_iff.1 h
  split at h
  · cases h
  · rename_i hdue
    cases h
    have huncancelled : t.state.cancelled = false := by simp_all
    exact .cancels huncancelled

theorem advances_endFlight (h : t.endFlight s host = some t') : Advances s t t' := by
  obtain ⟨⟨k, start, flight⟩, -, h⟩ := List.exists_of_findSome?_eq_some h
  simp only at h
  split at h
  · exact advances_finish h
  · split at h
    · exact advances_land h
    · cases h

theorem isSome_land (h : t.state.HasCommand k) (host : Host World) (reply : Option Reply) :
    (t.land s host k reply).isSome = true := by
  cases reply with
  | some reply =>
    obtain ⟨st, happly⟩ := Option.isSome_iff_exists.1 (h.isSome_answer (s := s) reply)
    simp [land, happly]
  | none =>
    obtain ⟨st, happly⟩ := Option.isSome_iff_exists.1 (h.isSome_abort (s := s))
    simp [land, happly]

theorem isSome_finish (h : t.state.HasCommand k) (host : Host World) (flight : Flight) :
    (t.finish s host k flight).isSome = true := by
  unfold finish
  split
  · rfl
  · exact isSome_land h host flight.ending

theorem due_iff : t.due = true ↔
    (t.state.cancelled = false ∧ ∃ time ∈ t.cancelAt, time.nanos ≤ t.state.clock.nanos) ∨
      ∃ k start flight, (k, start, flight) ∈ t.flights ∧ (t.state.cancelled = true ∨
        (start.add flight.length).nanos ≤ t.state.clock.nanos) := by
  simp [due, Option.any_eq_true]

/-- What is due can be done. -/
theorem due_eq_false (hsound : t.Sound s) (hcancel : t.cancelDue s = none)
    (hflights : t.endFlight s host = none) : t.due = false := by
  rw [← Bool.not_eq_true, due_iff]
  rintro (⟨huncancelled, time, htime, hle⟩ | ⟨k, start, flight, hflight, hends⟩)
  · rw [Option.mem_def] at htime
    have hnot : ¬ t.state.clock.nanos < time.nanos := Nat.not_lt_of_le hle
    simp [cancelDue, htime, huncancelled, hnot, State.apply] at hcancel
  · have hcommand := (hsound.inFlight k).1 (List.mem_map_of_mem hflight)
    have hnone := List.findSome?_eq_none_iff.1 hflights _ hflight
    simp only at hnone
    split at hnone
    · simpa [hnone] using isSome_finish (s := s) hcommand host flight
    · rename_i hlater
      rw [if_pos (hends.resolve_right hlater)] at hnone
      have hland := isSome_land (s := s) hcommand host
        (some (flight.cutShort (t.state.clock.sub start)))
      simp [hnone] at hland

theorem advances_wait (hidle : t.due = false) (h : t.wait s = some t') : Advances s t t' := by
  obtain ⟨next, hnext, h⟩ := Option.bind_eq_some_iff.1 h
  cases h
  refine .waits hidle (due_iff.2 ?_)
  have hreached : next ≤ (t.state.clock.add ⟨next - t.state.clock.nanos⟩).nanos := by
    simp only [Duration.add]
    omega
  have hmem := List.min?_mem hnext
  have hends (hend : next ∈ t.flights.map fun (_, start, flight) =>
      (start.add flight.length).nanos) : ∃ k start flight, (k, start, flight) ∈ t.flights ∧
        (start.add flight.length).nanos = next := by
    obtain ⟨⟨k, start, flight⟩, hflight, hend⟩ := List.mem_map.1 hend
    exact ⟨k, start, flight, hflight, hend⟩
  split at hmem
  · obtain ⟨k, start, flight, hflight, rfl⟩ := hends hmem
    exact .inr ⟨k, start, flight, hflight, .inr hreached⟩
  · rename_i huncancelled
    rw [Bool.not_eq_true] at huncancelled
    rcases List.mem_append.1 hmem with hcancel | hmem
    · obtain ⟨time, htime, rfl⟩ := Option.map_eq_some_iff.1 (Option.mem_toList.1 hcancel)
      exact .inl ⟨huncancelled, time, htime, hreached⟩
    · obtain ⟨k, start, flight, hflight, rfl⟩ := hends hmem
      exact .inr ⟨k, start, flight, hflight, .inr hreached⟩

/-- Every step of a timeline is an action of its run. -/
theorem advances_of_step (hsound : t.Sound s) (h : t.step s host = some t') : Advances s t t' := by
  simp only [step, Option.orElse_eq_some, Option.map_eq_some_iff] at h
  rcases h with ⟨st, happly, rfl⟩ | ⟨-, hgoOn | ⟨-, ⟨st, happly, rfl⟩ | ⟨-, hbegin | ⟨-, hcancelDue |
    ⟨hcancel, hendFlight | ⟨hend, ⟨st, happly, rfl⟩ | ⟨-, hwait⟩⟩⟩⟩⟩⟩⟩
  · exact advances_plain (a := .collect) hsound trivial rfl nofun happly
  · obtain ⟨k, -, hgoOn⟩ := List.exists_of_findSome?_eq_some hgoOn
    exact advances_goOn hsound hgoOn
  · exact advances_plain (a := .dispatch) hsound trivial rfl nofun happly
  · obtain ⟨k, -, hbegin⟩ := List.exists_of_findSome?_eq_some hbegin
    exact advances_begin hsound hbegin
  · exact advances_cancelDue hcancelDue
  · exact advances_endFlight hendFlight
  · exact .completes happly
  · split at hwait
    · cases hwait
    · exact advances_wait (due_eq_false hsound hcancel hend) hwait

/-! ### Until a run ends there is a next step -/

theorem isSome_firstJob {f : Nat → Option (Timeline World)} {job : Job}
    (hjob : t.state.jobs[k]? = some job) (h : (f k).isSome = true) :
    (t.firstJob f).isSome = true := by
  have hlt := (List.getElem?_eq_some_iff.1 hjob).1
  rw [firstJob, List.findSome?_isSome_iff]
  exact ⟨k, List.mem_range.2 hlt, h⟩

theorem isSome_decide (host : Host World) (h : (t.state.apply s (.decide k)).isSome = true) :
    (t.decide s host k).isSome = true := by
  obtain ⟨st, happly⟩ := Option.isSome_iff_exists.1 h
  simp only [decide, happly, Option.bind_eq_bind, Option.bind_some]
  split
  · rfl
  · rfl

/-- A job goes on with an action of its own that is possible. -/
theorem isSome_goOn (host : Host World) (hown : a.IsOwn) (hnamed : a.job? = some k)
    (h : (t.state.apply s a).isSome = true) :
    (t.firstJob (t.goOn s host)).isSome = true := by
  obtain ⟨st, happly⟩ := Option.isSome_iff_exists.1 h
  have hbegun := happly
  cases a with
  | «decide» j =>
    cases hnamed
    obtain ⟨⟨i, phase⟩, hjob, hbegun⟩ := Option.bind_eq_some_iff.1 hbegun
    refine isSome_firstJob hjob ?_
    cases phase with
    | working time path progress =>
      cases progress with
      | ready records todo => simpa [goOn, hjob] using isSome_decide host h
      | _ => cases hbegun
    | _ => cases hbegun
  | release j =>
    cases hnamed
    obtain ⟨⟨i, phase⟩, hjob, hbegun⟩ := Option.bind_eq_some_iff.1 hbegun
    refine isSome_firstJob hjob ?_
    cases phase with
    | settled result => simp [goOn, hjob, happly]
    | _ => cases hbegun
  | publish j =>
    cases hnamed
    obtain ⟨⟨i, phase⟩, hjob, hbegun⟩ := Option.bind_eq_some_iff.1 hbegun
    refine isSome_firstJob hjob ?_
    cases phase with
    | released result => simp [goOn, hjob, happly]
    | _ => cases hbegun
  | dispatch | collect => cases hnamed
  | «begin» _ _ | answer _ _ | abort _ | cancel | pass _ | complete => exact hown.elim

theorem isSome_begin (host : Host World)
    (h : ∀ workspace, (t.state.apply s (.begin k workspace)).isSome = true) :
    (t.firstJob (t.begin s host)).isSome = true := by
  obtain ⟨st, happly⟩ := Option.isSome_iff_exists.1 (h (host.enter t.world k).2)
  have hjob := happly
  obtain ⟨job, hjob, -⟩ := Option.bind_eq_some_iff.1 hjob
  refine isSome_firstJob hjob ?_
  simp [begin, happly]

theorem isSome_wait (h : t.flights ≠ []) : (t.wait s).isSome = true := by
  unfold wait
  cases hmin : (if t.state.cancelled then
      t.flights.map fun (_, start, flight) => (start.add flight.length).nanos
    else (t.cancelAt.map Duration.nanos).toList ++
      t.flights.map fun (_, start, flight) => (start.add flight.length).nanos).min? with
  | none =>
    have hnil := List.min?_eq_none_iff.1 hmin
    split at hnil <;> simp [h] at hnil
  | some next => simp [hmin, State.apply]

theorem step_ne_none (host : Host World) (hsound : t.Sound s) (hslots : 0 < s.slots)
    (huncompleted : t.state.completed = none) : t.step s host ≠ none := by
  intro hnone
  simp only [step, Option.orElse_eq_none, Option.map_eq_none_iff] at hnone
  obtain ⟨hcollect, hgoOn, hdispatch, hbegin, -, -, hcomplete, hwait⟩ := hnone
  obtain ⟨actions, hafter⟩ := hsound.reached
  have hopen : (t.state.complete s).isSome = false := by
    rw [show t.state.complete s = none from hcomplete]
    rfl
  cases State.goesOn hafter hslots huncompleted hopen with
  | @own a hown hpossible =>
    cases hnamed : a.job? with
    | some k => simpa [hgoOn] using isSome_goOn host hown hnamed hpossible
    | none =>
      cases a with
      | dispatch => simp [hdispatch] at hpossible
      | collect => simp [hcollect] at hpossible
      | cancel | pass _ | complete => exact hown.elim
      | «begin» _ _ | «decide» _ | answer _ _ | abort _ | release _ | publish _ => cases hnamed
  | workspace hpossible => simpa [hbegin] using isSome_begin host hpossible
  | @reply k hpossible =>
    have hcommand := State.hasCommand_of_isSome (hpossible (.ok ⟨.cancelled, "", "", .zero⟩))
    have hflights : t.flights ≠ [] := by
      intro hnil
      simpa [hnil] using (hsound.inFlight k).2 hcommand
    rw [if_neg (by simpa using hflights)] at hwait
    simpa [hwait] using isSome_wait (s := s) hflights

/-! ### Less is left -/

/-- The number of times that a timeline waits before something is due. -/
def idle (t : Timeline World) : Nat :=
  if t.due then 0 else 1

theorem idle_le_one (t : Timeline World) : t.idle ≤ 1 := by
  unfold idle
  split <;> decide

theorem idle_le_of_due (h : t.due = true → t'.due = true) : t'.idle ≤ t.idle := by
  unfold idle
  by_cases hdue : t.due = true
  · simp [hdue, h hdue]
  · rw [if_neg hdue]
    exact t'.idle_le_one

theorem idle_eq {world : World} (hcancelled : st.cancelled = t.state.cancelled)
    (hclock : st.clock = t.state.clock) : idle ⟨st, world, t.flights, t.cancelAt⟩ = t.idle := by
  have hdue : due ⟨st, world, t.flights, t.cancelAt⟩ = t.due := by
    simp only [due]
    rw [hcancelled, hclock]
  simp only [idle, hdue]

/-- The number of steps that a timeline has left, at most: its work, a wait for each command and for the
cancellation, the cancellation itself and the end. -/
def left (t : Timeline World) : Nat :=
  t.state.weight + t.state.commands + (if t.state.cancelled then 0 else 2) +
    (if t.state.completed.isSome then 0 else 1) + t.idle

theorem Advances.left_lt (h : Advances s t t') (hsound : t.Sound s) : t'.left < t.left := by
  have hidle := t'.idle_le_one
  cases h with
  | @works a st world hworks hends happly hcalls =>
    have hstep := Step.of_apply hsound.inOrder happly
    have hweight := hstep.weight_lt hworks
    have hcommands := hstep.commands_le
    obtain ⟨hcancelled, hclock⟩ := hstep.quiet hworks
    simp only [left, idle_eq hcancelled hclock, hcancelled, hstep.completed_eq hworks]
    omega
  | @asks k st world flight happly hcalls =>
    have hstep := Step.of_apply hsound.inOrder happly
    have hworks : (Action.decide k).Works := trivial
    have hweight := hstep.weight_lt hworks
    have hcommands := hstep.commands_le
    obtain ⟨hcancelled, hclock⟩ := hstep.quiet hworks
    -- What was due is still due with one more command in flight.
    have hmore : idle ⟨st, world, t.flights ++ [(k, st.clock, flight)], t.cancelAt⟩ ≤ t.idle := by
      refine idle_le_of_due fun hdue => ?_
      simp only [due, hcancelled, hclock, List.any_append, Bool.or_eq_true] at hdue ⊢
      exact hdue.imp_right .inl
    simp only [left, hcancelled, hstep.completed_eq hworks]
    omega
  | @lands k a st world hends hnamed happly =>
    have hstep := Step.of_apply hsound.inOrder happly
    have hworks : a.Works := by
      cases a with
      | answer _ _ | abort _ => trivial
      | _ => cases hends
    have hweight := hstep.weight_lt hworks
    have hcommands := hstep.commands_le
    rw [if_pos hends] at hcommands
    simp only [left, (hstep.quiet hworks).1, hstep.completed_eq hworks]
    omega
  | cancels huncancelled =>
    have hweight : State.weight { t.state with cancelled := true } = t.state.weight := rfl
    have hcommands : State.commands { t.state with cancelled := true } = t.state.commands := rfl
    simp only at hidle
    simp only [left, hweight, hcommands, huncancelled, if_true, Bool.false_eq_true, if_false]
    omega
  | @completes st happly =>
    have hstep := Step.of_apply hsound.inOrder happly
    have hweight := hstep.weight_le
    have hcommands := hstep.commands_le
    obtain ⟨-, -, huncompleted, hst⟩ := State.complete_eq_some happly
    have hcancelled : st.cancelled = t.state.cancelled := by rw [hst]
    have hclock : st.clock = t.state.clock := by rw [hst]
    have hcompleted : st.completed.isSome = true := by
      rw [hst]
      rfl
    have hbefore : t.state.completed.isSome = false := by
      rw [huncompleted]
      rfl
    simp only [left, idle_eq hcancelled hclock, hcancelled, hcompleted, hbefore, if_true,
      Bool.false_eq_true, if_false]
    omega
  | @waits d hundue hdue =>
    have hwaited : t.idle = 1 := by simp [idle, hundue]
    have hreached : idle { t with state := { t.state with clock := t.state.clock.add d } } = 0 := by
      simp [idle, hdue]
    have hweight : State.weight { t.state with clock := t.state.clock.add d } = t.state.weight := rfl
    have hcommands : State.commands { t.state with clock := t.state.clock.add d } =
      t.state.commands := rfl
    simp only [left, hweight, hcommands, hwaited, hreached]
    omega

/-! ## The end of a played run -/

/-- Within the steps that it has left, a timeline comes to the end of its run. -/
theorem steps_completed (host : Host World) (hslots : 0 < s.slots) {n : Nat} (hsound : t.Sound s)
    (hleft : t.left ≤ n) :
    (steps s host n t).Sound s ∧ (steps s host n t).state.completed ≠ none := by
  induction n generalizing t with
  | zero =>
    refine ⟨hsound, fun huncompleted => ?_⟩
    simp only [steps] at huncompleted
    simp [left, huncompleted] at hleft
  | succ n ih =>
    cases hstep : t.step s host with
    | none =>
      simp only [steps, hstep]
      exact ⟨hsound, fun huncompleted => step_ne_none host hsound hslots huncompleted hstep⟩
    | some t' =>
      have hadvances := advances_of_step hsound hstep
      have hless := hadvances.left_lt hsound
      simp only [steps, hstep]
      exact ih (hadvances.sound hsound) (by omega)

/-- The timeline at the start of a run, which may have been cancelled before. -/
def start (s : Setup) (world : World) (cancelled : Bool) (cancelAt : Option Duration) :
    Timeline World :=
  ⟨{ State.start s with cancelled }, world, [], cancelAt⟩

theorem sound_start (world : World) (cancelled : Bool) (cancelAt : Option Duration) :
    (start s world cancelled cancelAt).Sound s := by
  refine ⟨⟨if cancelled then [.cancel] else [], ?_⟩, fun k => ?_⟩
  · cases cancelled <;> rfl
  · have hnone : ¬ State.HasCommand { State.start s with cancelled } k := State.not_hasCommand_start
    simpa [start] using hnone

theorem sum_cost_le {instances : List Instance}
    (hsteps : ∀ i ∈ instances, i.template.steps ≠ []) :
    (instances.map fun i => 4 * i.template.steps.length + 9).sum +
        (instances.map fun i => i.template.steps.length).sum ≤
      8 * (instances.map fun i => i.template.steps.length + 1).sum := by
  induction instances with
  | nil => exact Nat.le_refl _
  | cons i instances ih =>
    obtain ⟨hi, hrest⟩ := List.forall_mem_cons.1 hsteps
    have hpos := List.length_pos_of_ne_nil hi
    have hle := ih hrest
    simp only [List.map_cons, List.sum_cons]
    omega

/-- Each job has a step, so the bound on the steps leaves room for all that is left. -/
theorem left_start_le (hsteps : ∀ i ∈ s.pipeline.instances, i.template.steps ≠ []) (world : World)
    (cancelled : Bool) (cancelAt : Option Duration) :
    (start s world cancelled cancelAt).left ≤ bound s.pipeline := by
  have hle := sum_cost_le hsteps
  have hidle := idle_le_one (start s world cancelled cancelAt)
  have hcancels : (if cancelled then 0 else 2) ≤ 2 := by split <;> decide
  have hleft : (start s world cancelled cancelAt).left =
    (State.start s).weight + (State.start s).commands + (if cancelled then 0 else 2) + 1 +
      (start s world cancelled cancelAt).idle := rfl
  rw [hleft, State.weight_start, State.commands_start, bound, ← List.sum_eq_foldr]
  omega

end Timeline

/-- A run that is played on a host is a whole run, which ends with its result. -/
theorem play_course {World : Type} {strategy : Strategy} (host : Host World) (world : World)
    (cancelled : Bool) (cancelAt : Option Duration) (hloaded : s.pipeline.Loaded)
    (hslots : strategy.slots? s.pipeline.maxParallel = some s.slots) :
    ∃ c : Course, c.setup = s ∧ c.strategy = strategy ∧
      (play s host world cancelled cancelAt).1.completed = some c.result ∧
      ∃ rest, State.after s (c.actions ++ .complete :: rest) =
        some (play s host world cancelled cancelAt).1 := by
  have hleft := Timeline.left_start_le
    (fun i hi => hloaded.steps_ne_nil hi) world cancelled cancelAt
  obtain ⟨⟨⟨actions, hafter⟩, -⟩, hcompleted⟩ := Timeline.steps_completed host
    (Strategy.slots?_pos hslots) (Timeline.sound_start world cancelled cancelAt) hleft
  obtain ⟨result, hcompleted⟩ := Option.ne_none_iff_exists'.1 hcompleted
  obtain ⟨before, last, ⟨rest, rfl⟩, hlast, hends, rfl⟩ := State.ended_of_completed hafter hcompleted
  refine ⟨⟨s, strategy, before, last, hloaded, hslots, hlast, hends⟩, rfl, rfl, hcompleted, rest, ?_⟩
  rw [List.append_assoc, List.singleton_append] at hafter
  exact hafter

end Run

end JobMatrix
