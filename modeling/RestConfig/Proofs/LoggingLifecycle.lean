import RestConfig.Log.Session

/-!
# The lifecycle of logging handles

A program sets logging up and shuts it down by a sequence of calls: setups, shutdowns of
the active handle, shutdowns of a given handle through the module, and a handle's own
shutdown. A setup shuts the active handle down before it reads the logger's state, and a
handle restores on shutdown what it read; so at most one handle is live at a time, it is
the active one, and once no handle is live every logger is back in the state it had before
the calls began.

Main statement: `Log.Registry.lifecycle_restores_loggers`.
-/

namespace RestConfig.Log

/-- One call of the logging lifecycle. -/
inductive Call where
  | setup (cfg : Setup)
  | shutdownActive
  | shutdownGiven (handle : Nat)
  | close (handle : Nat)

namespace Registry

/-- The registry after a call. -/
def step (reg : Registry) : Call → Registry
  | .setup cfg => (reg.setup cfg).1
  | .shutdownActive => reg.shutdownHandle none
  | .shutdownGiven h => reg.shutdownHandle (some h)
  | .close h => reg.shutdown h

/-- The registry after a sequence of calls. -/
def run (reg : Registry) (calls : List Call) : Registry := calls.foldl step reg

/-- A handle is live: it was returned and is not shut down. -/
def Live (reg : Registry) (i : Nat) : Prop := ∃ h, reg.handles[i]? = some h ∧ h.isShutdown = false

/-- Every handler attached to a logger belongs to a returned handle. -/
def Attached (reg : Registry) : Prop :=
  ∀ name, ∀ j ∈ (reg.state name).handlers, j < reg.handles.length

/-- No handle is live and every attached handler is a returned handle's: a registry the
calls may start from. -/
structure Quiet (reg : Registry) : Prop where
  noneLive : ∀ i, ¬ reg.Live i
  attached : reg.Attached

/-- A live handle and what it changed in a registry since the start: only its own logger,
which has the handle's level, stops passing events on and has the handle's handler after
the ones it had; the handle saved the logger's level and flag from the start. -/
structure Configured (start reg : Registry) (i : Nat) (h : Handle) : Prop where
  others : ∀ name, name ≠ h.logger → reg.state name = start.state name
  own : reg.state h.logger = ⟨h.level, false, (start.state h.logger).handlers ++ [i]⟩
  savedLevel : h.previousLevel = (start.state h.logger).level
  savedPropagate : h.previousPropagate = (start.state h.logger).propagate
  fresh : i ∉ (start.state h.logger).handlers

/-- What every call keeps of a run from a quiet registry. -/
structure Tracks (start reg : Registry) : Prop where
  onlyActive : ∀ i, reg.Live i → reg.active = some i
  attached : reg.Attached
  restored : (∀ i, ¬ reg.Live i) → ∀ name, reg.state name = start.state name
  configured : ∀ i h, reg.handles[i]? = some h → h.isShutdown = false → Configured start reg i h

/-! ## Logger states -/

theorem state_eq (reg : Registry) (m : String) :
    reg.state m = ((reg.loggers.find? (·.1 == m)).map (·.2)).getD (initialState m) := by
  unfold state
  cases reg.loggers.find? (·.1 == m) <;> rfl

theorem loggers_setState (reg : Registry) (n : String) (s : LoggerState) :
    (reg.setState n s).loggers = if reg.loggers.any (·.1 == n) then
      reg.loggers.map (fun p => if p.1 == n then (p.1, s) else p) else reg.loggers ++ [(n, s)] := by
  unfold setState
  split <;> rfl

theorem state_setState (reg : Registry) (n m : String) (s : LoggerState) :
    (reg.setState n s).state m = if m = n then s else reg.state m := by
  rw [state_eq, state_eq, loggers_setState]
  split
  · rename_i present
    have keeps : ((fun p : String × LoggerState => p.1 == m) ∘
        fun p : String × LoggerState => if p.1 == n then (p.1, s) else p) = (·.1 == m) := by
      funext p
      by_cases same : p.1 = n <;> simp [same]
    rw [List.find?_map, keeps]
    by_cases same : m = n
    · subst same
      obtain ⟨p, mem, named⟩ := List.any_eq_true.mp present
      cases found : reg.loggers.find? (·.1 == m) with
      | none => exact absurd named (by simpa using List.find?_eq_none.mp found p mem)
      | some q =>
        have : q.1 = m := by simpa using List.find?_some found
        simp [this]
    · cases found : reg.loggers.find? (·.1 == m) with
      | none => simp [same]
      | some q =>
        have : q.1 = m := by simpa using List.find?_some found
        simp [this, same]
  · rename_i absent
    rw [List.find?_append]
    by_cases same : m = n
    · subst same
      have : reg.loggers.find? (·.1 == m) = none := by
        rw [List.find?_eq_none]
        intro p mem named
        exact absent (List.any_eq_true.mpr ⟨p, mem, named⟩)
      simp [this]
    · cases reg.loggers.find? (·.1 == m) with
      | none => simp [same, Ne.symm same]
      | some q => simp [same]

@[simp] theorem handles_setState (reg : Registry) (n : String) (s : LoggerState) :
    (reg.setState n s).handles = reg.handles := by
  unfold setState
  split <;> rfl

@[simp] theorem active_setState (reg : Registry) (n : String) (s : LoggerState) :
    (reg.setState n s).active = reg.active := by
  unfold setState
  split <;> rfl

/-! ## Shutting a handle down -/

theorem shutdown_of_not_live {reg : Registry} {t : Nat} (dead : ¬ reg.Live t) :
    reg.shutdown t = reg := by
  unfold shutdown
  cases found : reg.handles[t]? with
  | none => rfl
  | some h =>
    have down : h.isShutdown = true := by
      cases flag : h.isShutdown with
      | true => rfl
      | false => exact absurd ⟨h, found, flag⟩ dead
    simp [down]

theorem shutdown_of_live {reg : Registry} {t : Nat} {h : Handle} (found : reg.handles[t]? = some h)
    (alive : h.isShutdown = false) :
    reg.shutdown t =
      { reg.setState h.logger { reg.state h.logger with
          handlers := (reg.state h.logger).handlers.filter (· != t), level := h.previousLevel,
          propagate := h.previousPropagate } with
        handles := reg.handles.set t { h with isShutdown := true } } := by
  simp [shutdown, found, alive]

@[simp] theorem active_shutdown (reg : Registry) (t : Nat) : (reg.shutdown t).active = reg.active := by
  by_cases live : reg.Live t
  · obtain ⟨h, found, alive⟩ := live
    simp [shutdown_of_live found alive]
  · rw [shutdown_of_not_live live]

@[simp] theorem length_shutdown (reg : Registry) (t : Nat) :
    (reg.shutdown t).handles.length = reg.handles.length := by
  by_cases live : reg.Live t
  · obtain ⟨h, found, alive⟩ := live
    simp [shutdown_of_live found alive]
  · rw [shutdown_of_not_live live]

theorem live_shutdown {reg : Registry} {t i : Nat} : (reg.shutdown t).Live i ↔ reg.Live i ∧ i ≠ t := by
  by_cases live : reg.Live t
  · obtain ⟨h, found, alive⟩ := live
    rw [shutdown_of_live found alive]
    by_cases same : i = t
    · subst same
      simp [Live, List.getElem?_set, found]
    · simp [Live, Ne.symm same, same]
  · rw [shutdown_of_not_live live]
    exact ⟨fun l => ⟨l, fun same => live (same ▸ l)⟩, fun l => l.1⟩

theorem handlers_shutdown_subset {reg : Registry} {t : Nat} {name : String} {j : Nat}
    (mem : j ∈ ((reg.shutdown t).state name).handlers) : j ∈ (reg.state name).handlers := by
  by_cases live : reg.Live t
  · obtain ⟨h, found, alive⟩ := live
    rw [shutdown_of_live found alive] at mem
    change j ∈ ((reg.setState _ _).state name).handlers at mem
    rw [state_setState] at mem
    split at mem
    · rename_i same
      subst same
      exact (List.mem_filter.mp mem).1
    · exact mem
  · rwa [shutdown_of_not_live live] at mem

theorem Attached.shutdown {reg : Registry} (attached : reg.Attached) (t : Nat) :
    (reg.shutdown t).Attached := by
  intro name j mem
  rw [length_shutdown]
  exact attached name j (handlers_shutdown_subset mem)

theorem Configured.shutdown {start reg : Registry} {t : Nat} {h : Handle}
    (conf : Configured start reg t h) (found : reg.handles[t]? = some h) (alive : h.isShutdown = false)
    (name : String) : (reg.shutdown t).state name = start.state name := by
  rw [shutdown_of_live found alive]
  change (reg.setState _ _).state name = _
  rw [state_setState]
  split
  · rename_i same
    subst same
    have dropped : ((start.state h.logger).handlers ++ [t]).filter (· != t) =
        (start.state h.logger).handlers := by
      rw [List.filter_append, List.filter_eq_self.mpr (fun j mem => by
        have : j ≠ t := fun same => conf.fresh (same ▸ mem)
        simpa using this)]
      simp
    rw [conf.own]
    simp only [dropped, conf.savedLevel, conf.savedPropagate]
  · rename_i differ
    exact conf.others name differ

theorem shutdown_active (reg : Registry) (a : Option Nat) (t : Nat) :
    ({ reg with active := a } : Registry).shutdown t = { reg.shutdown t with active := a } := by
  by_cases live : reg.Live t
  · obtain ⟨h, found, alive⟩ := live
    rw [@shutdown_of_live { reg with active := a } t h found alive, shutdown_of_live found alive]
    unfold setState
    split <;> rfl
  · rw [shutdown_of_not_live live, @shutdown_of_not_live { reg with active := a } t live]

/-! ## Attaching a handle -/

/-- The registry after a handle for a logger, with a level and a line format, is attached
and made active; the handle's number is the number of handles so far. -/
def attach (reg : Registry) (name : String) (level : Int) (format : LineFormat) : Registry :=
  let before := reg.state name
  let r := reg.setState name ⟨level, false, before.handlers ++ [reg.handles.length]⟩
  { r with handles := r.handles ++ [⟨name, level, format, before.level, before.propagate, false⟩],
           active := some reg.handles.length }

theorem setup_cases (reg : Registry) (cfg : Setup) :
    ((reg.setup cfg).1 = reg.shutdownHandle none ∧ ∃ f, (reg.setup cfg).2 = .error f) ∨
      ∃ level format, (reg.setup cfg).1 =
        (reg.shutdownHandle none).attach (canonical cfg.loggerName) level format ∧
        (reg.setup cfg).2 = .ok (reg.shutdownHandle none).handles.length := by
  unfold setup
  split
  · exact .inl ⟨rfl, _, rfl⟩
  · exact .inl ⟨rfl, _, rfl⟩
  · exact .inr ⟨_, _, rfl, rfl⟩

theorem state_attach (reg : Registry) (name m : String) (level : Int) (format : LineFormat) :
    (reg.attach name level format).state m =
      if m = name then ⟨level, false, (reg.state name).handlers ++ [reg.handles.length]⟩
      else reg.state m :=
  state_setState reg name m _

theorem handles_attach (reg : Registry) (name : String) (level : Int) (format : LineFormat) :
    (reg.attach name level format).handles =
      reg.handles ++ [⟨name, level, format, (reg.state name).level, (reg.state name).propagate,
        false⟩] := by
  simp [attach]

/-! ## Every call keeps the invariant -/

theorem Tracks.of_noneLive {start reg : Registry} (noneLive : ∀ i, ¬ reg.Live i)
    (attached : reg.Attached) (restored : ∀ name, reg.state name = start.state name) :
    Tracks start reg where
  onlyActive i live := absurd live (noneLive i)
  attached := attached
  restored _ := restored
  configured i h found alive := absurd ⟨h, found, alive⟩ (noneLive i)

theorem Quiet.tracks {start : Registry} (quiet : start.Quiet) : Tracks start start :=
  .of_noneLive quiet.noneLive quiet.attached fun _ => rfl

/-- Shutting down a handle that every live handle is, whatever the active handle then is,
leaves no handle live and every logger as at the start. -/
theorem Tracks.shutdown_only {start reg : Registry} (tr : Tracks start reg) {t : Nat}
    (only : ∀ i, reg.Live i → i = t) (a : Option Nat) :
    Tracks start ({ reg with active := a }.shutdown t) := by
  rw [shutdown_active]
  have noneLive : ∀ i, ¬ (reg.shutdown t).Live i := fun i live => by
    obtain ⟨wasLive, other⟩ := live_shutdown.mp live
    exact other (only i wasLive)
  refine .of_noneLive noneLive (Attached.shutdown tr.attached t) fun name => ?_
  by_cases live : reg.Live t
  · obtain ⟨h, found, alive⟩ := live
    exact (tr.configured t h found alive).shutdown found alive name
  · rw [shutdown_of_not_live live]
    exact tr.restored (fun i wasLive => live (only i wasLive ▸ wasLive)) name

theorem Tracks.only_of_active {start reg : Registry} (tr : Tracks start reg) {t : Nat}
    (active : reg.active = some t) : ∀ i, reg.Live i → i = t := fun i live =>
  Option.some.inj ((tr.onlyActive i live).symm.trans active)

theorem Tracks.shutdown {start reg : Registry} (tr : Tracks start reg) (t : Nat) :
    Tracks start (reg.shutdown t) := by
  by_cases live : reg.Live t
  · exact tr.shutdown_only (tr.only_of_active (tr.onlyActive t live)) reg.active
  · rwa [shutdown_of_not_live live]

theorem Tracks.shutdownHandle {start reg : Registry} (tr : Tracks start reg) (target : Option Nat) :
    Tracks start (reg.shutdownHandle target) := by
  unfold Registry.shutdownHandle
  split
  · exact tr
  · rename_i t _
    by_cases active : reg.active = some t
    · simp only [active, beq_self_eq_true, if_true]
      exact tr.shutdown_only (tr.only_of_active active) none
    · have differ : (reg.active == some t) = false := by simpa using active
      simp only [differ]
      exact tr.shutdown t

@[simp] theorem active_shutdownHandle_none (reg : Registry) :
    (reg.shutdownHandle none).active = none := by
  unfold Registry.shutdownHandle
  cases active : reg.active with
  | none => simp [active]
  | some t => simp

theorem Tracks.not_live_shutdownHandle_none {start reg : Registry} (tr : Tracks start reg)
    (i : Nat) : ¬ (reg.shutdownHandle none).Live i := by
  intro live
  have kept := (tr.shutdownHandle none).onlyActive i live
  rw [active_shutdownHandle_none] at kept
  cases kept

theorem Tracks.attach {start reg : Registry} (tr : Tracks start reg) (noneLive : ∀ i, ¬ reg.Live i)
    (name : String) (level : Int) (format : LineFormat) :
    Tracks start (reg.attach name level format) := by
  have before := tr.restored noneLive
  have onlyNew : ∀ i, (reg.attach name level format).Live i → i = reg.handles.length := by
    rintro i ⟨h, found, alive⟩
    rw [handles_attach] at found
    rcases Nat.lt_or_ge i reg.handles.length with older | later
    · rw [List.getElem?_append_left older] at found
      exact absurd ⟨h, found, alive⟩ (noneLive i)
    · rw [List.getElem?_append_right later] at found
      have : i - reg.handles.length = 0 := by
        cases gap : i - reg.handles.length with
        | zero => rfl
        | succ k => simp [gap] at found
      omega
  refine ⟨fun i live => by rw [onlyNew i live]; rfl, fun m j mem => ?_, fun noneAfter => ?_,
    fun i h found alive => ?_⟩
  · rw [handles_attach, List.length_append, List.length_singleton]
    rw [state_attach] at mem
    split at mem
    · rcases List.mem_append.mp mem with old | new
      · exact Nat.lt_succ_of_lt (tr.attached name j old)
      · rw [List.mem_singleton.mp new]
        exact Nat.lt_succ_self _
    · exact Nat.lt_succ_of_lt (tr.attached m j mem)
  · exact absurd ⟨_, by rw [handles_attach]; exact List.getElem?_concat_length, rfl⟩
      (noneAfter reg.handles.length)
  · have new := onlyNew i ⟨h, found, alive⟩
    subst new
    rw [handles_attach, List.getElem?_concat_length, Option.some.injEq] at found
    subst found
    refine ⟨fun m other => ?_, ?_, by rw [before], by rw [before], fun mem => ?_⟩
    · rw [state_attach, if_neg other, before]
    · rw [state_attach, if_pos rfl, before]
    · exact Nat.lt_irrefl _ (tr.attached name _ (by rwa [before]))

theorem Tracks.step {start reg : Registry} (tr : Tracks start reg) (c : Call) :
    Tracks start (reg.step c) := by
  cases c with
  | setup cfg =>
    rcases setup_cases reg cfg with ⟨failed, -⟩ | ⟨level, format, attached, -⟩
    · rw [Registry.step, failed]
      exact tr.shutdownHandle none
    · rw [Registry.step, attached]
      exact (tr.shutdownHandle none).attach (tr.not_live_shutdownHandle_none) _ level format
  | shutdownActive => exact tr.shutdownHandle none
  | shutdownGiven h => exact tr.shutdownHandle (some h)
  | close h => exact tr.shutdown h

theorem Tracks.run {start reg : Registry} (tr : Tracks start reg) (calls : List Call) :
    Tracks start (reg.run calls) := by
  induction calls generalizing reg with
  | nil => exact tr
  | cons c rest ih => exact ih (tr.step c)

/-! ## The lifecycle -/

/-- A shutdown of a handle that is not live changes nothing: its own shutdown leaves the
registry as it is, and a shutdown through the module only forgets it as the active handle. -/
theorem shutdown_not_live {reg : Registry} {t : Nat} (dead : ¬ reg.Live t) :
    reg.shutdown t = reg ∧
      reg.shutdownHandle (some t) = if reg.active = some t then { reg with active := none } else reg := by
  refine ⟨shutdown_of_not_live dead, ?_⟩
  unfold Registry.shutdownHandle
  by_cases active : reg.active = some t
  · simp only [Option.orElse_some, active, beq_self_eq_true, if_true]
    exact @shutdown_of_not_live { reg with active := none } t dead
  · have differ : (reg.active == some t) = false := by simpa using active
    simp only [Option.orElse_some, differ, active, if_false, Bool.false_eq_true]
    exact shutdown_of_not_live dead

/-- Over any sequence of setups and shutdowns from a registry where no handle is live: at
every point every live handle is the active one (so at most one is live); a shutdown of a
handle already shut down changes nothing but the active handle's forgetting of it, and a
shutdown with no active handle changes nothing; a setup that fails leaves no active handle;
and once no handle is live, every logger has the level, flag and handlers it had at the
start. -/
theorem lifecycle_restores_loggers (start : Registry) (quiet : start.Quiet) :
    (∀ calls i, (start.run calls).Live i → (start.run calls).active = some i) ∧
    (∀ (reg : Registry) t, ¬ reg.Live t → reg.shutdown t = reg ∧
      reg.shutdownHandle (some t) = if reg.active = some t then { reg with active := none } else reg) ∧
    (∀ reg : Registry, reg.active = none → reg.shutdownHandle none = reg) ∧
    (∀ (reg : Registry) cfg f, (reg.setup cfg).2 = .error f → (reg.setup cfg).1.active = none) ∧
    (∀ calls, (∀ i, ¬ (start.run calls).Live i) →
      ∀ name, (start.run calls).state name = start.state name) := by
  refine ⟨fun calls => (quiet.tracks.run calls).onlyActive, fun _ _ dead => shutdown_not_live dead,
    fun reg inactive => ?_, fun reg cfg f failed => ?_,
    fun calls noneLive => (quiet.tracks.run calls).restored noneLive⟩
  · unfold Registry.shutdownHandle
    simp [inactive]
  · rcases setup_cases reg cfg with ⟨same, -⟩ | ⟨level, format, -, answered⟩
    · rw [same, active_shutdownHandle_none]
    · rw [answered] at failed
      cases failed

/-- From a fresh registry, once every handle is shut down, every logger is back in its
initial state. -/
theorem fresh_loggers_restored :
    Registry.empty.Quiet ∧ ∀ calls, (∀ i, ¬ (Registry.empty.run calls).Live i) →
      ∀ name, (Registry.empty.run calls).state name = initialState name := by
  have quiet : Registry.empty.Quiet := by
    refine ⟨fun i ⟨_, found, _⟩ => ?_, fun name j mem => ?_⟩
    · simp [Registry.empty] at found
    · simp only [Registry.empty, state, List.find?_nil, initialState] at mem
      split at mem <;> cases mem
  exact ⟨quiet, fun calls noneLive name =>
    (lifecycle_restores_loggers Registry.empty quiet).2.2.2.2 calls noneLive name⟩

end Registry

end RestConfig.Log
