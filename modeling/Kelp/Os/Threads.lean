import Kelp.Os.Registry

/-! Calls on the registry from several goroutines at once.

The registry's map is guarded by `processLock`, but each call holds the lock only around one
access to the map. `Background` starts its command, then registers it. `Blocking` does the same,
waits for its command with the lock free, and unregisters it after. `Stop` looks its namespace
up, then unregisters it, then kills the process it looked up. Calls from several goroutines
interleave between these accesses. A `Thread` is a call part way through: a step is the section
of the call up to and including its next access to the map, and a schedule picks the thread that
takes the next step.

Run alone, a thread does what the call does in `Kelp.Os.Registry` (`runAlone_thread`), which
models the calls one after another. Under any schedule, a process that was started and that
neither the registry nor any thread holds is never registered, and never killed, again
(`exec_orphan`); and a namespace keeps its process while no thread can take it out, whatever the
calls on other namespaces and the `Background`s and `Blocking`s of it do (`exec_taken`). `Stop`
is not atomic, though: a `Background` of the same namespace that lands between its lookup and
its unregister has its process taken out of the registry by the `Stop`, which kills the process
it looked up instead. All the calls report success, and the new process runs on where no call
can reach it (`stop_race_orphans`). -/
namespace Kelp.Os

namespace KelpOS
variable (kos : KelpOS)

/-- The section of `KelpOS.Background` before it registers its command: the pipes and the start
of the command, which becomes the next process in order. -/
def startCommand (cmd : String) (env : StartEnv) : Except String Process × KelpOS :=
  match env.stdinPipe with
  | .error e => (.error ("could not get Stdin pipe for bash command '" ++ cmd ++ "': " ++ e), kos)
  | .ok () =>
    match env.stdoutPipe with
    | .error e =>
      (.error ("could not get Stdout pipe for bash command '" ++ cmd ++ "': " ++ e), kos)
    | .ok () =>
      match env.start with
      | .error e => (.error ("could not start bash command '" ++ cmd ++ "': " ++ e), kos)
      | .ok () => (.ok ⟨kos.started.length⟩, { kos with started := kos.started ++ [⟨kos.started.length⟩] })

end KelpOS

/-- A call part way through, between two of its accesses to the registry. -/
inductive Thread
  /-- A `Background` not yet started. -/
  | background (ns cmd : String) (env : StartEnv)
  /-- A `Background` whose command started as process `p`, before it registers it. -/
  | registering (ns cmd : String) (p : Process)
  /-- A `Blocking` not yet started. -/
  | blocking (ns cmd : String) (env : RunEnv)
  /-- A `Blocking` whose command started as process `p`, before it registers it. -/
  | blockingRegistering (ns cmd : String) (env : RunEnv) (p : Process)
  /-- A `Blocking` whose command is registered, waiting for it to exit. -/
  | waiting (ns cmd : String) (env : RunEnv)
  /-- A `Stop` not yet started. -/
  | stop (ns : String) (kill : Except String Unit)
  /-- A `Stop` that looked its namespace up and found `p`. -/
  | stopping (ns : String) (kill : Except String Unit) (p : Process)
  | unregister (ns : String)
  | safeUnregister (ns : String)
  /-- A call that returned, with no error or with one. -/
  | done (ok : Bool)

namespace Thread

/-- The thread's next step: the section of its call up to and including its next access to
the registry. A thread that returned stays as it is. -/
def step (kos : KelpOS) : Thread → Thread × KelpOS
  | background ns cmd env =>
    match kos.startCommand cmd env with
    | (.error _, kos) => (done false, kos)
    | (.ok p, kos) => (registering ns cmd p, kos)
  | registering ns _ p =>
    match kos.register ns p with
    | (.error _, kos) => (done false, kos)
    | (.ok (), kos) => (done true, kos)
  | blocking ns cmd env =>
    match kos.startCommand cmd env.start with
    | (.error _, kos) => (done false, kos)
    | (.ok p, kos) => (blockingRegistering ns cmd env p, kos)
  | blockingRegistering ns cmd env p =>
    match kos.register ns p with
    | (.error _, kos) => (done false, kos)
    | (.ok (), kos) => (waiting ns cmd env, kos)
  | waiting ns _ env =>
    match env.wait with
    | .error _ => (done false, kos)
    | .ok () =>
      match kos.unregister ns with
      | (.error _, kos) => (done false, kos)
      | (.ok (), kos) => (done true, kos)
  | stop ns kill =>
    match kos.getProcess ns with
    | some p => (stopping ns kill p, kos)
    | none => (done false, kos)
  | stopping ns kill p =>
    match kos.unregister ns with
    | (.error _, kos) => (done false, kos)
    | (.ok (), kos) => (done kill.isOk, { kos with killed := kos.killed ++ [p] })
  | unregister ns => (done (kos.unregister ns).1.isOk, (kos.unregister ns).2)
  | safeUnregister ns => (done true, kos.safeUnregister ns)
  | done ok => (done ok, kos)

/-- `n` steps of one thread, with no other thread between them. -/
def runAlone : ℕ → Thread → KelpOS → Thread × KelpOS
  | 0, t, kos => (t, kos)
  | n + 1, t, kos => runAlone n (t.step kos).1 (t.step kos).2

/-- The process a thread holds between two of its steps: one it started and has not registered
yet, or one a `Stop` looked up and has not killed yet. -/
def holds : Thread → Option Process
  | registering _ _ p | blockingRegistering _ _ _ p | stopping _ _ p => some p
  | _ => none

end Thread

/-- The thread of a call that has not started. -/
def Call.thread : Call → Thread
  | .background ns cmd env => .background ns cmd env
  | .blocking ns cmd env => .blocking ns cmd env
  | .stop ns kill => .stop ns kill
  | .unregister ns => .unregister ns
  | .safeUnregister ns => .safeUnregister ns

/-! ### A call alone -/

namespace KelpOS
variable (kos : KelpOS)

theorem background_eq_startCommand (ns cmd : String) (env : StartEnv) :
    kos.background ns cmd env =
      match kos.startCommand cmd env with
      | (.error e, kos) => (.error e, kos)
      | (.ok p, kos) =>
        match kos.register ns p with
        | (.error e, kos) => (.error ("error registering bash command '" ++ cmd ++ "': " ++ e), kos)
        | (.ok (), kos) => (.ok p, kos) := by
  unfold background startCommand
  rcases env with ⟨_ | _, _ | _, _ | _⟩ <;> rfl

end KelpOS

/-- **A call run alone is the call of the sequential model.** From any state of the registry,
the steps of a call's thread with no other thread between them return what the call returns in
`Kelp.Os.Registry`, whether it failed or not, and leave the registry as it leaves it. -/
theorem runAlone_thread (kos : KelpOS) (c : Call) :
    c.thread.runAlone 3 kos = (.done (c.apply kos).1, (c.apply kos).2) := by
  cases c with
  | background ns cmd env =>
    simp only [Call.thread, Call.apply, KelpOS.background_eq_startCommand]
    rcases hc : kos.startCommand cmd env with ⟨_ | p, k⟩
    · simp [Thread.runAlone, Thread.step, hc, Except.isOk, Except.toBool]
    · rcases hr : k.register ns p with ⟨_ | _, k'⟩ <;>
        simp [Thread.runAlone, Thread.step, hc, hr, Except.isOk, Except.toBool]
  | blocking ns cmd env =>
    simp only [Call.thread, Call.apply, KelpOS.blocking, KelpOS.background_eq_startCommand]
    rcases hc : kos.startCommand cmd env.start with ⟨_ | p, k⟩
    · simp [Thread.runAlone, Thread.step, hc, Except.isOk, Except.toBool]
    rcases hr : k.register ns p with ⟨_ | _, k'⟩
    · simp [Thread.runAlone, Thread.step, hc, hr, Except.isOk, Except.toBool]
    rcases hw : env.wait with _ | _
    · simp [Thread.runAlone, Thread.step, hc, hr, hw, Except.isOk, Except.toBool]
    rcases hu : k'.unregister ns with ⟨_ | _, k''⟩ <;>
      simp [Thread.runAlone, Thread.step, hc, hr, hw, hu, Except.isOk, Except.toBool]
  | stop ns kill =>
    simp only [Call.thread, Call.apply, KelpOS.stop]
    rcases hp : kos.getProcess ns with _ | p
    · simp [Thread.runAlone, Thread.step, hp, Except.isOk, Except.toBool]
    rcases hu : kos.unregister ns with ⟨_ | _, k⟩ <;>
      simp [Thread.runAlone, Thread.step, hp, hu, Except.isOk, Except.toBool]
  | unregister ns => rfl
  | safeUnregister ns => rfl

/-! ### Schedules -/

/-- Threads part way through their calls, and the registry they share. -/
structure Config where
  kos : KelpOS
  threads : List Thread

namespace Config

/-- Thread `i` takes its next step; a schedule that names no thread changes nothing. -/
def step (s : Config) (i : ℕ) : Config :=
  match s.threads[i]? with
  | none => s
  | some t => ⟨(t.step s.kos).2, s.threads.set i (t.step s.kos).1⟩

/-- The threads take steps in the order a schedule names them. -/
def exec : Config → List ℕ → Config
  | s, [] => s
  | s, i :: rest => exec (s.step i) rest

def start (kos : KelpOS) (calls : List Call) : Config := ⟨kos, calls.map Call.thread⟩

theorem exec_induction {P : Config → Prop} (hstep : ∀ s i, P s → P (s.step i)) :
    ∀ {s : Config} (sched : List ℕ), P s → P (s.exec sched)
  | _, [], hs => hs
  | s, i :: rest, hs => exec_induction hstep rest (hstep s i hs)

theorem step_preserves {G : KelpOS → Prop} {Q : Thread → Prop}
    (hstep : ∀ kos t, G kos → Q t → G (t.step kos).2 ∧ Q (t.step kos).1) (s : Config) (i : ℕ)
    (hs : G s.kos ∧ ∀ t ∈ s.threads, Q t) : G (s.step i).kos ∧ ∀ t ∈ (s.step i).threads, Q t := by
  unfold step
  rcases ht : s.threads[i]? with _ | t
  · exact hs
  · obtain ⟨hg, hq⟩ := hstep s.kos t hs.1 (hs.2 t (List.getElem?_mem ht))
    refine ⟨hg, fun t' ht' => ?_⟩
    rcases List.mem_or_eq_of_mem_set ht' with ht' | rfl
    · exact hs.2 t' ht'
    · exact hq

end Config

/-! ### Orphans -/

/-- The process started `h`-th is an orphan: it was started, the registry does not hold it, no
`Stop` asked to kill it, and no thread holds it. -/
def Orphan (h : ℕ) (s : Config) : Prop :=
  Unreached h s.kos ∧ ∀ t ∈ s.threads, t.holds ≠ some ⟨h⟩

namespace Thread

theorem startCommand_effect (kos : KelpOS) (cmd : String) (env : StartEnv) :
    (∃ e, kos.startCommand cmd env = (.error e, kos)) ∨
      kos.startCommand cmd env =
        (.ok ⟨kos.started.length⟩, { kos with started := kos.started ++ [⟨kos.started.length⟩] }) := by
  unfold KelpOS.startCommand
  rcases env with ⟨_ | _, _ | _, _ | _⟩ <;> simp

theorem register_unreached {h : ℕ} {kos : KelpOS} (hu : Unreached h kos) {p : Process}
    (hp : p ≠ ⟨h⟩) (ns : String) : Unreached h (kos.register ns p).2 := by
  refine ⟨kos.register_started ns p ▸ hu.1, fun n hn => ?_, kos.register_killed ns p ▸ hu.2.2⟩
  rcases KelpOS.register_processes_eq_some hn with hn | ⟨-, e⟩
  · exact hu.2.1 n hn
  · exact hp e.symm

theorem unregister_unreached {h : ℕ} {kos : KelpOS} (hu : Unreached h kos) (ns : String) :
    Unreached h (kos.unregister ns).2 :=
  ⟨by rw [KelpOS.unregister_started]; exact hu.1,
    fun n hn => hu.2.1 n (KelpOS.unregister_processes_eq_some hn),
    by rw [KelpOS.unregister_killed]; exact hu.2.2⟩

/-- A step keeps an orphan one: what a thread starts is new, what it registers it holds, and
what it looks up or kills the registry held. -/
theorem step_orphan {h : ℕ} {kos : KelpOS} (hu : Unreached h kos) (t : Thread)
    (ht : t.holds ≠ some ⟨h⟩) : Unreached h (t.step kos).2 ∧ (t.step kos).1.holds ≠ some ⟨h⟩ := by
  have hstart : ∀ cmd env, Unreached h (kos.startCommand cmd env).2 ∧
      ((kos.startCommand cmd env).1 = .ok ⟨h⟩ → False) := by
    intro cmd env
    rcases startCommand_effect kos cmd env with ⟨e, he⟩ | he <;> rw [he]
    · exact ⟨hu, fun h => by cases h⟩
    · refine ⟨⟨by simpa using Nat.lt_succ_of_lt hu.1, hu.2.1, hu.2.2⟩, fun heq => ?_⟩
      cases heq
      exact absurd hu.1 (lt_irrefl _)
  cases t with
  | background ns cmd env =>
    obtain ⟨hs, hne⟩ := hstart cmd env
    simp only [step]
    rcases hc : kos.startCommand cmd env with ⟨_ | p, k⟩ <;> rw [hc] at hs hne
    · exact ⟨hs, by simp [holds]⟩
    · exact ⟨hs, by simpa [holds] using hne⟩
  | blocking ns cmd env =>
    obtain ⟨hs, hne⟩ := hstart cmd env.start
    simp only [step]
    rcases hc : kos.startCommand cmd env.start with ⟨_ | p, k⟩ <;> rw [hc] at hs hne
    · exact ⟨hs, by simp [holds]⟩
    · exact ⟨hs, by simpa [holds] using hne⟩
  | registering ns cmd p =>
    have hr := register_unreached hu (by simpa [holds] using ht) ns
    simp only [step]
    rcases hc : kos.register ns p with ⟨_ | _, k⟩ <;> rw [hc] at hr <;> exact ⟨hr, by simp [holds]⟩
  | blockingRegistering ns cmd env p =>
    have hr := register_unreached hu (by simpa [holds] using ht) ns
    simp only [step]
    rcases hc : kos.register ns p with ⟨_ | _, k⟩ <;> rw [hc] at hr <;> exact ⟨hr, by simp [holds]⟩
  | waiting ns cmd env =>
    have hr := unregister_unreached hu ns
    simp only [step]
    rcases env.wait with _ | _
    · exact ⟨hu, by simp [holds]⟩
    · rcases hc : kos.unregister ns with ⟨_ | _, k⟩ <;> rw [hc] at hr <;> exact ⟨hr, by simp [holds]⟩
  | stop ns kill =>
    simp only [step, KelpOS.getProcess]
    rcases hp : kos.processes ns with _ | p
    · exact ⟨hu, by simp [holds]⟩
    · refine ⟨hu, ?_⟩
      simp only [holds, ne_eq, Option.some.injEq]
      rintro rfl
      exact hu.2.1 ns hp
  | stopping ns kill p =>
    have hr := unregister_unreached hu ns
    have hp : p ≠ ⟨h⟩ := by simpa [holds] using ht
    simp only [step]
    rcases hc : kos.unregister ns with ⟨_ | _, k⟩ <;> rw [hc] at hr
    · exact ⟨hr, by simp [holds]⟩
    · refine ⟨⟨hr.1, hr.2.1, fun hk => ?_⟩, by simp [holds]⟩
      rcases List.mem_append.mp hk with hk | hk
      · exact hr.2.2 hk
      · exact hp (List.mem_singleton.mp hk).symm
  | unregister ns => exact ⟨unregister_unreached hu ns, by simp [step, holds]⟩
  | safeUnregister ns => exact ⟨unregister_unreached hu ns, by simp [step, holds]⟩
  | done ok => exact ⟨hu, ht⟩

end Thread

/-- **An orphan stays one.** Under any schedule of any threads, a process that was started and
that neither the registry nor any thread holds, and that no `Stop` asked to kill, is never
registered, held or killed afterwards. -/
theorem exec_orphan {h : ℕ} {s : Config} (hs : Orphan h s) : ∀ sched, Orphan h (s.exec sched) :=
  fun sched => Config.exec_induction (P := Orphan h)
    (Config.step_preserves fun _ t hu ht => t.step_orphan hu ht) sched hs

/-- A process started and left to itself, and a `Stop` that has not started. -/
def strayProcess : Config := ⟨⟨fun _ => none, [⟨0⟩], []⟩, [.stop "trade" (.ok ())]⟩

theorem exec_orphan_strayProcess : Orphan 0 (strayProcess.exec [0, 0]) :=
  exec_orphan ⟨⟨by decide, fun _ => Option.noConfusion, List.not_mem_nil _⟩,
    fun t ht => by simp only [strayProcess, List.mem_singleton] at ht; subst ht; exact Option.noConfusion⟩ _

/-! ### Taken namespaces -/

namespace Thread

/-- The thread can take `ns` out of the registry at one of its next steps: a `Stop`, an
`Unregister` or a `SafeUnregister` of `ns`, or a `Blocking` of `ns` waiting to unregister its
command. -/
def frees (ns : String) : Thread → Prop
  | stop n _ | stopping n _ _ | waiting n _ _ | unregister n | safeUnregister n => n = ns
  | _ => False

theorem register_processes_of_taken {kos : KelpOS} {ns : String} {q : Process}
    (hq : kos.processes ns = some q) (n : String) (p : Process) :
    (kos.register n p).2.processes ns = some q := by
  rw [KelpOS.register_processes]
  split_ifs with h
  · rw [Function.update_noteq fun e => by rw [← e, hq] at h; cases h]
    exact hq
  · exact hq

/-- A step keeps a taken namespace to its process unless the thread can free it, and a thread
that cannot free it never comes to: a `Blocking` of it fails to register. -/
theorem step_taken {kos : KelpOS} {ns : String} {q : Process} (hq : kos.processes ns = some q)
    (t : Thread) (ht : ¬ t.frees ns) : (t.step kos).2.processes ns = some q ∧ ¬ (t.step kos).1.frees ns := by
  have hunreg : ∀ n, ¬ n = ns → (kos.unregister n).2.processes ns = some q := fun n hn => by
    rw [KelpOS.unregister_processes, Function.update_noteq (Ne.symm hn)]
    exact hq
  cases t with
  | background n cmd env =>
    rcases startCommand_effect kos cmd env with ⟨e, he⟩ | he <;> simp [step, he, frees, hq]
  | blocking n cmd env =>
    rcases startCommand_effect kos cmd env.start with ⟨e, he⟩ | he <;> simp [step, he, frees, hq]
  | registering n cmd p =>
    have hr := register_processes_of_taken hq n p
    simp only [step]
    rcases hc : kos.register n p with ⟨_ | _, k⟩ <;> rw [hc] at hr <;> exact ⟨hr, id⟩
  | blockingRegistering n cmd env p =>
    have hr := register_processes_of_taken hq n p
    simp only [step]
    rcases hc : kos.register n p with ⟨_ | _, k⟩ <;> rw [hc] at hr
    · exact ⟨hr, id⟩
    · refine ⟨hr, fun hn : n = ns => ?_⟩
      obtain ⟨e, he⟩ := (KelpOS.register_error_iff n p).mpr (by rw [hn, hq]; exact Option.some_ne_none q)
      rw [hc] at he
      cases he
  | waiting n cmd env =>
    simp only [step]
    rcases env.wait with _ | _
    · exact ⟨hq, id⟩
    · have hu := hunreg n ht
      rcases hc : kos.unregister n with ⟨_ | _, k⟩ <;> rw [hc] at hu <;> exact ⟨hu, id⟩
  | stop n kill =>
    simp only [step]
    rcases kos.getProcess n with _ | p
    · exact ⟨hq, id⟩
    · exact ⟨hq, ht⟩
  | stopping n kill p =>
    have hu := hunreg n ht
    simp only [step]
    rcases hc : kos.unregister n with ⟨_ | _, k⟩ <;> rw [hc] at hu <;> exact ⟨hu, id⟩
  | unregister n => exact ⟨hunreg n ht, id⟩
  | safeUnregister n => exact ⟨hunreg n ht, id⟩
  | done ok => exact ⟨hq, id⟩

end Thread

/-- `ns` is registered to `q`, and no thread can free it. -/
def Taken (ns : String) (q : Process) (s : Config) : Prop :=
  s.kos.processes ns = some q ∧ ∀ t ∈ s.threads, ¬ t.frees ns

/-- **No call disturbs a namespace it cannot free.** Under any schedule of any threads, a
namespace registered to a process stays registered to it while no thread is a `Stop`, an
`Unregister` or a `SafeUnregister` of it, or a `Blocking` of it waiting to unregister its
command: calls on other namespaces, and every `Background` or `Blocking` of it, leave it as it
is. -/
theorem exec_taken {ns : String} {q : Process} {s : Config} (hs : Taken ns q s) :
    ∀ sched, Taken ns q (s.exec sched) :=
  fun sched => Config.exec_induction (P := Taken ns q)
    (Config.step_preserves (G := fun kos => kos.processes ns = some q) (Q := fun t => ¬ t.frees ns)
      fun _ t hq ht => t.step_taken hq ht) sched hs

/-- A registered `kelp trade` command, a `Background` and a failing `Blocking` of its namespace,
and a `Stop` of another. -/
def tradeContenders : Config :=
  ⟨run KelpOS.empty [.background "trade" "kelp trade" ⟨.ok (), .ok (), .ok ()⟩],
    [.background "trade" "kelp trade" ⟨.ok (), .ok (), .ok ()⟩, .blocking "trade" "kelp trade" failedTrade,
      .stop "server" (.ok ())]⟩

theorem exec_taken_tradeContenders : Taken "trade" ⟨0⟩ (tradeContenders.exec [0, 1, 2, 0, 1, 2]) :=
  exec_taken ⟨by simp [tradeContenders, run, Call.apply, KelpOS.background, KelpOS.register, KelpOS.empty],
    by simp [tradeContenders, Thread.frees]⟩ _

/-! ### The race of `Stop` -/

/-- Three calls on one namespace: a `Stop` whose kill succeeds, an `Unregister`, and a
`Background` whose command starts. -/
def raceCalls (ns cmd : String) : List Call :=
  [.stop ns (.ok ()), .unregister ns, .background ns cmd ⟨.ok (), .ok (), .ok ()⟩]

theorem race_exec (kos : KelpOS) {ns : String} {p : Process} (hp : kos.processes ns = some p)
    (cmd : String) (others : List Call) :
    (Config.start kos (raceCalls ns cmd ++ others)).exec [0, 1, 2, 2, 0] =
      ⟨⟨Function.update kos.processes ns none, kos.started ++ [⟨kos.started.length⟩],
        kos.killed ++ [p]⟩, [.done true, .done true, .done true] ++ others.map Call.thread⟩ := by
  simp [Config.exec, Config.step, Config.start, raceCalls, Thread.step, KelpOS.getProcess, hp,
    KelpOS.unregister, KelpOS.startCommand, KelpOS.register, Call.thread, Except.isOk,
    Except.toBool]

/-- **`Stop` is not atomic, and a racing `Background` loses its process.** Take any registry
that keeps track of its processes and holds `p` under `ns`, and any other calls not yet started.
Let a `Stop` of `ns` look `p` up, an `Unregister` of `ns` take it out, a `Background` of `ns`
start its command and register it there, and the `Stop` go on. All three calls report success
and the `Stop` kills `p`, but it has taken the new process out of the registry: under any
schedule after, that process is never registered, held or killed. -/
theorem stop_race_orphans (kos : KelpOS) (hk : Tracked kos) {ns : String} {p : Process}
    (hp : kos.processes ns = some p) (cmd : String) (others : List Call) (sched : List ℕ) :
    ((Config.start kos (raceCalls ns cmd ++ others)).exec [0, 1, 2, 2, 0]).threads.take 3 =
        [.done true, .done true, .done true] ∧
      ((Config.start kos (raceCalls ns cmd ++ others)).exec [0, 1, 2, 2, 0]).kos.killed =
        kos.killed ++ [p] ∧
      Orphan kos.started.length
        (((Config.start kos (raceCalls ns cmd ++ others)).exec [0, 1, 2, 2, 0]).exec sched) := by
  rw [race_exec kos hp]
  refine ⟨by simp, rfl, exec_orphan ⟨⟨by simp, fun n hn => ?_, fun hkill => ?_⟩, fun t ht => ?_⟩ sched⟩
  · dsimp only at hn
    by_cases hns : n = ns
    · subst hns
      simp at hn
    · rw [Function.update_noteq hns] at hn
      exact lt_irrefl _ (hk.1 n _ hn)
  · dsimp only at hkill
    rcases List.mem_append.mp hkill with hkill | hkill
    · exact lt_irrefl _ (hk.2 _ hkill)
    · rw [List.mem_singleton] at hkill
      exact lt_irrefl _ (hkill ▸ hk.1 ns p hp)
  · simp only [List.mem_append, List.mem_cons, List.mem_map, List.not_mem_nil, or_false] at ht
    rcases ht with (rfl | rfl | rfl) | ⟨c, -, rfl⟩
    any_goals exact Option.noConfusion
    cases c <;> exact Option.noConfusion

theorem stop_race_orphans_trade :
    ((Config.start (run KelpOS.empty [.background "trade" "kelp trade" ⟨.ok (), .ok (), .ok ()⟩])
        (raceCalls "trade" "kelp trade" ++ [])).exec [0, 1, 2, 2, 0]).threads.take 3 =
        [.done true, .done true, .done true] ∧
      ((Config.start (run KelpOS.empty [.background "trade" "kelp trade" ⟨.ok (), .ok (), .ok ()⟩])
        (raceCalls "trade" "kelp trade" ++ [])).exec [0, 1, 2, 2, 0]).kos.killed =
        (run KelpOS.empty [.background "trade" "kelp trade" ⟨.ok (), .ok (), .ok ()⟩]).killed ++ [⟨0⟩] ∧
      Orphan (run KelpOS.empty [.background "trade" "kelp trade" ⟨.ok (), .ok (), .ok ()⟩]).started.length
        (((Config.start (run KelpOS.empty [.background "trade" "kelp trade" ⟨.ok (), .ok (), .ok ()⟩])
          (raceCalls "trade" "kelp trade" ++ [])).exec [0, 1, 2, 2, 0]).exec []) :=
  stop_race_orphans _ (run_tracked _ tracked_empty)
    (by simp [run, Call.apply, KelpOS.background, KelpOS.register, KelpOS.empty]) _ _ _

end Kelp.Os
