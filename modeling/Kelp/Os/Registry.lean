import Mathlib.Logic.Function.Basic
import Mathlib.Data.List.Basic

/-! The process registry of `KelpOS`: the bash commands the GUI server runs, by namespace.

`Background` starts a command and registers it under a namespace; `Blocking` runs one to its
end and unregisters it; `Stop` unregisters a command and kills it. The registry is a map under a
lock, so its calls are modelled one after another. What the system answers (the pipes, the
start, the wait, the kill, the output) is an input of each call. A process is known by the
order in which it was started; the model also keeps which processes were started and which
`Stop` asked to be killed, the part of the system the registry is there to track.

Two facts hold over whole runs. A `Blocking` whose command fails leaves its namespace registered,
and from then on every `Background` and `Blocking` on that namespace fails, until an
`Unregister`, `SafeUnregister` or `Stop` of it (`failed_blocking_blocks_namespace`). A
`Background` on a taken namespace starts its command all the same and leaves it running
unregistered, where no later `Stop` ever reaches it (`orphan_never_killed`). -/
namespace Kelp.Os

/-- `kelpos.Process`: a started bash command, known by the order it was started in. -/
structure Process where
  handle : ℕ
  deriving DecidableEq

/-- `KelpOS`: the processes registered by namespace; and the processes started so far and those
`Stop` asked to be killed, in order. -/
structure KelpOS where
  processes : String → Option Process
  started : List Process
  killed : List Process

/-- What the system answers while `Background` starts a command. -/
structure StartEnv where
  stdinPipe : Except String Unit
  stdoutPipe : Except String Unit
  start : Except String Unit

/-- What the system answers while `Blocking` runs a command: its start, its exit, and what was
read of its output with the read's error, if any. -/
structure RunEnv where
  start : StartEnv
  wait : Except String Unit
  output : List UInt8 × Option String

namespace KelpOS
variable (kos : KelpOS)

/-- `KelpOS.register`. -/
def register (ns : String) (p : Process) : Except String Unit × KelpOS :=
  match kos.processes ns with
  | some _ => (.error ("process with namespace already exists: " ++ ns), kos)
  | none => (.ok (), { kos with processes := Function.update kos.processes ns (some p) })

/-- `KelpOS.Unregister`. -/
def unregister (ns : String) : Except String Unit × KelpOS :=
  match kos.processes ns with
  | some _ => (.ok (), { kos with processes := Function.update kos.processes ns none })
  | none => (.error ("process with namespace does not exist: " ++ ns), kos)

/-- `KelpOS.GetProcess`. -/
def getProcess (ns : String) : Option Process := kos.processes ns

/-- `KelpOS.SafeUnregister`. -/
def safeUnregister (ns : String) : KelpOS := (kos.unregister ns).2

/-- `KelpOS.Stop`, given what the process's `Kill` answers. -/
def stop (ns : String) (kill : Except String Unit) : Except String Unit × KelpOS :=
  match kos.getProcess ns with
  | some p =>
    match kos.unregister ns with
    | (.error e, kos) =>
      (.error ("could not stop command because of an error when unregistering command for " ++
        "namespace '" ++ ns ++ "': " ++ e), kos)
    | (.ok (), kos) => (kill, { kos with killed := kos.killed ++ [p] })
  | none => (.error ("process with namespace does not exist: " ++ ns), kos)

/-- `KelpOS.Background`. -/
def background (ns cmd : String) (env : StartEnv) : Except String Process × KelpOS :=
  match env.stdinPipe with
  | .error e => (.error ("could not get Stdin pipe for bash command '" ++ cmd ++ "': " ++ e), kos)
  | .ok () =>
    match env.stdoutPipe with
    | .error e =>
      (.error ("could not get Stdout pipe for bash command '" ++ cmd ++ "': " ++ e), kos)
    | .ok () =>
      match env.start with
      | .error e => (.error ("could not start bash command '" ++ cmd ++ "': " ++ e), kos)
      | .ok () =>
        let p : Process := ⟨kos.started.length⟩
        match { kos with started := kos.started ++ [p] }.register ns p with
        | (.error e, kos) =>
          (.error ("error registering bash command '" ++ cmd ++ "': " ++ e), kos)
        | (.ok (), kos) => (.ok p, kos)

/-- `KelpOS.Blocking`. -/
def blocking (ns cmd : String) (env : RunEnv) :
    Except String (List UInt8 × Option String) × KelpOS :=
  match kos.background ns cmd env.start with
  | (.error e, kos) =>
    (.error ("could not run bash command in background '" ++ cmd ++ "': " ++ e), kos)
  | (.ok _, kos) =>
    match env.wait with
    | .error e => (.error ("error waiting for bash command '" ++ cmd ++ "': " ++ e), kos)
    | .ok () =>
      match kos.unregister ns with
      | (.error e, kos) => (.error ("error unregistering bash command '" ++ cmd ++ "': " ++ e), kos)
      | (.ok (), kos) => (.ok env.output, kos)

end KelpOS

/-! ### Runs -/

/-- A call on the registry, with what the system answers during it. -/
inductive Call
  | background (ns cmd : String) (env : StartEnv)
  | blocking (ns cmd : String) (env : RunEnv)
  | stop (ns : String) (kill : Except String Unit)
  | unregister (ns : String)
  | safeUnregister (ns : String)

namespace Call

/-- The call's effect on the registry, and whether it returned no error. -/
def apply (kos : KelpOS) : Call → Bool × KelpOS
  | background ns cmd env => ((kos.background ns cmd env).1.isOk, (kos.background ns cmd env).2)
  | blocking ns cmd env => ((kos.blocking ns cmd env).1.isOk, (kos.blocking ns cmd env).2)
  | stop ns kill => ((kos.stop ns kill).1.isOk, (kos.stop ns kill).2)
  | unregister ns => ((kos.unregister ns).1.isOk, (kos.unregister ns).2)
  | safeUnregister ns => (true, kos.safeUnregister ns)

/-- The call registers a command under `ns` if it succeeds. -/
def starts (ns : String) : Call → Prop
  | background n .. | blocking n .. => n = ns
  | _ => False

/-- The call can take `ns` out of the registry. -/
def frees (ns : String) : Call → Prop
  | stop n _ | unregister n | safeUnregister n => n = ns
  | _ => False

end Call

/-- Calls one after another. -/
def run : KelpOS → List Call → KelpOS
  | kos, [] => kos
  | kos, c :: rest => run (c.apply kos).2 rest

/-- What each call returns when the calls are made one after another. -/
def results : KelpOS → List Call → List Bool
  | _, [] => []
  | kos, c :: rest => (c.apply kos).1 :: results (c.apply kos).2 rest

theorem run_append (kos : KelpOS) (a b : List Call) : run kos (a ++ b) = run (run kos a) b := by
  induction a generalizing kos with
  | nil => rfl
  | cons c rest ih => exact ih _

namespace KelpOS
variable {kos : KelpOS}

/-! ### One call -/

theorem register_processes (ns : String) (p : Process) :
    (kos.register ns p).2.processes =
      if kos.processes ns = none then Function.update kos.processes ns (some p)
      else kos.processes := by
  unfold register
  cases kos.processes ns <;> rfl

theorem register_error_iff (ns : String) (p : Process) :
    (∃ e, (kos.register ns p).1 = .error e) ↔ kos.processes ns ≠ none := by
  unfold register
  cases kos.processes ns <;> simp

variable (kos) in
theorem unregister_processes (ns : String) :
    (kos.unregister ns).2.processes = Function.update kos.processes ns none := by
  unfold unregister
  cases h : kos.processes ns
  · show kos.processes = _
    rw [← h, Function.update_eq_self]
  · rfl

variable (kos) in
theorem register_started (ns : String) (p : Process) : (kos.register ns p).2.started = kos.started := by
  unfold register
  cases kos.processes ns <;> rfl

variable (kos) in
theorem register_killed (ns : String) (p : Process) : (kos.register ns p).2.killed = kos.killed := by
  unfold register
  cases kos.processes ns <;> rfl

/-- A registration adds at most its own process, under its own namespace. -/
theorem register_processes_eq_some {ns n : String} {r q : Process}
    (h : (kos.register ns r).2.processes n = some q) : kos.processes n = some q ∨ (n = ns ∧ q = r) := by
  rw [register_processes] at h
  split_ifs at h
  · by_cases hn : n = ns
    · subst hn
      rw [Function.update_same, Option.some.injEq] at h
      exact .inr ⟨rfl, h.symm⟩
    · rw [Function.update_noteq hn] at h
      exact .inl h
  · exact .inl h

/-- An unregistration only takes its namespace out. -/
theorem unregister_processes_eq_some {ns n : String} {q : Process}
    (h : (kos.unregister ns).2.processes n = some q) : kos.processes n = some q := by
  rw [unregister_processes] at h
  by_cases hn : n = ns
  · subst hn
    simp at h
  · rwa [Function.update_noteq hn] at h

/-- A `Background` on a taken namespace fails, and registers nothing. -/
theorem background_taken {ns : String} (h : kos.processes ns ≠ none) (cmd : String)
    (env : StartEnv) :
    (∃ e, (kos.background ns cmd env).1 = .error e) ∧
      (kos.background ns cmd env).2.processes = kos.processes := by
  obtain ⟨p, hp⟩ := Option.ne_none_iff_exists'.mp h
  unfold background register
  rcases env with ⟨_ | _, _ | _, _ | _⟩ <;> simp [hp]

variable (kos) in
/-- What a `Background` can do: start one process, the next in order, and register it under
its namespace if that was free; it kills nothing. -/
theorem background_effect (ns cmd : String) (env : StartEnv) :
    ((kos.background ns cmd env).2.started = kos.started ∧
        (kos.background ns cmd env).2.processes = kos.processes) ∨
      ((kos.background ns cmd env).2.started = kos.started ++ [⟨kos.started.length⟩] ∧
        ((kos.background ns cmd env).2.processes = kos.processes ∨
          (kos.processes ns = none ∧ (kos.background ns cmd env).2.processes =
            Function.update kos.processes ns (some ⟨kos.started.length⟩)))) := by
  unfold background register
  rcases env with ⟨_ | _, _ | _, _ | _⟩ <;> try exact .inl ⟨rfl, rfl⟩
  dsimp only
  cases h : kos.processes ns
  · exact .inr ⟨rfl, .inr ⟨rfl, rfl⟩⟩
  · exact .inr ⟨rfl, .inl rfl⟩

theorem background_killed (ns cmd : String) (env : StartEnv) :
    (kos.background ns cmd env).2.killed = kos.killed := by
  unfold background register
  rcases env with ⟨_ | _, _ | _, _ | _⟩ <;> try rfl
  dsimp only
  cases kos.processes ns <;> rfl

theorem unregister_started (ns : String) : (kos.unregister ns).2.started = kos.started := by
  unfold unregister
  cases kos.processes ns <;> rfl

theorem unregister_killed (ns : String) : (kos.unregister ns).2.killed = kos.killed := by
  unfold unregister
  cases kos.processes ns <;> rfl

variable (kos) in
/-- What a `Blocking` can do: what its `Background` does, then perhaps unregister its
namespace. -/
theorem blocking_eq (ns cmd : String) (env : RunEnv) :
    (kos.blocking ns cmd env).2 = (kos.background ns cmd env.start).2 ∨
      (kos.blocking ns cmd env).2 = ((kos.background ns cmd env.start).2.unregister ns).2 := by
  unfold blocking
  rcases kos.background ns cmd env.start with ⟨_ | _, kos'⟩
  · exact .inl rfl
  · rcases env.wait with _ | _
    · exact .inl rfl
    · dsimp only
      rcases kos'.unregister ns with ⟨_ | _, kos''⟩ <;> exact .inr rfl

/-- A `Blocking` on a taken namespace fails at its `Background`, and registers nothing. -/
theorem blocking_taken {ns : String} (h : kos.processes ns ≠ none) (cmd : String) (env : RunEnv) :
    (∃ e, (kos.blocking ns cmd env).1 = .error e) ∧
      (kos.blocking ns cmd env).2.processes = kos.processes := by
  obtain ⟨⟨e, he⟩, hp⟩ := background_taken h cmd env.start
  unfold blocking
  rcases hb : kos.background ns cmd env.start with ⟨_ | _, k⟩ <;> rw [hb] at he hp
  · exact ⟨⟨_, rfl⟩, hp⟩
  · cases he

/-- When the system lets it, `Background` starts the next process in order. -/
theorem background_started_of_ok (ns cmd : String) :
    (kos.background ns cmd ⟨.ok (), .ok (), .ok ()⟩).2.started =
      kos.started ++ [⟨kos.started.length⟩] := by
  unfold background register
  dsimp only
  cases kos.processes ns <;> rfl

variable (kos) in
/-- What a `Stop` can do: take its namespace out of the registry, and ask to kill the process
registered there. -/
theorem stop_effect (ns : String) (kill : Except String Unit) :
    (kos.stop ns kill).2.started = kos.started ∧
      (kos.stop ns kill).2.processes = Function.update kos.processes ns none ∧
      ((kos.stop ns kill).2.killed = kos.killed ∨
        ∃ q, kos.processes ns = some q ∧ (kos.stop ns kill).2.killed = kos.killed ++ [q]) := by
  unfold stop getProcess unregister
  cases h : kos.processes ns
  · refine ⟨rfl, ?_, .inl rfl⟩
    show kos.processes = _
    rw [← h, Function.update_eq_self]
  · exact ⟨rfl, rfl, .inr ⟨_, rfl, rfl⟩⟩

/-- A fresh `KelpOS`: nothing registered, started or killed. -/
def empty : KelpOS := ⟨fun _ => none, [], []⟩

end KelpOS

namespace Call

/-- What one call can do: start the next process in order, register it, take namespaces out of
the registry, and ask to kill a process registered before it. -/
theorem apply_effect (kos : KelpOS) (c : Call) :
    ((c.apply kos).2.started = kos.started ∨
        (c.apply kos).2.started = kos.started ++ [⟨kos.started.length⟩]) ∧
      (∀ n q, (c.apply kos).2.processes n = some q →
        kos.processes n = some q ∨
          (q = ⟨kos.started.length⟩ ∧
            (c.apply kos).2.started = kos.started ++ [⟨kos.started.length⟩])) ∧
      ((c.apply kos).2.killed = kos.killed ∨
        ∃ n q, kos.processes n = some q ∧ (c.apply kos).2.killed = kos.killed ++ [q]) := by
  have hbg : ∀ ns cmd env n q, (kos.background ns cmd env).2.processes n = some q →
      kos.processes n = some q ∨ (q = ⟨kos.started.length⟩ ∧
        (kos.background ns cmd env).2.started = kos.started ++ [⟨kos.started.length⟩]) := by
    intro ns cmd env n q hq
    rcases kos.background_effect ns cmd env with ⟨-, hp⟩ | ⟨hs, hp | ⟨-, hp⟩⟩
    · exact .inl (hp ▸ hq)
    · exact .inl (hp ▸ hq)
    · rw [hp] at hq
      by_cases hn : n = ns
      · subst hn
        rw [Function.update_same, Option.some.injEq] at hq
        exact .inr ⟨hq.symm, hs⟩
      · exact .inl (by rwa [Function.update_noteq hn] at hq)
  have hbgs : ∀ ns cmd env, (kos.background ns cmd env).2.started = kos.started ∨
      (kos.background ns cmd env).2.started = kos.started ++ [⟨kos.started.length⟩] :=
    fun ns cmd env => (kos.background_effect ns cmd env).imp (·.1) (·.1)
  cases c with
  | background ns cmd env =>
    exact ⟨hbgs ns cmd env, hbg ns cmd env, .inl (KelpOS.background_killed ns cmd env)⟩
  | blocking ns cmd env =>
    rcases kos.blocking_eq ns cmd env with h | h <;> simp only [apply, h]
    · exact ⟨hbgs ns cmd env.start, hbg ns cmd env.start,
        .inl (KelpOS.background_killed ns cmd env.start)⟩
    · rw [KelpOS.unregister_started, KelpOS.unregister_killed]
      exact ⟨hbgs ns cmd env.start, fun n q hq => hbg ns cmd env.start n q (KelpOS.unregister_processes_eq_some hq),
        .inl (KelpOS.background_killed ns cmd env.start)⟩
  | stop ns kill =>
    obtain ⟨hs, hp, hk⟩ := kos.stop_effect ns kill
    refine ⟨.inl hs, fun n q hq => .inl ?_, hk.imp_right fun ⟨q, hq, h⟩ => ⟨ns, q, hq, h⟩⟩
    exact KelpOS.unregister_processes_eq_some
      (show (kos.unregister ns).2.processes n = some q by rwa [KelpOS.unregister_processes, ← hp])
  | unregister ns =>
    exact ⟨.inl (KelpOS.unregister_started ns), fun n q hq => .inl (KelpOS.unregister_processes_eq_some hq),
      .inl (KelpOS.unregister_killed ns)⟩
  | safeUnregister ns =>
    exact ⟨.inl (KelpOS.unregister_started ns), fun n q hq => .inl (KelpOS.unregister_processes_eq_some hq),
      .inl (KelpOS.unregister_killed ns)⟩

/-- A call that cannot free `ns` keeps the process registered there, and one that would
register a command under `ns` fails. -/
theorem apply_taken {ns : String} {kos : KelpOS} {p : Process} (h : kos.processes ns = some p)
    (c : Call) (hc : ¬ c.frees ns) :
    (c.apply kos).2.processes ns = some p ∧ (c.starts ns → (c.apply kos).1 = false) := by
  have htaken : kos.processes ns ≠ none := by simp [h]
  have hunreg : ∀ (k : KelpOS) n, n ≠ ns → (k.unregister n).2.processes ns = k.processes ns :=
    fun k n hn => by rw [KelpOS.unregister_processes, Function.update_noteq (Ne.symm hn)]
  cases c with
  | background n cmd env =>
    by_cases hn : n = ns
    · subst hn
      obtain ⟨⟨e, he⟩, hp⟩ := KelpOS.background_taken htaken cmd env
      exact ⟨by simp only [apply, hp, h], fun _ => by simp only [apply, he]; rfl⟩
    · refine ⟨?_, fun hs => absurd hs hn⟩
      rcases kos.background_effect n cmd env with ⟨-, hp⟩ | ⟨-, hp | ⟨-, hp⟩⟩ <;>
        simp only [apply, hp, h, Function.update_noteq (Ne.symm hn)]
  | blocking n cmd env =>
    by_cases hn : n = ns
    · subst hn
      obtain ⟨⟨e, he⟩, hp⟩ := KelpOS.blocking_taken htaken cmd env
      exact ⟨by simp only [apply, hp, h], fun _ => by simp only [apply, he]; rfl⟩
    · refine ⟨?_, fun hs => absurd hs hn⟩
      have hbg : (kos.background n cmd env.start).2.processes ns = some p := by
        rcases kos.background_effect n cmd env.start with
          ⟨-, hp⟩ | ⟨-, hp | ⟨-, hp⟩⟩ <;> simp only [hp, h, Function.update_noteq (Ne.symm hn)]
      rcases kos.blocking_eq n cmd env with hb | hb <;> simp only [apply, hb]
      · exact hbg
      · rw [hunreg _ n hn, hbg]
  | stop n kill =>
    have hn : n ≠ ns := hc
    refine ⟨?_, fun hs => hs.elim⟩
    simp only [apply, (kos.stop_effect n kill).2.1, h,
      Function.update_noteq (Ne.symm hn)]
  | unregister n =>
    have hn : n ≠ ns := hc
    exact ⟨by simp only [apply, hunreg kos n hn, h], fun hs => hs.elim⟩
  | safeUnregister n =>
    have hn : n ≠ ns := hc
    exact ⟨by simp only [apply, KelpOS.safeUnregister, hunreg kos n hn, h], fun hs => hs.elim⟩

end Call

/-! ### Whole runs -/

/-- Every process the registry holds, or that `Stop` asked to kill, was started. -/
def Tracked (kos : KelpOS) : Prop :=
  (∀ n q, kos.processes n = some q → q.handle < kos.started.length) ∧
    ∀ q ∈ kos.killed, q.handle < kos.started.length

/-- The process started `h`-th was started, is not registered, and no `Stop` asked to kill
it. -/
def Unreached (h : ℕ) (kos : KelpOS) : Prop :=
  h < kos.started.length ∧ (∀ n, kos.processes n ≠ some ⟨h⟩) ∧ (⟨h⟩ : Process) ∉ kos.killed

namespace Call

theorem apply_started_length (kos : KelpOS) (c : Call) :
    kos.started.length ≤ (c.apply kos).2.started.length := by
  rcases (apply_effect kos c).1 with h | h <;> simp [h]

theorem apply_tracked {kos : KelpOS} (hk : Tracked kos) (c : Call) : Tracked (c.apply kos).2 := by
  obtain ⟨-, hp, hkill⟩ := apply_effect kos c
  have hlen := apply_started_length kos c
  refine ⟨fun n q hq => ?_, fun q hq => ?_⟩
  · rcases hp n q hq with h | ⟨rfl, h⟩
    · exact (hk.1 n q h).trans_le hlen
    · simp [h]
  · rcases hkill with h | ⟨n, q', hq', h⟩
    · exact (hk.2 q (h ▸ hq)).trans_le hlen
    · rw [h] at hq
      rcases List.mem_append.mp hq with hq | hq
      · exact (hk.2 q hq).trans_le hlen
      · rw [List.mem_singleton.mp hq]
        exact (hk.1 n q' hq').trans_le hlen

theorem apply_unreached {kos : KelpOS} {h : ℕ} (hu : Unreached h kos) (c : Call) :
    Unreached h (c.apply kos).2 := by
  obtain ⟨-, hp, hkill⟩ := apply_effect kos c
  obtain ⟨hlt, hreg, hnk⟩ := hu
  refine ⟨hlt.trans_le (apply_started_length kos c), fun n hn => ?_, fun hk => ?_⟩
  · rcases hp n _ hn with e | ⟨e, -⟩
    · exact hreg n e
    · rw [Process.mk.injEq] at e
      omega
  · rcases hkill with e | ⟨n, q, hq, e⟩
    · exact hnk (e ▸ hk)
    · rw [e] at hk
      rcases List.mem_append.mp hk with hk | hk
      · exact hnk hk
      · exact hreg n (List.mem_singleton.mp hk ▸ hq)

end Call

theorem run_tracked : ∀ {kos : KelpOS} (calls : List Call), Tracked kos → Tracked (run kos calls)
  | _, [], hk => hk
  | _, c :: rest, hk => run_tracked rest (c.apply_tracked hk)

theorem run_unreached {h : ℕ} :
    ∀ {kos : KelpOS} (calls : List Call), Unreached h kos → Unreached h (run kos calls)
  | _, [], hu => hu
  | _, c :: rest, hu => run_unreached rest (c.apply_unreached hu)

theorem tracked_empty : Tracked KelpOS.empty :=
  ⟨fun _ _ h => (by simp [KelpOS.empty] at h), fun _ h => (by simp [KelpOS.empty] at h)⟩

theorem run_taken {ns : String} {p : Process} :
    ∀ {kos : KelpOS} (calls : List Call), kos.processes ns = some p → (∀ c ∈ calls, ¬ c.frees ns) →
      (run kos calls).processes ns = some p
  | _, [], h, _ => h
  | _, c :: rest, h, hc =>
    run_taken rest (c.apply_taken h (hc c (List.mem_cons_self _ _))).1
      fun c' hc' => hc c' (List.mem_cons_of_mem _ hc')

/-- **A failed `Blocking` blocks its namespace.** A `Blocking` on a free namespace whose
command starts and then fails returns an error and leaves the command registered. As long as
no later call can free that namespace, it stays registered, and every later `Background` or
`Blocking` on it fails. -/
theorem failed_blocking_blocks_namespace (kos : KelpOS) {ns cmd : String} {env : RunEnv}
    {e : String} (hfree : kos.processes ns = none) (hstart : env.start = ⟨.ok (), .ok (), .ok ()⟩)
    (hw : env.wait = .error e) (post : List Call) (hpost : ∀ c ∈ post, ¬ c.frees ns) :
    (kos.blocking ns cmd env).1.isOk = false ∧
      (run kos (.blocking ns cmd env :: post)).processes ns = some ⟨kos.started.length⟩ ∧
      ∀ mid c rest, post = mid ++ c :: rest → c.starts ns →
        (c.apply (run kos (.blocking ns cmd env :: mid))).1 = false := by
  have hb : kos.background ns cmd env.start = (.ok ⟨kos.started.length⟩,
      ⟨Function.update kos.processes ns (some ⟨kos.started.length⟩),
        kos.started ++ [⟨kos.started.length⟩], kos.killed⟩) := by
    rw [hstart]
    simp [KelpOS.background, KelpOS.register, hfree]
  have hblk : kos.blocking ns cmd env = (.error ("error waiting for bash command '" ++ cmd ++
      "': " ++ e), ⟨Function.update kos.processes ns (some ⟨kos.started.length⟩),
        kos.started ++ [⟨kos.started.length⟩], kos.killed⟩) := by
    simp [KelpOS.blocking, hb, hw]
  have hreg : ((Call.blocking ns cmd env).apply kos).2.processes ns = some ⟨kos.started.length⟩ := by
    simp [Call.apply, hblk]
  refine ⟨by rw [hblk]; rfl, run_taken post hreg hpost, fun mid c rest hsplit hs => ?_⟩
  subst hsplit
  have hmid := run_taken mid hreg fun c' hc' => hpost c' (List.mem_append_left _ hc')
  exact (c.apply_taken hmid (hpost c (List.mem_append_right _ (List.mem_cons_self _ _)))).2 hs

/-- A `kelp trade` run whose command starts and then exits with an error. -/
def failedTrade : RunEnv := ⟨⟨.ok (), .ok (), .ok ()⟩, .error "exit status 1", ([], none)⟩

theorem failed_blocking_blocks_namespace_failedTrade :
    (KelpOS.empty.blocking "trade" "kelp trade" failedTrade).1.isOk = false ∧
      (run KelpOS.empty [.blocking "trade" "kelp trade" failedTrade,
        .background "trade" "kelp trade" ⟨.ok (), .ok (), .ok ()⟩]).processes "trade" =
          some ⟨KelpOS.empty.started.length⟩ ∧
      ∀ mid (c : Call) rest,
        [.background "trade" "kelp trade" ⟨.ok (), .ok (), .ok ()⟩] = mid ++ c :: rest →
        c.starts "trade" →
          (c.apply (run KelpOS.empty (.blocking "trade" "kelp trade" failedTrade :: mid))).1 = false :=
  failed_blocking_blocks_namespace KelpOS.empty rfl rfl rfl _ (by simp [Call.frees])

/-- **A `Background` on a taken namespace orphans its process.** From any state a run reaches,
a `Background` on a namespace already registered still starts its command when the system lets
it, and returns an error. The process it started is never registered, and whatever calls come
after, no `Stop` ever asks to kill it. -/
theorem orphan_never_killed (pre : List Call) {ns cmd : String}
    (htaken : (run KelpOS.empty pre).processes ns ≠ none) (post : List Call) :
    ((run KelpOS.empty pre).background ns cmd ⟨.ok (), .ok (), .ok ()⟩).1.isOk = false ∧
      Unreached (run KelpOS.empty pre).started.length
        (run KelpOS.empty (pre ++ .background ns cmd ⟨.ok (), .ok (), .ok ()⟩ :: post)) := by
  set kos := run KelpOS.empty pre
  obtain ⟨⟨e, he⟩, hp⟩ := KelpOS.background_taken htaken cmd ⟨.ok (), .ok (), .ok ()⟩
  have hk := run_tracked pre tracked_empty
  refine ⟨by rw [he]; rfl, ?_⟩
  rw [run_append]
  refine run_unreached post ⟨?_, fun n hn => ?_, fun hkill => ?_⟩
  · show kos.started.length < (kos.background ns cmd ⟨.ok (), .ok (), .ok ()⟩).2.started.length
    rw [KelpOS.background_started_of_ok, List.length_append, List.length_singleton]
    exact Nat.lt_succ_self _
  · simp only [Call.apply, hp] at hn
    exact absurd (hk.1 n _ hn) (lt_irrefl _)
  · simp only [Call.apply, KelpOS.background_killed] at hkill
    exact absurd (hk.2 _ hkill) (lt_irrefl _)

theorem orphan_never_killed_twice :
    ((run KelpOS.empty [.background "trade" "kelp trade" ⟨.ok (), .ok (), .ok ()⟩]).background
        "trade" "kelp trade" ⟨.ok (), .ok (), .ok ()⟩).1.isOk = false ∧
      Unreached (run KelpOS.empty [.background "trade" "kelp trade" ⟨.ok (), .ok (), .ok ()⟩]).started.length
        (run KelpOS.empty ([.background "trade" "kelp trade" ⟨.ok (), .ok (), .ok ()⟩] ++
          .background "trade" "kelp trade" ⟨.ok (), .ok (), .ok ()⟩ :: [.stop "trade" (.ok ())])) :=
  orphan_never_killed _ (by simp [run, Call.apply, KelpOS.background, KelpOS.register, KelpOS.empty]) _

end Kelp.Os
