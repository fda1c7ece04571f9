import Mathlib.Data.List.Permutation
import Kelp.Os.Threads

/-! Serial schedules of the registry's calls, and an interleaving that no serial schedule gives.

A schedule that lets each thread run its call to the end before the next thread starts is the
model of `Kelp.Os.Registry`, where the calls are made one after another: the registry ends the
same, and each call returns the same (`exec_serial`). The lock around each access to the map does
not make the calls atomic, though. A `Stop` and an `Unregister` of a namespace that interleave
with a `Blocking` of the same namespace can both succeed while the `Blocking`, whose command ran
and exited cleanly, fails; in every serial order of the same three calls at most one of the
first two succeeds (`blocking_race_not_serializable`). -/
namespace Kelp.Os

namespace Config

theorem step_of_getElem? {s : Config} {i : ℕ} {t : Thread} (ht : s.threads[i]? = some t) :
    s.step i = ⟨(t.step s.kos).2, s.threads.set i (t.step s.kos).1⟩ := by
  rw [step, ht]

theorem exec_append (s : Config) (a b : List ℕ) : s.exec (a ++ b) = (s.exec a).exec b := by
  induction a generalizing s with
  | nil => rfl
  | cons i rest ih => exact ih _

/-- A thread that takes `n` steps in a row runs alone. -/
theorem exec_replicate {s : Config} {i : ℕ} {t : Thread} (ht : s.threads[i]? = some t) (n : ℕ) :
    s.exec (List.replicate n i) = ⟨(t.runAlone n s.kos).2, s.threads.set i (t.runAlone n s.kos).1⟩ := by
  induction n generalizing s t with
  | zero =>
    have hset : s.threads.set i t = s.threads := List.ext_getElem? fun j => by
      rw [List.getElem?_set']
      split_ifs with h
      · rw [← h, ht]
        rfl
      · rfl
    rw [Thread.runAlone, hset]
    rfl
  | succ n ih =>
    have hlt : i < s.threads.length := (List.getElem?_eq_some_iff.mp ht).1
    rw [List.replicate_succ, exec, step_of_getElem? ht, ih (List.getElem?_set_self hlt),
      List.set_set]
    rfl

end Config

/-- The threads run in turn in the given order, three steps each, which takes any call to its
end. -/
def serial (order : List ℕ) : List ℕ := order.flatMap fun i => List.replicate 3 i

/-- From any finished threads before them, calls that run in turn end as the calls one after
another do. -/
theorem exec_serial_from (calls : List Call) : ∀ (pre : List Thread) (kos : KelpOS),
    (⟨kos, pre ++ calls.map Call.thread⟩ : Config).exec (serial (List.range' pre.length calls.length)) =
      ⟨run kos calls, pre ++ (results kos calls).map .done⟩ := by
  induction calls with
  | nil => intro pre kos; simp [serial, Config.exec, run, results]
  | cons c rest ih =>
    intro pre kos
    have ht : (⟨kos, pre ++ (c :: rest).map Call.thread⟩ : Config).threads[pre.length]? =
        some c.thread := by
      rw [List.map_cons, List.getElem?_append_right le_rfl, Nat.sub_self, List.getElem?_cons_zero]
    have hnext := ih (pre ++ [.done (c.apply kos).1]) (c.apply kos).2
    rw [List.length_append, List.length_singleton, List.append_assoc, List.singleton_append] at hnext
    rw [List.length_cons, List.range'_succ, serial, List.flatMap_cons, Config.exec_append,
      Config.exec_replicate ht, runAlone_thread]
    simpa [List.set_append_right, run, results] using hnext

/-- **Serial schedules are the sequential model.** From any registry, let any calls run in turn,
each to its end before the next starts: the registry ends as the calls one after another leave
it in `Kelp.Os.Registry`, and each call returns what it returns there, on the registry the calls
before it left. -/
theorem exec_serial (kos : KelpOS) (calls : List Call) :
    (Config.start kos calls).exec (serial (List.range calls.length)) =
      ⟨run kos calls, (results kos calls).map .done⟩ := by
  simpa [List.range_eq_range'] using exec_serial_from calls [] kos

/-! ### A race no serial schedule gives -/

/-- A `Stop` whose kill succeeds, an `Unregister`, and a `Blocking`, of one namespace. -/
def blockingRaceCalls (ns cmd : String) (env : RunEnv) : List Call :=
  [.stop ns (.ok ()), .unregister ns, .blocking ns cmd env]

/-- **The calls are not serializable.** Take any registry that holds a process under `ns`, and a
`Blocking` of `ns` whose command starts and exits cleanly. Let a `Stop` of `ns` look the process
up, an `Unregister` of `ns` take it out, the `Blocking` start its command and register it, the
`Stop` go on, and the `Blocking` finish: the `Stop` and the `Unregister` succeed, and the
`Blocking` fails to unregister its command. No serial schedule of the same three calls, in any
order, gives them these results. -/
theorem blocking_race_not_serializable (kos : KelpOS) {ns : String} {p : Process}
    (hp : kos.processes ns = some p) (cmd : String) {env : RunEnv}
    (hstart : env.start = ⟨.ok (), .ok (), .ok ()⟩) (hwait : env.wait = .ok ()) :
    ((Config.start kos (blockingRaceCalls ns cmd env)).exec [0, 1, 2, 2, 0, 2]).threads =
        [.done true, .done true, .done false] ∧
      ∀ order : List ℕ, order.Perm [0, 1, 2] →
        ((Config.start kos (blockingRaceCalls ns cmd env)).exec (serial order)).threads ≠
          [.done true, .done true, .done false] := by
  refine ⟨?_, fun order horder => ?_⟩
  on_goal 2 =>
    rw [← List.mem_permutations'] at horder
    simp only [List.permutations', List.permutations'Aux, List.flatMap_cons, List.flatMap_nil,
      List.singleton_append, List.map_cons, List.map_nil, List.append_nil, List.cons_append,
      List.nil_append, List.mem_cons, List.mem_nil_iff, or_false] at horder
    rcases horder with rfl | rfl | rfl | rfl | rfl | rfl
  all_goals simp [serial, Config.exec, Config.step, Config.start, blockingRaceCalls, Thread.step,
    KelpOS.getProcess, hp, KelpOS.unregister, KelpOS.startCommand, KelpOS.register, Call.thread,
    hstart, hwait, Except.isOk, Except.toBool]

end Kelp.Os
