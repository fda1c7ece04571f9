import Kelp.Os.Threads

/-! What every schedule of concurrent calls keeps.

From a fresh `KelpOS`, whatever calls run at once and however their steps interleave, the
registry stays sound (`exec_safe`): it holds only processes that were started, never one process
under two namespaces, and never a process that a `Stop` asked to kill. The invariant that carries
this (`Safe`) also says what the threads hold between their steps: a process a thread started and
is about to register is held by that thread alone and is nowhere in the registry, and a process a
`Stop` looked up is registered, if at all, under the namespace it looked up. So a `Stop` that
kills its process has always just taken it out of the registry, even when, as in the race of
`Kelp.Os.Threads`, what it took out under that namespace was another process. -/
namespace Kelp.Os

namespace Thread

/-- The process a thread started and has not registered yet. -/
def starting : Thread → Option Process
  | registering _ _ p | blockingRegistering _ _ _ p => some p
  | _ => none

theorem holds_of_starting {t : Thread} {r : Process} (h : t.starting = some r) :
    t.holds = some r := by
  cases t <;> simp_all [starting, holds]

/-- What one step can do: start the next process in order, held by the thread; look a namespace
up and hold the process registered there; or, holding nothing after it, register the process the
thread started, take a namespace out of the registry (a `Stop` then killing the process it looked
up), or nothing. -/
theorem step_cases (kos : KelpOS) (t : Thread) :
    ((t.step kos).1.starting = some ⟨kos.started.length⟩ ∧
        (t.step kos).2 = { kos with started := kos.started ++ [⟨kos.started.length⟩] }) ∨
      (∃ ns kill p, t = .stop ns kill ∧ kos.processes ns = some p ∧
        t.step kos = (.stopping ns kill p, kos)) ∨
      ((t.step kos).1.holds = none ∧
        ((∃ ns r, t.starting = some r ∧ (t.step kos).2 = (kos.register ns r).2) ∨
          (∃ ns, (t.step kos).2 = (kos.unregister ns).2) ∨
          (∃ ns kill p, t = .stopping ns kill p ∧ (t.step kos).2 =
            { (kos.unregister ns).2 with killed := (kos.unregister ns).2.killed ++ [p] }) ∨
          (t.step kos).2 = kos)) := by
  have quiet : ∀ t' : Thread, t'.holds = none →
      ∀ k, (k = kos ∨ ∃ ns, k = (kos.unregister ns).2) →
      ((t'.holds = none ∧
        ((∃ ns r, t.starting = some r ∧ k = (kos.register ns r).2) ∨ (∃ ns, k = (kos.unregister ns).2) ∨
          (∃ ns kill p, t = .stopping ns kill p ∧
            k = { (kos.unregister ns).2 with killed := (kos.unregister ns).2.killed ++ [p] }) ∨
          k = kos))) := by
    rintro t' h k (rfl | ⟨ns, rfl⟩)
    · exact ⟨h, .inr (.inr (.inr rfl))⟩
    · exact ⟨h, .inr (.inl ⟨ns, rfl⟩)⟩
  cases t with
  | background ns cmd env =>
    rcases startCommand_effect kos cmd env with ⟨e, he⟩ | he
    · rw [show step kos _ = (done false, kos) by simp [step, he]]
      exact .inr (.inr (quiet (done false) rfl _ (.inl rfl)))
    · exact .inl ⟨by simp [step, he, starting], by simp [step, he]⟩
  | blocking ns cmd env =>
    rcases startCommand_effect kos cmd env.start with ⟨e, he⟩ | he
    · rw [show step kos _ = (done false, kos) by simp [step, he]]
      exact .inr (.inr (quiet (done false) rfl _ (.inl rfl)))
    · exact .inl ⟨by simp [step, he, starting], by simp [step, he]⟩
  | registering ns cmd p =>
    refine .inr (.inr ?_)
    simp only [step]
    rcases hr : kos.register ns p with ⟨_ | _, k⟩ <;>
      exact ⟨rfl, .inl ⟨ns, p, rfl, by rw [hr]⟩⟩
  | blockingRegistering ns cmd env p =>
    refine .inr (.inr ?_)
    simp only [step]
    rcases hr : kos.register ns p with ⟨_ | _, k⟩ <;>
      exact ⟨rfl, .inl ⟨ns, p, rfl, by rw [hr]⟩⟩
  | waiting ns cmd env =>
    refine .inr (.inr ?_)
    simp only [step]
    rcases env.wait with _ | _
    · exact quiet (done false) rfl _ (.inl rfl)
    · rcases hu : kos.unregister ns with ⟨_ | _, k⟩
      · exact quiet (done false) rfl _ (.inr ⟨ns, by rw [hu]⟩)
      · exact quiet (done true) rfl _ (.inr ⟨ns, by rw [hu]⟩)
  | stop ns kill =>
    rcases hp : kos.processes ns with _ | p
    · rw [show step kos _ = (done false, kos) by simp [step, KelpOS.getProcess, hp]]
      exact .inr (.inr (quiet (done false) rfl _ (.inl rfl)))
    · exact .inr (.inl ⟨ns, kill, p, rfl, hp, by simp [step, KelpOS.getProcess, hp]⟩)
  | stopping ns kill p =>
    refine .inr (.inr ?_)
    simp only [step]
    rcases hu : kos.unregister ns with ⟨_ | _, k⟩
    · exact quiet (done false) rfl _ (.inr ⟨ns, by rw [hu]⟩)
    · exact ⟨rfl, .inr (.inr (.inl ⟨ns, kill, p, rfl, by rw [hu]⟩))⟩
  | unregister ns => exact .inr (.inr (quiet (done _) rfl _ (.inr ⟨ns, rfl⟩)))
  | safeUnregister ns => exact .inr (.inr (quiet (done true) rfl _ (.inr ⟨ns, rfl⟩)))
  | done ok => exact .inr (.inr (quiet (done ok) rfl _ (.inl rfl)))

end Thread

/-! ### The invariant -/

/-- What every schedule keeps. The registry holds started processes, each under one namespace,
and none that a `Stop` asked to kill; the threads hold started processes; a process a thread is
about to register is held by that thread alone and is neither registered nor killed; and a
process a `Stop` looked up is registered, if at all, under the namespace it looked up. -/
structure Safe (s : Config) : Prop where
  tracked : Tracked s.kos
  held : ∀ (j : ℕ) (t : Thread) (q : Process), s.threads[j]? = some t → t.holds = some q →
    q.handle < s.kos.started.length
  unique : ∀ n m q, s.kos.processes n = some q → s.kos.processes m = some q → n = m
  notKilled : ∀ n q, s.kos.processes n = some q → q ∉ s.kos.killed
  fresh : ∀ (j : ℕ) (t : Thread) (r : Process), s.threads[j]? = some t → t.starting = some r →
    (∀ n, s.kos.processes n ≠ some r) ∧ r ∉ s.kos.killed ∧
      ∀ (k : ℕ) (t' : Thread), s.threads[k]? = some t' → t'.holds = some r → k = j
  lookedUp : ∀ (j : ℕ) (ns : String) (kill : Except String Unit) (p : Process),
    s.threads[j]? = some (.stopping ns kill p) → ∀ n, s.kos.processes n = some p → n = ns

theorem getElem?_set_cases {ts : List Thread} {i j : ℕ} {t t' u : Thread} (hi : ts[i]? = some t)
    (hj : (ts.set i t')[j]? = some u) : (j = i ∧ u = t') ∨ (j ≠ i ∧ ts[j]? = some u) := by
  rw [List.getElem?_set] at hj
  by_cases hji : i = j
  · subst hji
    rw [if_pos rfl, if_pos (List.getElem?_eq_some_iff.mp hi).1, Option.some.injEq] at hj
    exact .inl ⟨rfl, hj.symm⟩
  · rw [if_neg hji] at hj
    exact .inr ⟨Ne.symm hji, hj⟩

/-- Once a slot is overwritten by a thread that holds nothing, a thread that holds a process sits
in another slot, and was there before. -/
theorem getElem?_set_of_holds {ts : List Thread} {i j : ℕ} {t t' u : Thread} {q : Process}
    (hi : ts[i]? = some t) (ht' : t'.holds = none) (hj : (ts.set i t')[j]? = some u)
    (hq : u.holds = some q) : j ≠ i ∧ ts[j]? = some u := by
  rcases getElem?_set_cases hi hj with ⟨-, rfl⟩ | h
  · rw [ht'] at hq
    cases hq
  · exact h

section Step
variable {kos : KelpOS} {ts : List Thread} {i : ℕ} {t t' : Thread}

/-- Starting a process keeps the invariant: the new process is past every process there is. -/
theorem safe_start (hs : Safe ⟨kos, ts⟩) (hi : ts[i]? = some t)
    (ht' : t'.starting = some ⟨kos.started.length⟩) :
    Safe ⟨{ kos with started := kos.started ++ [⟨kos.started.length⟩] }, ts.set i t'⟩ := by
  have hlen : ∀ q : Process, q.handle < kos.started.length →
      q.handle < (kos.started ++ [(⟨kos.started.length⟩ : Process)]).length := fun q hq => by simp; omega
  have hnew : ∀ (j : ℕ) (u : Thread), ts[j]? = some u → u.holds ≠ some ⟨kos.started.length⟩ :=
    fun j u hj hu => lt_irrefl _ (hs.held j u _ hj hu)
  refine ⟨⟨fun n q hq => hlen q (hs.tracked.1 n q hq), fun q hq => hlen q (hs.tracked.2 q hq)⟩,
    fun j u q hj hq => ?_, hs.unique, hs.notKilled, fun j u r hj hr => ?_, fun j ns kill p hj => ?_⟩
  · rcases getElem?_set_cases hi hj with ⟨rfl, rfl⟩ | ⟨-, hj'⟩
    · rw [Thread.holds_of_starting ht', Option.some.injEq] at hq
      subst hq
      simp
    · exact hlen q (hs.held j u q hj' hq)
  · rcases getElem?_set_cases hi hj with ⟨rfl, rfl⟩ | ⟨-, hj'⟩
    · rw [ht', Option.some.injEq] at hr
      subst hr
      refine ⟨fun n hn => lt_irrefl _ (hs.tracked.1 n _ hn), fun hk => lt_irrefl _ (hs.tracked.2 _ hk),
        fun k u' hk hu' => ?_⟩
      rcases getElem?_set_cases hi hk with ⟨rfl, -⟩ | ⟨-, hk'⟩
      · rfl
      · exact absurd hu' (hnew k u' hk')
    · obtain ⟨h1, h2, h3⟩ := hs.fresh j u r hj' hr
      refine ⟨h1, h2, fun k u' hk hu' => ?_⟩
      rcases getElem?_set_cases hi hk with ⟨rfl, rfl⟩ | ⟨-, hk'⟩
      · rw [Thread.holds_of_starting ht', Option.some.injEq] at hu'
        exact absurd (hu' ▸ Thread.holds_of_starting hr) (hnew j u hj')
      · exact h3 k u' hk' hu'
  · rcases getElem?_set_cases hi hj with ⟨rfl, heq⟩ | ⟨-, hj'⟩
    · rw [← heq] at ht'
      cases ht'
    · exact hs.lookedUp j ns kill p hj'

/-- A `Stop`'s lookup keeps the invariant: the process it looks up is registered, so no thread is
about to register it. -/
theorem safe_lookup {ns : String} {kill : Except String Unit} {p : Process} (hs : Safe ⟨kos, ts⟩)
    (hi : ts[i]? = some (.stop ns kill)) (hp : kos.processes ns = some p) :
    Safe ⟨kos, ts.set i (.stopping ns kill p)⟩ := by
  refine ⟨hs.tracked, fun j u q hj hq => ?_, hs.unique, hs.notKilled, fun j u r hj hr => ?_,
    fun j ns' kill' p' hj n hn => ?_⟩
  · rcases getElem?_set_cases hi hj with ⟨rfl, rfl⟩ | ⟨-, hj'⟩
    · cases hq
      exact hs.tracked.1 ns _ hp
    · exact hs.held j u q hj' hq
  · rcases getElem?_set_cases hi hj with ⟨rfl, rfl⟩ | ⟨-, hj'⟩
    · cases hr
    · obtain ⟨h1, h2, h3⟩ := hs.fresh j u r hj' hr
      refine ⟨h1, h2, fun k u' hk hu' => ?_⟩
      rcases getElem?_set_cases hi hk with ⟨rfl, rfl⟩ | ⟨-, hk'⟩
      · cases hu'
        exact absurd hp (h1 ns)
      · exact h3 k u' hk' hu'
  · rcases getElem?_set_cases hi hj with ⟨rfl, heq⟩ | ⟨-, hj'⟩
    · injection heq with h1 h2 h3
      subst h1 h3
      exact hs.unique n _ _ hn hp
    · exact hs.lookedUp j ns' kill' p' hj' n hn

/-- Registering the process a thread started keeps the invariant: no other thread holds it and
it is nowhere in the registry. -/
theorem safe_register {r : Process} (hs : Safe ⟨kos, ts⟩) (hi : ts[i]? = some t)
    (ht : t.starting = some r) (ht' : t'.holds = none) (ns : String) :
    Safe ⟨(kos.register ns r).2, ts.set i t'⟩ := by
  obtain ⟨hfree, hnk, hown⟩ := hs.fresh i t r hi ht
  have hr : r.handle < kos.started.length := hs.held i t r hi (Thread.holds_of_starting ht)
  have hstarted := kos.register_started ns r
  have hkilled := kos.register_killed ns r
  refine ⟨⟨fun n q hq => ?_, fun q hq => ?_⟩, fun j u q hj hq => ?_, fun n m q hn hm => ?_,
    fun n q hn => ?_, fun j u r' hj hr' => ?_, fun j ns' kill p hj n hn => ?_⟩
  · rw [hstarted]
    rcases KelpOS.register_processes_eq_some hq with hq | ⟨-, rfl⟩
    · exact hs.tracked.1 n q hq
    · exact hr
  · rw [hstarted]
    exact hs.tracked.2 q (hkilled ▸ hq)
  · exact hstarted ▸ hs.held j u q (getElem?_set_of_holds hi ht' hj hq).2 hq
  · rcases KelpOS.register_processes_eq_some hn with hn' | ⟨hn', hq⟩ <;>
      rcases KelpOS.register_processes_eq_some hm with hm' | ⟨hm', hq'⟩
    · exact hs.unique n m q hn' hm'
    · exact absurd (hq' ▸ hn') (hfree n)
    · exact absurd (hq ▸ hm') (hfree m)
    · exact hn'.trans hm'.symm
  · rw [hkilled]
    rcases KelpOS.register_processes_eq_some hn with hn | ⟨-, rfl⟩
    · exact hs.notKilled n q hn
    · exact hnk
  · obtain ⟨hji, hj'⟩ := getElem?_set_of_holds hi ht' hj (Thread.holds_of_starting hr')
    obtain ⟨h1, h2, h3⟩ := hs.fresh j u r' hj' hr'
    have hne : r' ≠ r := fun e => hji (hown j u hj' (e ▸ Thread.holds_of_starting hr'))
    refine ⟨fun n hn => ?_, hkilled ▸ h2,
      fun k u' hk hu' => h3 k u' (getElem?_set_of_holds hi ht' hk hu').2 hu'⟩
    rcases KelpOS.register_processes_eq_some hn with hn | ⟨-, e⟩
    · exact h1 n hn
    · exact hne e
  · obtain ⟨hji, hj'⟩ := getElem?_set_of_holds hi ht' hj rfl
    rcases KelpOS.register_processes_eq_some hn with hn' | ⟨-, hpr⟩
    · exact hs.lookedUp j ns' kill p hj' n hn'
    · exact absurd (hown j _ hj' (by rw [hpr]; rfl)) hji

/-- A step that only takes processes out of the registry keeps the invariant, and so does a
`Stop` that kills the process it looked up once its namespace is out of the registry. -/
theorem safe_shrink {kos' : KelpOS} (hs : Safe ⟨kos, ts⟩) (hi : ts[i]? = some t)
    (hp : ∀ n q, kos'.processes n = some q → kos.processes n = some q)
    (hstarted : kos'.started = kos.started)
    (hk : kos'.killed = kos.killed ∨ ∃ ns kill p, t = .stopping ns kill p ∧
      kos'.processes ns = none ∧ kos'.killed = kos.killed ++ [p])
    (ht' : t'.holds = none) : Safe ⟨kos', ts.set i t'⟩ := by
  have hkill : ∀ q ∈ kos'.killed, q ∈ kos.killed ∨ ∃ ns kill, t = .stopping ns kill q ∧
      kos'.processes ns = none := by
    intro q hq
    rcases hk with hk | ⟨ns, kill, p, rfl, hns, hk⟩
    · exact .inl (hk ▸ hq)
    · rcases List.mem_append.mp (hk ▸ hq) with hq | hq
      · exact .inl hq
      · exact .inr ⟨ns, kill, by rw [List.mem_singleton.mp hq], hns⟩
  refine ⟨⟨fun n q hq => hstarted ▸ hs.tracked.1 n q (hp n q hq), fun q hq => ?_⟩,
    fun j u q hj hq => ?_, fun n m q hn hm => hs.unique n m q (hp n q hn) (hp m q hm),
    fun n q hn hq => ?_, fun j u r hj hr => ?_, fun j ns kill p hj n hn => ?_⟩
  · rw [hstarted]
    rcases hkill q hq with hq | ⟨ns, kill, rfl, -⟩
    · exact hs.tracked.2 q hq
    · exact hs.held i _ q hi rfl
  · exact hstarted ▸ hs.held j u q (getElem?_set_of_holds hi ht' hj hq).2 hq
  · rcases hkill q hq with hq | ⟨ns, kill, rfl, hns⟩
    · exact hs.notKilled n q (hp n q hn) hq
    · have := hs.lookedUp i ns kill q hi n (hp n q hn)
      subst this
      rw [hns] at hn
      cases hn
  · obtain ⟨hji, hj'⟩ := getElem?_set_of_holds hi ht' hj (Thread.holds_of_starting hr)
    obtain ⟨h1, h2, h3⟩ := hs.fresh j u r hj' hr
    refine ⟨fun n hn => h1 n (hp n r hn), fun hr' => ?_,
      fun k u' hk hu' => h3 k u' (getElem?_set_of_holds hi ht' hk hu').2 hu'⟩
    rcases hkill r hr' with hr' | ⟨ns, kill, rfl, -⟩
    · exact h2 hr'
    · exact hji (h3 i _ hi rfl).symm
  · exact hs.lookedUp j ns kill p (getElem?_set_of_holds hi ht' hj rfl).2 n (hp n p hn)

end Step

theorem Config.step_safe {s : Config} (hs : Safe s) (i : ℕ) : Safe (s.step i) := by
  obtain ⟨kos, ts⟩ := s
  unfold Config.step
  rcases hi : ts[i]? with _ | t
  · exact hs
  dsimp only
  rcases Thread.step_cases kos t with ⟨ht', he⟩ | ⟨ns, kill, p, rfl, hp, he⟩ | ⟨ht', hcase⟩
  · rw [he]
    exact safe_start hs hi ht'
  · rw [he]
    exact safe_lookup hs hi hp
  · rcases hcase with ⟨ns, r, hr, he⟩ | ⟨ns, he⟩ | ⟨ns, kill, p, rfl, he⟩ | he <;> rw [he]
    · exact safe_register hs hi hr ht' ns
    · exact safe_shrink hs hi (fun _ _ => KelpOS.unregister_processes_eq_some)
        (KelpOS.unregister_started ns) (.inl (KelpOS.unregister_killed ns)) ht'
    · exact safe_shrink hs hi (fun _ _ => KelpOS.unregister_processes_eq_some)
        (KelpOS.unregister_started ns) (.inr ⟨ns, kill, p, rfl, by simp [KelpOS.unregister_processes],
          by rw [KelpOS.unregister_killed]⟩) ht'
    · exact safe_shrink hs hi (fun _ _ h => h) rfl (.inl rfl) ht'

theorem safe_start_empty (calls : List Call) : Safe (Config.start KelpOS.empty calls) := by
  have hthread : ∀ (j : ℕ) (t : Thread), (calls.map Call.thread)[j]? = some t →
      ∃ c : Call, t = c.thread := by
    intro j t hj
    rw [List.getElem?_map] at hj
    obtain ⟨c, -, rfl⟩ := Option.map_eq_some'.mp hj
    exact ⟨c, rfl⟩
  refine ⟨tracked_empty, fun j t q hj hq => ?_, fun n _ _ hn => ?_, fun n _ hn => ?_,
    fun j t r hj hr => ?_, fun j ns kill p hj => ?_⟩
  · obtain ⟨c, rfl⟩ := hthread j t hj
    cases c <;> cases hq
  · cases hn
  · cases hn
  · obtain ⟨c, rfl⟩ := hthread j t hj
    cases c <;> cases hr
  · obtain ⟨c, hc⟩ := hthread j _ hj
    cases c <;> cases hc

/-- **The registry stays sound under every schedule.** From a fresh `KelpOS`, whatever calls run
at once and however their steps interleave, the registry holds only started processes, never one
process under two namespaces, and never a process that a `Stop` asked to kill; a process a thread
is about to register is its own, and a process a `Stop` looked up is registered, if at all, under
the namespace it looked up. -/
theorem exec_safe (calls : List Call) (sched : List ℕ) :
    Safe ((Config.start KelpOS.empty calls).exec sched) :=
  Config.exec_induction (P := Safe) (fun _ i hs => Config.step_safe hs i) sched (safe_start_empty calls)

end Kelp.Os
