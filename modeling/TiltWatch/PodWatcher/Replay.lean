import TiltWatch.PodWatcher.Interleaving
import TiltWatch.Watch.ReplayCount

/-! # A pod seen before its deploy is matched once

`setupNewUIDs` replays the pods recorded under a newly registered UID. This closes the race
in which the watch delivers a pod before the deploy that owns it is registered. Take a pod
`p` whose owner tree `T` holds one registered UID `U`, registered once to manifest `R`. The
store receives one action `(p, R, U)` for each triage of `p` that runs after the
registration, and one more, from the replay, when some triage ran before it.

The invariant is the two-phase count of `ReplayCount`, for the registration of `U`, the
actions `(p, R, U)`, the triages of `p` and the goroutines of `p` triaged to `R` and `U`.
-/

namespace TiltWatch

namespace PodObs

/-- Whether an entry is a triage of the pod with UID `p`. -/
def isTriageOf (p : UID) : PodObs → Bool
  | .triaged q _ => decide (q.uid = p)
  | _ => false

/-- Whether an entry dispatches a `PodChangeAction` for `p` with manifest `R` and ancestor `U`. -/
def isMatchOf (p : UID) (R : ManifestName) (U : UID) : PodObs → Bool
  | .dispatched (.change a) =>
    decide (a.pod.uid = p ∧ a.manifestName = R ∧ a.matchedAncestorUID = U)
  | _ => false

end PodObs

/-- Whether a goroutine of `p` was triaged to `R` and `U` and waits to dispatch. -/
def PodTask.isPendingOf (p : UID) (R : ManifestName) (U : UID) : PodTask → Bool
  | .triaged q mn anc => decide (q.uid = p ∧ mn = R ∧ anc = U)
  | _ => false

def triageCount (p : UID) (tr : List PodObs) : Nat :=
  tr.countP (PodObs.isTriageOf p)

/-- The actions `(p, R, U)` dispatched in a trace. -/
def matchCount (p : UID) (R : ManifestName) (U : UID) (tr : List PodObs) : Nat :=
  tr.countP (PodObs.isMatchOf p R U)

section Replay

variable {p U : UID} {T : List UID} {R : ManifestName}

/-- The conditions of the replay law on a trace: every triage of `p` reports the tree `T`,
the only UID of `T` ever registered is `U`, registered at most once and to `R`, and no
delivered pod has UID `U`. -/
structure ReplayHyp (p U : UID) (T : List UID) (R : ManifestName) (tr : List PodObs) : Prop where
  tree : ∀ q t, PodObs.triaged q t ∈ tr → q.uid = p → t = T
  only : ∀ u mn, PodObs.registered u mn ∈ tr → u ∈ T → u = U ∧ mn = R
  once : tr.count (.registered U R) ≤ 1
  not_received : ∀ q, PodObs.received q ∈ tr → q.uid ≠ U

theorem ReplayHyp.of_append {tr new : List PodObs} (h : ReplayHyp p U T R (tr ++ new)) :
    ReplayHyp p U T R tr where
  tree q t ht := h.tree q t (List.mem_append_left _ ht)
  only u mn hu := h.only u mn (List.mem_append_left _ hu)
  once := le_trans (by simp) h.once
  not_received q hq := h.not_received q (List.mem_append_left _ hq)

/-- The replay count of the actions `(p, R, U)` in a pod world. -/
def ReplayInv (p U : UID) (R : ManifestName) (s : PodWorld) : Prop :=
  ReplayCount (PodObs.registered U R) (PodObs.isMatchOf p R U) (PodObs.isTriageOf p)
    (PodTask.isPendingOf p R U) s.trace s.tasks

variable {s : PodWorld}

theorem countP_isPendingOf_erase {t : PodTask} (ht : t.isPendingOf p R U = false)
    (tasks : List PodTask) :
    (tasks.erase t).countP (PodTask.isPendingOf p R U) =
      tasks.countP (PodTask.isPendingOf p R U) := by
  by_cases hm : t ∈ tasks
  · simpa [ht] using countP_erase_add (p := PodTask.isPendingOf p R U) hm
  · rw [List.erase_of_not_mem hm]

theorem ReplayHyp.only_registrations {tr : List PodObs} (hh : ReplayHyp p U T R tr) :
    ∀ u ∈ T, ∀ mn ∈ registrations u tr, u = U ∧ mn = R :=
  fun u hu mn hmn => hh.only u mn (mem_registrations.mp hmn) hu

theorem replay_matchCount (hU : U ∈ T) (hUp : U ≠ p) (hw : s.WellFormed)
    (hh : ReplayHyp p U T R s.trace) :
    matchCount p R U ((s.watcher.setupNewUID U R).2.map (PodObs.dispatched ∘ PodAction.change)) =
      if 0 < triageCount p s.trace then 1 else 0 := by
  have hnone : s.watcher.knownPods U = none := by
    rw [hw.knownPods_eq, List.getLast?_eq_none_iff, List.eq_nil_iff_forall_not_mem]
    exact fun q hq =>
      hh.not_received q (mem_receivedVersions.mp hq).1 (mem_receivedVersions.mp hq).2
  have hmem : p ∈ s.watcher.knownDescendentPodUIDs U ↔ 0 < triageCount p s.trace := by
    rw [hw.mem_descendants, triageCount, List.countP_pos_iff]
    constructor
    · rintro ⟨q, t, hq, rfl, -, -⟩
      exact ⟨_, hq, by simp [PodObs.isTriageOf]⟩
    · rintro ⟨o, ho, hp⟩
      cases o <;> simp only [PodObs.isTriageOf, decide_eq_true_eq, Bool.false_eq_true] at hp
      rename_i q t
      exact ⟨q, t, ho, hp, hh.tree q t ho hp ▸ hU, hUp⟩
  have hknown : ∀ v ∈ s.watcher.knownDescendentPodUIDs U,
      ∃ q, s.watcher.knownPods v = some q ∧ q.uid = v := by
    intro v hv
    obtain ⟨q', t, hq', rfl, -, -⟩ := (hw.mem_descendants U v).mp hv
    obtain ⟨q, hq, -⟩ := hw.knownPods_of_received (hw.triaged_received q' t hq')
    exact ⟨q, hq, hw.knownPods_uid hq⟩
  simp only [PodWatcher.setupNewUID, hnone, matchCount, List.countP_map, List.countP_filterMap]
  rw [List.countP_congr (q := (· == p)) fun v hv => by
      obtain ⟨q, hq, rfl⟩ := hknown v hv
      simp [hq, PodObs.isMatchOf],
    ← List.count_eq_countP]
  split
  · exact List.count_eq_one_of_mem (hw.nodup_descendants U) (hmem.mpr ‹_›)
  · exact List.count_eq_zero_of_not_mem (mt hmem.mp ‹_›)

variable {u : UID} {mn : ManifestName}

theorem ReplayInv.register (hU : U ∈ T) (hUp : U ≠ p) (hw : s.WellFormed)
    (hi : ReplayInv p U R s) (hh : ReplayHyp p U T R (s.register u mn).trace) :
    ReplayInv p U R (s.register u mn) := by
  have hh₀ : ReplayHyp p U T R s.trace :=
    (show ReplayHyp p U T R (s.trace ++ _) from hh).of_append
  have hacts : ∀ o ∈ (s.watcher.setupNewUID u mn).2.map (PodObs.dispatched ∘ PodAction.change),
      ∃ a, o = .dispatched (.change a) ∧ a.matchedAncestorUID = u := by
    simp only [List.mem_map, Function.comp_apply]
    rintro _ ⟨a, ha, rfl⟩
    exact ⟨a, rfl, (PodWatcher.mem_setupNewUID ha).2.1⟩
  have hreg_acts : PodObs.registered U R ∉
      (s.watcher.setupNewUID u mn).2.map (PodObs.dispatched ∘ PodAction.change) := fun h => by
    obtain ⟨a, ha, -⟩ := hacts _ h; cases ha
  have htri : (PodObs.registered u mn :: (s.watcher.setupNewUID u mn).2.map
      (PodObs.dispatched ∘ PodAction.change)).countP (PodObs.isTriageOf p) = 0 := by
    simp [PodObs.isTriageOf]
  by_cases hUR : u = U ∧ mn = R
  · obtain ⟨rfl, rfl⟩ := hUR
    have hnot : PodObs.registered u mn ∉ s.trace := by
      have := hh.once
      simp only [PodWorld.register, List.count_append, List.count_cons_self] at this
      exact List.count_eq_zero.mp (by omega)
    refine hi.start hnot hreg_acts ?_ htri rfl
    rw [List.countP_cons, if_neg (by simp [PodObs.isMatchOf]), Nat.add_zero]
    exact replay_matchCount hU hUp hw hh₀
  · have hne : u ≠ U := fun h => hUR ⟨h, (hh.only u mn (by simp [PodWorld.register]) (h ▸ hU)).2⟩
    refine hi.quiet ?_ ?_ htri rfl
    · intro h
      rcases List.mem_cons.mp h with h | h
      · exact hne (PodObs.registered.inj h).1.symm
      · exact hreg_acts h
    · simp only [List.countP_eq_zero]
      intro o ho
      rcases List.mem_cons.mp ho with rfl | ho
      · simp [PodObs.isMatchOf]
      · obtain ⟨a, rfl, ha⟩ := hacts o ho
        simp [PodObs.isMatchOf, ha, hne]

theorem countP_isPendingOf_triage {q : V1.Pod} {mn : ManifestName} {anc : UID}
    (rest : List PodTask) :
    ((if mn = "" then [] else [PodTask.triaged q mn anc]) ++ rest).countP
        (PodTask.isPendingOf p R U) =
      rest.countP (PodTask.isPendingOf p R U) +
        if mn ≠ "" ∧ q.uid = p ∧ mn = R ∧ anc = U then 1 else 0 := by
  by_cases h : mn = "" <;> simp [h, PodTask.isPendingOf, List.countP_cons]

theorem ReplayInv.triage (hU : U ∈ T) (hUe : U ≠ "") (hR : R ≠ "") (hw : s.WellFormed)
    (hi : ReplayInv p U R s) {q : V1.Pod} {tree : List UID}
    (hh : ReplayHyp p U T R (s.step (.triage q tree)).trace) :
    ReplayInv p U R (s.step (.triage q tree)) := by
  by_cases h : PodTask.lookup q ∈ s.tasks
  swap
  · simpa [PodWorld.step, h] using hi
  have hh₀ : ReplayHyp p U T R s.trace := by
    simp only [PodWorld.step, if_pos h] at hh; exact hh.of_append
  have hpend := countP_isPendingOf_erase (p := p) (R := R) (U := U) (t := .lookup q) rfl s.tasks
  simp only [PodWorld.step, if_pos h] at hh ⊢
  by_cases hq : q.uid = p
  · obtain rfl : tree = T := hh.tree q tree (by simp) hq
    by_cases hold : PodObs.registered U R ∈ s.trace
    · have hr : (s.watcher.triagePodTree q tree).2 = (R, U) :=
        PodWatcher.triagePodTree_of_findDeployed (findDeployed_of_registered
          hw.knownDeployedUIDs_eq hh₀.only_registrations hU (mem_registrations.mpr hold))
      refine hi.extend hold (by simp) ?_
      simp [hr, hR, hq, hpend, List.countP_cons, PodTask.isPendingOf, PodObs.isMatchOf,
        PodObs.isTriageOf]
    · have hr : (s.watcher.triagePodTree q tree).2.2 = "" :=
        PodWatcher.triagePodTree_of_findDeployed_none
          (findDeployed_of_unregistered hw.knownDeployedUIDs_eq hh₀.only_registrations
            (mt mem_registrations.mp hold))
      have hb := hi.before hold
      refine ReplayCount.of_unregistered (by simp [hold]) ?_ ?_
      · simpa [PodObs.isMatchOf] using hb.1
      · dsimp only
        rw [countP_isPendingOf_triage, hpend]
        simp [hr, Ne.symm hUe, hb.2]
  · refine hi.quiet (by simp) (by simp [PodObs.isMatchOf]) (by simp [PodObs.isTriageOf, hq]) ?_
    dsimp only
    rw [countP_isPendingOf_triage, hpend]
    simp [hq]

theorem ReplayInv.dispatch (hw : s.WellFormed) (hi : ReplayInv p U R s) {q : V1.Pod}
    {mn : ManifestName} {anc : UID} : ReplayInv p U R (s.step (.dispatch q mn anc)) := by
  by_cases h : PodTask.triaged q mn anc ∈ s.tasks
  swap
  · simpa [PodWorld.step, h] using hi
  obtain ⟨v, hv, -⟩ := hw.knownPods_of_received (hw.task_received _ h q.uid rfl)
  have hvu := hw.knownPods_uid hv
  have hc := countP_erase_add (p := PodTask.isPendingOf p R U) h
  have hmatch : [PodObs.dispatched (.change ⟨v, mn, anc⟩)].countP (PodObs.isMatchOf p R U) =
      if (PodTask.triaged q mn anc).isPendingOf p R U then 1 else 0 := by
    simp [PodObs.isMatchOf, PodTask.isPendingOf, hvu, List.countP_cons]
  have htri : [PodObs.dispatched (.change ⟨v, mn, anc⟩)].countP (PodObs.isTriageOf p) = 0 := rfl
  simp only [PodWorld.step, if_pos h, PodWatcher.freshPodChange, hv, Option.map_some',
    Option.toList_some, Function.comp_apply]
  by_cases hold : PodObs.registered U R ∈ s.trace
  · refine hi.extend hold (by simp) ?_
    dsimp only
    rw [hmatch, htri]
    omega
  · have hb := hi.before hold
    cases hcb : (PodTask.triaged q mn anc).isPendingOf p R U
    · simp only [hcb] at hc hmatch
      refine ReplayCount.of_unregistered (by simp [hold]) ?_ (by dsimp only; omega)
      simp [List.countP_append, hb.1, hmatch]
    · have := List.countP_pos_iff.mpr ⟨_, h, hcb⟩
      omega

theorem ReplayInv.fold_register (hU : U ∈ T) (hUp : U ≠ p) (hw : s.WellFormed)
    (hi : ReplayInv p U R s) (l : List (UID × ManifestName))
    (hh : ReplayHyp p U T R (l.foldl (fun t e => t.register e.1 e.2) s).trace) :
    ReplayInv p U R (l.foldl (fun t e => t.register e.1 e.2) s) := by
  induction l generalizing s with
  | nil => exact hi
  | cons e es ih =>
    obtain ⟨new, hnew⟩ := PodWorld.fold_register_trace es (s.register e.1 e.2)
    exact ih (hw.register _ _) (hi.register hU hUp hw (hnew ▸ hh).of_append) hh

theorem ReplayInv.step (hU : U ∈ T) (hUp : U ≠ p) (hUe : U ≠ "") (hR : R ≠ "")
    (hw : s.WellFormed) (hi : ReplayInv p U R s) (e : PodStep)
    (hh : ReplayHyp p U T R (s.step e).trace) : ReplayInv p U R (s.step e) := by
  cases e with
  | receive q =>
    simp only [PodWorld.step]
    refine hi.quiet (by simp) (by simp [PodObs.isMatchOf]) (by simp [PodObs.isTriageOf]) ?_
    simp [PodTask.isPendingOf, List.countP_cons]
  | receiveDeleted name ns =>
    exact hi.of_tasks (by simp [PodWorld.step, PodTask.isPendingOf, List.countP_cons])
  | triage q tree => exact hi.triage hU hUe hR hw hh
  | lookupFailed q => exact hi.of_tasks (countP_isPendingOf_erase (t := .lookup q) rfl s.tasks)
  | dispatch q mn anc => exact hi.dispatch hw
  | dispatchDelete a =>
    by_cases h : PodTask.deleting a ∈ s.tasks
    · simp only [PodWorld.step, if_pos h]
      exact hi.quiet (by simp) (by simp [PodObs.isMatchOf]) (by simp [PodObs.isTriageOf])
        (countP_isPendingOf_erase (t := .deleting a) rfl _)
    · simpa [PodWorld.step, h] using hi
  | onChange sels newUIDs =>
    exact ReplayInv.fold_register
      (s := { s with watcher := { s.watcher with extraSelectors := sels } }) hU hUp
      ⟨hw.1, hw.2, hw.3, hw.4, hw.5, hw.6, hw.7⟩ ⟨hi.1, hi.2⟩ newUIDs hh

theorem ReplayInv.of_reachable (hU : U ∈ T) (hUp : U ≠ p) (hUe : U ≠ "") (hR : R ≠ "")
    (h : PodWorld.Reachable s) (hh : ReplayHyp p U T R s.trace) : ReplayInv p U R s := by
  induction h with
  | init => exact ReplayCount.init
  | @step s e hs ih =>
    obtain ⟨new, hnew⟩ := s.step_trace e
    exact (ih (hnew ▸ hh).of_append).step hU hUp hUe hR (PodWorld.WellFormed.of_reachable hs) e hh

end Replay

/-- The replay law: take a run, a pod `p` whose triages all report the owner tree `T`, and a
UID `U` of `T` other than `p` that is the only UID of `T` ever registered, registered once,
to `R`. When no goroutine of `p` is left between its triage and its dispatch, the store
holds one action `(p, R, U)` per triage of `p` after the registration, plus one from the
replay if `p` was triaged before it. No pod delivered by the watch may have UID `U`, as in
a run where only `p`'s updates arrive. -/
theorem replay_matches_once (steps : List PodStep) {p U : UID} {T : List UID} {R : ManifestName}
    (hU : U ∈ T) (hUp : U ≠ p) (hUe : U ≠ "") (hR : R ≠ "") {pre post : List PodObs}
    (hsplit : (PodWorld.run {} steps).trace = pre ++ .registered U R :: post)
    (honly : ∀ u mn, PodObs.registered u mn ∈ pre ++ post → u ∉ T)
    (htree : ∀ q t, PodObs.triaged q t ∈ (PodWorld.run {} steps).trace → q.uid = p → t = T)
    (hpods : ∀ q, PodObs.received q ∈ (PodWorld.run {} steps).trace → q.uid ≠ U)
    (hdone : ∀ q mn anc, PodTask.triaged q mn anc ∈ (PodWorld.run {} steps).tasks → q.uid ≠ p) :
    matchCount p R U (PodWorld.run {} steps).trace =
      triageCount p post + if 0 < triageCount p pre then 1 else 0 := by
  have hnot : PodObs.registered U R ∉ pre ++ post := fun h => honly U R h hU
  have hh : ReplayHyp p U T R (PodWorld.run {} steps).trace := {
    tree := htree
    only := fun u mn h hu => by
      by_cases he : PodObs.registered u mn = .registered U R
      · exact PodObs.registered.inj he
      · refine absurd hu (honly u mn ?_)
        rw [hsplit] at h
        simp only [List.mem_append, List.mem_cons] at h ⊢
        tauto
    once := by
      rw [hsplit, List.count_append, List.count_cons_self,
        List.count_eq_zero.mpr fun h => hnot (List.mem_append_left _ h),
        List.count_eq_zero.mpr fun h => hnot (List.mem_append_right _ h)]
    not_received := hpods }
  have hi := ReplayInv.of_reachable hU hUp hUe hR (PodWorld.reachable_run steps) hh
  have hp : (PodWorld.run {} steps).tasks.countP (PodTask.isPendingOf p R U) = 0 := by
    rw [List.countP_eq_zero]
    intro t ht
    cases t <;> simp only [PodTask.isPendingOf, decide_eq_true_eq, Bool.false_eq_true,
      not_false_eq_true]
    exact fun h => absurd h.1 (hdone _ _ _ ht)
  have := hi.after pre post hsplit
  simp only [matchCount, triageCount]
  omega

/-- The deploy is registered after the first triage of `web-1`: the replay dispatches the
match once, and the triage after the registration dispatches it once more. -/
theorem replay_matches_once_late_deploy :
    let pod : V1.Pod := { uid := "p1", name := "web-1" }
    let steps : List PodStep := [.receive pod, .triage pod ["p1", "rs1"],
      .onChange [] [("rs1", "web")], .receive pod, .triage pod ["p1", "rs1"],
      .dispatch pod "web" "rs1"]
    let a : PodChangeAction := ⟨pod, "web", "rs1"⟩
    matchCount "p1" "web" "rs1" (PodWorld.run {} steps).trace =
      triageCount "p1" [.dispatched (.change a), .received pod, .triaged pod ["p1", "rs1"],
        .dispatched (.change a)] +
        if 0 < triageCount "p1" [.received pod, .triaged pod ["p1", "rs1"]] then 1 else 0 := by
  intro pod steps a
  have h : (PodWorld.run {} steps).trace =
      [.received pod, .triaged pod ["p1", "rs1"]] ++ .registered "rs1" "web" ::
        [.dispatched (.change a), .received pod, .triaged pod ["p1", "rs1"],
          .dispatched (.change a)] := by decide
  have htasks : (PodWorld.run {} steps).tasks = [] := by decide
  exact replay_matches_once (T := ["p1", "rs1"]) steps (by decide) (by decide) (by decide)
    (by decide) h
    (by simp) (by rw [h]; simp) (by rw [h]; simp [pod]) (by simp [htasks])

end TiltWatch
