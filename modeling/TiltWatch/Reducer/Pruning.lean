import Mathlib.Data.Prod.Lex
import TiltWatch.Reducer.Deletion
import TiltWatch.Reducer.Removal

/-! # Pruning along the pod reducers

`prunePods` drops at most one terminated pod per call, so a map with two terminated pods
besides the most recent one keeps one of them. The reducers never hand it such a map.
`handlePodChangeAction` updates a single pod and prunes at once, and a map that is pruned
but for that pod has at most one terminated pod besides its most recent one. So in every
state the pod reducers reach from manifests that track no pod, no tracked pod is deleting,
and a terminated pod is tracked only as `MostRecentPod`.

`Pod.isAfter` orders pods by start time, then name: the lexicographic order of
`(startedAt, podID)`, under which `MostRecentPod` is the maximum.
-/

namespace TiltWatch

/-- The order of `Pod.isAfter`: start time, then name. -/
def Pod.recency (p : Pod) : Lex (Time × PodID) := toLex (p.startedAt, p.podID)

section Recency

variable {p q : Pod}

theorem Pod.isAfter_iff : p.isAfter q = true ↔ q.recency < p.recency := by
  rw [Pod.recency, Pod.recency, Prod.Lex.lt_iff]
  simp only [Pod.isAfter, Bool.or_eq_true, decide_eq_true_eq, Bool.and_eq_true, beq_iff_eq,
    @eq_comm _ p.startedAt]

theorem Pod.podID_eq_of_recency_eq (h : p.recency = q.recency) : p.podID = q.podID :=
  (Prod.mk.inj (toLex.injective h)).2

theorem foldl_mostRecent (l : List Pod) (a : Pod) :
    let r := (l.foldl (fun acc v => if !acc.1 || v.isAfter acc.2 then (true, v) else acc)
      (true, a)).2
    r ∈ a :: l ∧ ∀ q ∈ a :: l, q.recency ≤ r.recency := by
  induction l generalizing a with
  | nil => exact ⟨List.mem_singleton_self a, fun q hq => List.mem_singleton.mp hq ▸ le_rfl⟩
  | cons v l ih =>
    cases hv : v.isAfter a
    case true =>
      simp only [List.foldl_cons, Bool.not_true, Bool.false_or, hv, if_true]
      obtain ⟨hm, hle⟩ := ih v
      refine ⟨List.mem_cons_of_mem _ hm, fun q hq => ?_⟩
      rcases List.mem_cons.mp hq with rfl | hq
      · exact (Pod.isAfter_iff.mp hv).le.trans (hle v (List.mem_cons_self _ _))
      · exact hle q hq
    case false =>
      simp only [List.foldl_cons, Bool.not_true, Bool.false_or, hv, Bool.false_eq_true, if_false]
      obtain ⟨hm, hle⟩ := ih a
      have hva : v.recency ≤ a.recency :=
        not_lt.mp fun h => Bool.false_ne_true (hv ▸ Pod.isAfter_iff.mpr h)
      refine ⟨(((List.Sublist.refl l).cons v).cons₂ a).subset hm, fun q hq => ?_⟩
      rcases List.mem_cons.mp hq with rfl | hq
      · exact hle q (List.mem_cons_self _ _)
      rcases List.mem_cons.mp hq with rfl | hq
      · exact hva.trans (hle a (List.mem_cons_self _ _))
      · exact hle q (List.mem_cons_of_mem _ hq)

theorem mostRecentPod_max {s : K8sRuntimeState} (h : s.pods ≠ []) :
    s.mostRecentPod ∈ s.pods ∧ ∀ q ∈ s.pods, q.recency ≤ s.mostRecentPod.recency := by
  obtain ⟨v, l, hvl⟩ := List.exists_cons_of_ne_nil h
  unfold K8sRuntimeState.mostRecentPod
  rw [hvl]
  exact foldl_mostRecent l v

end Recency

/-- What pruning leaves: distinct `PodID`s, no deleting pod, and a terminated pod only as the
latest one. -/
structure Pruned (pods : List Pod) : Prop where
  nodup : (pods.map (·.podID)).Nodup
  notDeleting : ∀ p ∈ pods, p.deleting = false
  dead : ∀ p ∈ pods, p.isDead = true → ∀ q ∈ pods, q.recency ≤ p.recency

/-- A map that is pruned but for the pods named `n`. -/
structure PrunedExcept (n : PodID) (pods : List Pod) : Prop where
  nodup : (pods.map (·.podID)).Nodup
  notDeleting : ∀ p ∈ pods, p.podID ≠ n → p.deleting = false
  dead : ∀ p ∈ pods, p.podID ≠ n → p.isDead = true →
    ∀ q ∈ pods, q.podID ≠ n → q.recency ≤ p.recency

theorem eq_of_mem_of_length_le_one {α : Type} {l : List α} {a b : α} (h : l.length ≤ 1)
    (ha : a ∈ l) (hb : b ∈ l) : a = b := by
  rcases l with _ | ⟨x, _ | ⟨y, l⟩⟩
  · cases ha
  · rw [List.mem_singleton.mp ha, List.mem_singleton.mp hb]
  · simp at h

section Invariant

variable {pods pods' : List Pod} {n : PodID} {p q : Pod}

theorem Pruned.nil : Pruned [] :=
  ⟨List.nodup_nil, fun _ h => (nomatch h), fun _ h => (nomatch h)⟩

theorem Pruned.of_like (h : Pruned pods) (hnd : (pods'.map (·.podID)).Nodup)
    (hlike : ∀ p' ∈ pods', ∃ p ∈ pods, p.recency = p'.recency ∧ p.isDead = p'.isDead ∧
      p.deleting = p'.deleting) : Pruned pods' where
  nodup := hnd
  notDeleting p' hp' := by
    obtain ⟨p, hp, -, -, hd⟩ := hlike p' hp'
    exact hd ▸ h.notDeleting p hp
  dead p' hp' hdead q' hq' := by
    obtain ⟨p, hp, hr, hd, -⟩ := hlike p' hp'
    obtain ⟨q, hq, hqr, -, -⟩ := hlike q' hq'
    exact hr ▸ hqr ▸ h.dead p hp (hd ▸ hdead) q hq

theorem Pruned.sublist (h : Pruned pods) (hs : pods'.Sublist pods) : Pruned pods' :=
  h.of_like (h.nodup.sublist (hs.map _)) fun p hp => ⟨p, hs.subset hp, rfl, rfl, rfl⟩

theorem Pruned.setPod (h : Pruned pods) (hq : ∀ r ∈ pods, r.podID = q.podID →
    r.recency = q.recency ∧ r.isDead = q.isDead ∧ r.deleting = q.deleting) :
    Pruned (setPod pods q) :=
  h.of_like (by rw [map_podID_setPod]; exact h.nodup) fun p' hp' => by
    rcases mem_setPod.mp hp' with ⟨r, hr, hid, rfl⟩ | ⟨hp', -⟩
    · exact ⟨r, hr, hq r hr hid⟩
    · exact ⟨p', hp', rfl, rfl, rfl⟩

theorem PrunedExcept.sublist (h : PrunedExcept n pods) (hs : pods'.Sublist pods) :
    PrunedExcept n pods' where
  nodup := h.nodup.sublist (hs.map _)
  notDeleting p hp := h.notDeleting p (hs.subset hp)
  dead p hp hn hdead q hq := h.dead p (hs.subset hp) hn hdead q (hs.subset hq)

/-- A map that is pruned but for one pod has at most one terminated pod besides its most recent
one. A terminated pod of another name than `n` is the latest of the others, so the most recent
pod, which is later, is named `n`; two terminated pods besides it are then both of other
names, each no earlier than the other. -/
theorem PrunedExcept.stale_unique {s : K8sRuntimeState} (h : PrunedExcept n s.pods)
    {d e : Pod} (hd : d ∈ s.pods) (he : e ∈ s.pods) (hdd : d.isDead = true)
    (hed : e.isDead = true) (hdm : d.podID ≠ s.mostRecentPod.podID)
    (hem : e.podID ≠ s.mostRecentPod.podID) : d = e := by
  obtain ⟨hm, hmax⟩ := mostRecentPod_max (List.ne_nil_of_mem hd)
  have hsame : ∀ {x y : Pod}, x ∈ s.pods → y ∈ s.pods → x.recency = y.recency → x = y :=
    fun hx hy hxy => List.inj_on_of_nodup_map h.nodup hx hy (Pod.podID_eq_of_recency_eq hxy)
  have hlatest : ∀ x ∈ s.pods, x.isDead = true → x.podID ≠ s.mostRecentPod.podID →
      x.podID ≠ n → s.mostRecentPod.podID = n := fun x hx hxd hxm hxn => by
    by_contra hmn
    exact hxm (congrArg (·.podID) (hsame hx hm
      (le_antisymm (hmax x hx) (h.dead x hx hxn hxd _ hm hmn))))
  by_cases hdn : d.podID = n
  · by_cases hen : e.podID = n
    · exact List.inj_on_of_nodup_map h.nodup hd he (hdn.trans hen.symm)
    · exact absurd (hdn.trans (hlatest e he hed hem hen).symm) hdm
  · have hmn := hlatest d hd hdd hdm hdn
    have hen : e.podID ≠ n := hmn ▸ hem
    exact hsame hd he (le_antisymm (h.dead e he hen hed d hd hdn) (h.dead d hd hdn hdd e he hen))

/-- Pruning a map that is pruned but for one pod leaves it pruned: it drops the one terminated
pod besides the most recent one, if there is one. -/
theorem PrunedExcept.prunePods {ms : ManifestState} (h : PrunedExcept n ms.runtimeState.pods) :
    Pruned (prunePods ms).runtimeState.pods := by
  set live := ms.runtimeState.pods.filter (!·.deleting)
  set s : K8sRuntimeState := { ms.runtimeState with pods := live }
  have hlive : PrunedExcept n s.pods := h.sublist (List.filter_sublist _)
  have hnotDel : ∀ p ∈ live, p.deleting = false := fun p hp => by
    simpa using (List.mem_filter.mp hp).2
  /- What is left is pruned when every terminated pod left is the most recent one. -/
  have hresult : ∀ pods, pods.Sublist live →
      (∀ e ∈ pods, e.isDead = true → e.podID = s.mostRecentPod.podID) → Pruned pods :=
    fun pods hs hdead => ⟨hlive.nodup.sublist (hs.map _), fun p hp => hnotDel p (hs.subset hp),
      fun e he hed q hq => by
        obtain ⟨hm, hmax⟩ := mostRecentPod_max (s := s) (List.ne_nil_of_mem (hs.subset he))
        rw [List.inj_on_of_nodup_map hlive.nodup (hs.subset he) hm (hdead e he hed)]
        exact hmax q (hs.subset hq)⟩
  unfold TiltWatch.prunePods
  dsimp only
  split
  · split
    · rename_i d hfind
      have hd := List.find?_some hfind
      simp only [Bool.and_eq_true, bne_iff_ne] at hd
      refine hresult _ deletePod_sublist fun e he hed => ?_
      obtain ⟨he, hne⟩ := mem_deletePod.mp he
      by_contra hem
      exact hne (congrArg (·.podID)
        (hlive.stale_unique he (List.mem_of_find?_eq_some hfind) hed hd.1 hem hd.2))
    · rename_i hfind
      refine hresult _ (List.Sublist.refl _) fun e he hed => ?_
      have := List.find?_eq_none.mp hfind e he
      simpa [hed] using this
  · rename_i hlen
    refine hresult _ (List.Sublist.refl _) fun e he _ => ?_
    obtain ⟨hm, -⟩ := mostRecentPod_max (s := s) (List.ne_nil_of_mem he)
    rw [eq_of_mem_of_length_le_one (Nat.le_of_not_gt hlen) he hm]

theorem Pruned.prunedExcept_setPod (h : Pruned pods) (hnd : (pods'.map (·.podID)).Nodup)
    (hsub : ∀ r ∈ pods', r.podID ≠ q.podID → r ∈ pods) :
    PrunedExcept q.podID (TiltWatch.setPod pods' q) := by
  have hold : ∀ r ∈ TiltWatch.setPod pods' q, r.podID ≠ q.podID → r ∈ pods := fun r hr hne => by
    rcases mem_setPod.mp hr with ⟨-, -, -, rfl⟩ | ⟨hr, -⟩
    · exact absurd rfl hne
    · exact hsub r hr hne
  exact ⟨by rw [map_podID_setPod]; exact hnd, fun r hr hne => h.notDeleting r (hold r hr hne),
    fun r hr hne hdead q' hq' hqne => h.dead r (hold r hr hne) hdead q' (hold q' hq' hqne)⟩

theorem Pod.withContainers_like {pod : V1.Pod} {isNew : Bool} :
    p.recency = (p.withContainers pod isNew).recency ∧
      p.isDead = (p.withContainers pod isNew).isDead ∧
      p.deleting = (p.withContainers pod isNew).deleting := by
  unfold Pod.withContainers; split <;> exact ⟨rfl, rfl, rfl⟩

theorem Pruned.updateTrackedPod {ms : ManifestState} (h : Pruned pods)
    (hnd : (ms.runtimeState.pods.map (·.podID)).Nodup)
    (hsub : ∀ r ∈ ms.runtimeState.pods, r.podID ≠ q.podID → r ∈ pods) (pod : V1.Pod)
    (isNew : Bool) : Pruned (updateTrackedPod ms q pod isNew).runtimeState.pods := by
  have hpruned := @PrunedExcept.prunePods _ (ms.setPod q) (h.prunedExcept_setPod hnd hsub)
  obtain ⟨pods₁, heq, hs, -⟩ := prunePods_eq (ms.setPod q)
  rw [heq] at hpruned
  rw [TiltWatch.updateTrackedPod, heq]
  refine hpruned.setPod fun r hr hid => ?_
  rcases mem_setPod.mp (hs.subset hr) with ⟨-, -, -, rfl⟩ | ⟨-, hne⟩
  · exact Pod.withContainers_like
  · exact absurd (hid.trans Pod.withContainers_podID) hne

theorem forAncestor_pods_sublist (r : K8sRuntimeState) (A : UID) :
    (r.forAncestor A).pods.Sublist r.pods := by
  rcases forAncestor_cases r A with h | ⟨h, -⟩ <;> rw [h]
  · exact List.nil_sublist _

theorem maybeTrackPod_pods {ms₀ ms : ManifestState} {a : PodChangeAction} {isNew : Bool}
    (h : maybeTrackPod ms₀ a = (ms, some (p, isNew)))
    (hnd : (ms₀.runtimeState.pods.map (·.podID)).Nodup) :
    (ms.runtimeState.pods.map (·.podID)).Nodup ∧
      ∀ r ∈ ms.runtimeState.pods, r.podID ≠ p.podID → r ∈ ms₀.runtimeState.pods := by
  rcases maybeTrackPod_cases ms₀ a with ⟨hms, -⟩ | ⟨-, hnone, heq⟩
  · rw [h] at hms
    subst hms
    exact ⟨hnd, fun r hr _ => hr⟩
  rw [h, Prod.mk.injEq, Option.some.injEq, Prod.mk.injEq] at heq
  obtain ⟨rfl, rfl, rfl⟩ := heq
  have hsub := forAncestor_pods_sublist ms₀.runtimeState a.matchedAncestorUID
  refine ⟨?_, fun r hr hne => ?_⟩
  · rw [List.map_append, List.map_singleton, ← List.concat_eq_append]
    refine (hnd.sublist (hsub.map _)).concat fun hin => ?_
    obtain ⟨r, hr, hid⟩ := List.mem_map.mp hin
    exact K8sRuntimeState.pod?_eq_none.mp hnone r hr hid
  · rcases List.mem_append.mp hr with hr | hr
    · exact hsub.subset hr
    · exact absurd (congrArg (·.podID) (List.mem_singleton.mp hr)) hne

end Invariant

/-- The engine's targets keep their pods pruned, and their manifest names distinct, as the keys
of the `ManifestTargets` map are. -/
structure PrunedState (st : EngineState) : Prop where
  names : (st.manifestTargets.map (·.manifest.name)).Nodup
  pruned : ∀ t ∈ st.manifestTargets, Pruned t.state.runtimeState.pods

section Run

variable {st : EngineState}

theorem updateManifestState_names {mn : ManifestName} {f : ManifestState → ManifestState} :
    (st.updateManifestState mn f).manifestTargets.map (·.manifest.name) =
      st.manifestTargets.map (·.manifest.name) := by
  simp only [EngineState.updateManifestState, List.map_map]
  congr 1
  funext t
  simp only [Function.comp_apply]
  split <;> rfl

theorem PrunedState.change (h : PrunedState st) (now : Time) (a : PodChangeAction) :
    PrunedState (handlePodChangeAction now st a) := by
  rcases handlePodChangeAction_cases now st a with ⟨heq, -⟩ |
    ⟨mt, ms, p, isNew, msF, crash, h₁, h₂, heq, -, -, ⟨tm, hrt⟩, -⟩
  · rwa [heq]
  rw [heq]
  have hmt := (matchPodChangeToManifest_some h₁).1
  obtain ⟨hnd, hsub⟩ := maybeTrackPod_pods h₂ (h.pruned mt hmt).nodup
  have hF : Pruned msF.runtimeState.pods := by
    rw [hrt]
    exact (h.pruned mt hmt).updateTrackedPod (q := p.withStatus a.pod) hnd hsub a.pod isNew
  refine ⟨?_, ?_⟩
  · show ((st.updateManifestState mt.manifest.name fun _ => msF).manifestTargets.map _).Nodup
    rw [updateManifestState_names]
    exact h.names
  · exact forall_updateManifestState (f := fun _ => msF) (fun t ht _ => h.pruned t ht)
      fun _ _ _ => hF

theorem PrunedState.delete (h : PrunedState st) (a : PodDeleteAction) :
    PrunedState (handlePodDeleteAction st a) where
  names := by simpa [handlePodDeleteAction, Function.comp_def] using h.names
  pruned t ht := by
    simp only [handlePodDeleteAction, List.mem_map] at ht
    obtain ⟨t₀, ht₀, rfl⟩ := ht
    exact (h.pruned t₀ ht₀).sublist deletePod_sublist

theorem PrunedState.resetRestarts (h : PrunedState st) (a : PodResetRestartsAction) :
    PrunedState (handlePodResetRestartsAction st a) := by
  unfold handlePodResetRestartsAction
  split
  · exact h
  rename_i mt hmt
  split
  · exact h
  rename_i podInfo hpi
  obtain ⟨hmem, hname⟩ := manifestTarget?_mem hmt
  obtain ⟨hpm, hpid⟩ := K8sRuntimeState.pod?_eq_some hpi
  refine ⟨by rw [updateManifestState_names]; exact h.names,
    forall_updateManifestState (fun t ht _ => h.pruned t ht) fun t ht htn => ?_⟩
  obtain rfl : t = mt := List.inj_on_of_nodup_map h.names ht hmem (htn.trans hname.symm)
  refine (h.pruned t ht).setPod fun r hr hid => ?_
  obtain rfl : r = podInfo := List.inj_on_of_nodup_map (h.pruned t ht).nodup hr hpm hid
  exact ⟨rfl, rfl, rfl⟩

theorem PrunedState.step (h : PrunedState st) (now : Time) : ∀ act,
    PrunedState (handlePodAction now st act)
  | .change a => h.change now a
  | .delete a => h.delete a
  | .resetRestarts a => h.resetRestarts a

theorem PrunedState.reduce (h : PrunedState st) (acts : List (Time × PodAction)) :
    PrunedState (reducePodActions st acts) := by
  induction acts generalizing st with
  | nil => exact h
  | cons e es ih => exact ih (h.step e.1 e.2)

end Run

/-- The spec's scenario along a run: pods `web-a`, `web-b` and `web-c` of deploy `rs1` run, then
`web-a` fails and `web-b` succeeds. Each is pruned as it terminates, and only `web-c` is left. -/
example :
    let pod (n : String) (t : Time) (ph : V1.PodPhase) : V1.Pod :=
      { uid := n, name := n, creationTimestamp := t, phase := ph }
    let st₀ : EngineState := { manifestTargets :=
      [⟨{ name := "web" }, { name := "web", runtimeState := { deployedUIDSet := ["rs1"] } }⟩] }
    let acts : List (Time × PodAction) := [("web-a", 1, .running), ("web-b", 2, .running),
      ("web-c", 3, .running), ("web-a", 1, .failed), ("web-b", 2, .succeeded)].map
        fun (n, t, ph) => (0, .change ⟨pod n t ph, "web", "rs1"⟩)
    (reducePodActions st₀ acts).trackedPods.map (·.podID) = ["web-c"] := by
  decide

end TiltWatch
