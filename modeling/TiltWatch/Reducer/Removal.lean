import Mathlib.Data.List.Forall2
import Mathlib.Data.List.Nodup
import TiltWatch.Reducer.PodActions

/-! # The pods that pruning and deletion remove

`prunePods` drops every deleting pod, and then, when more than one pod is left, drops the
first terminated pod of the iteration that is not the most recent one. Its loop is meant to
go on "until we have 1 pod", but its body ends in an unconditional `return`, so it drops at
most one terminated pod: two old terminated pods beside a running one leave one of them.

`handlePodDeleteAction` keys on the pod's name alone, as the runtime's `Pods` map does. The
action also carries the namespace, which the reducer never reads, so a pod of that name is
dropped from every manifest, whatever its namespace.
-/

namespace TiltWatch

section Prune

variable {ms : ManifestState} {p q : Pod}

theorem mem_prunePods (hp : p ∈ ms.runtimeState.pods) (hdel : p.deleting = false)
    (hdead : ∀ q ∈ ms.runtimeState.pods, q.podID = p.podID → q.isDead = false) :
    p ∈ (prunePods ms).runtimeState.pods := by
  have hkeep : p ∈ ms.runtimeState.pods.filter (!·.deleting) := by simp [hp, hdel]
  unfold prunePods
  dsimp only
  split
  · split
    · rename_i d hd
      have hd' := List.find?_some hd
      simp only [Bool.and_eq_true] at hd'
      have hmem := List.mem_of_find?_eq_some hd
      refine mem_deletePod.mpr ⟨hkeep, fun h => ?_⟩
      have := hdead d (List.mem_filter.mp hmem).1 h.symm
      simp [this] at hd'
    · exact hkeep
  · exact hkeep

theorem prunePods_dropped (hp : p ∈ ms.runtimeState.pods) (hdel : p.deleting = false)
    (hout : p ∉ (prunePods ms).runtimeState.pods) :
    ∃ d ∈ ms.runtimeState.pods, d.isDead = true ∧ d.deleting = false ∧ d.podID = p.podID ∧
      ∀ q ∈ ms.runtimeState.pods, q.deleting = false →
        q ∉ (prunePods ms).runtimeState.pods → q.podID = d.podID := by
  have hkeep : ∀ q ∈ ms.runtimeState.pods, q.deleting = false →
      q ∈ ms.runtimeState.pods.filter (!·.deleting) := by simp_all
  unfold prunePods at hout ⊢
  dsimp only at hout ⊢
  split at hout
  · split at hout
    · rename_i d hd
      have hd' := List.find?_some hd
      simp only [Bool.and_eq_true] at hd'
      have hmem := List.mem_filter.mp (List.mem_of_find?_eq_some hd)
      have hid : ∀ q ∈ ms.runtimeState.pods, q.deleting = false →
          q ∉ deletePod (ms.runtimeState.pods.filter (!·.deleting)) d.podID → q.podID = d.podID :=
        fun q hq hqd hqo => by simpa [hkeep q hq hqd] using hqo
      refine ⟨d, hmem.1, hd'.1, by simpa using hmem.2, (hid p hp hdel hout).symm, ?_⟩
      simp only [gt_iff_lt, hd]
      exact fun q hq hqd hqo => hid q hq hqd (by simpa [*] using hqo)
    · exact absurd (hkeep p hp hdel) hout
  · exact absurd (hkeep p hp hdel) hout

/-- What `prunePods` does to a `Pods` map: every pod it keeps was there and is not deleting;
every pod that is neither deleting nor terminated stays; and of the others it drops at most
one. -/
theorem prune_drops_at_most_one_terminated (ms : ManifestState)
    (hkeys : (ms.runtimeState.pods.map (·.podID)).Nodup) :
    (∀ p ∈ (prunePods ms).runtimeState.pods, p ∈ ms.runtimeState.pods ∧ p.deleting = false) ∧
    (∀ p ∈ ms.runtimeState.pods, p.deleting = false → p.isDead = false →
      p ∈ (prunePods ms).runtimeState.pods) ∧
    (∀ p ∈ ms.runtimeState.pods, ∀ q ∈ ms.runtimeState.pods, p.deleting = false →
      q.deleting = false → p ∉ (prunePods ms).runtimeState.pods →
      q ∉ (prunePods ms).runtimeState.pods → p = q) := by
  obtain ⟨pods, heq, hsub, hdel⟩ := prunePods_eq ms
  have hsame : ∀ p ∈ ms.runtimeState.pods, ∀ q ∈ ms.runtimeState.pods,
      q.podID = p.podID → q = p :=
    fun p hp q hq h => List.inj_on_of_nodup_map hkeys hq hp h
  refine ⟨fun p hp => ?_, fun p hp hd hdead => mem_prunePods hp hd fun q hq h => ?_,
    fun p hp q hq hpd hqd hpo hqo => ?_⟩
  · rw [heq] at hp
    exact ⟨hsub.subset hp, hdel p hp⟩
  · rwa [hsame p hp q hq h]
  · obtain ⟨d, hd, -, -, hpid, hall⟩ := prunePods_dropped hp hpd hpo
    exact (hsame p hp d hd hpid).symm.trans (hsame d hd q hq (hall q hq hqd hqo)).symm

/-- Two old terminated pods beside a running one, with distinct names. -/
theorem prune_drops_at_most_one_terminated_web :
    let ms : ManifestState := { name := "web", runtimeState := { pods :=
      [{ podID := "web-a", startedAt := 1, phase := .failed },
        { podID := "web-b", startedAt := 2, phase := .succeeded },
        { podID := "web-c", startedAt := 3, phase := .running }] } }
    (ms.runtimeState.pods.map (·.podID)).Nodup ∧
    (∀ p ∈ (prunePods ms).runtimeState.pods, p ∈ ms.runtimeState.pods ∧ p.deleting = false) ∧
    (∀ p ∈ ms.runtimeState.pods, p.deleting = false → p.isDead = false →
      p ∈ (prunePods ms).runtimeState.pods) ∧
    (∀ p ∈ ms.runtimeState.pods, ∀ q ∈ ms.runtimeState.pods, p.deleting = false →
      q.deleting = false → p ∉ (prunePods ms).runtimeState.pods →
      q ∉ (prunePods ms).runtimeState.pods → p = q) :=
  ⟨by decide, prune_drops_at_most_one_terminated _ (by decide)⟩

end Prune

section Delete

/-- `handlePodDeleteAction` drops, from every target, exactly the pods named as the action
names, in every namespace, and keeps everything else: the logs, and each target's manifest,
state and other pods, in the targets' order. -/
theorem pod_delete_removes_name_in_every_namespace (st : EngineState) (a : PodDeleteAction) :
    (handlePodDeleteAction st a).logs = st.logs ∧
    List.Forall₂ (fun t t' : ManifestTarget => t'.manifest = t.manifest ∧
        t'.state = { t.state with runtimeState :=
          { t.state.runtimeState with pods := t'.state.runtimeState.pods } } ∧
        ∀ p, p ∈ t'.state.runtimeState.pods ↔
          p ∈ t.state.runtimeState.pods ∧ p.podID ≠ a.podID)
      st.manifestTargets (handlePodDeleteAction st a).manifestTargets := by
  refine ⟨rfl, ?_⟩
  simp only [handlePodDeleteAction, List.forall₂_map_right_iff]
  exact List.forall₂_same.mpr fun t _ => ⟨rfl, rfl, fun p => mem_deletePod⟩

/-- Deleting pod `web-0` of namespace `staging` also drops the pod `web-0` that manifest
`web` tracks in namespace `dev`. -/
theorem pod_delete_drops_other_namespace :
    let st : EngineState := { manifestTargets :=
      [⟨{ name := "web" }, { name := "web", runtimeState :=
        { pods := [{ podID := "web-0", ns := "dev" }] } }⟩] }
    st.trackedPods = [{ podID := "web-0", ns := "dev" }] ∧
      (handlePodDeleteAction st ⟨"web-0", "staging"⟩).trackedPods = [] := by
  decide

end Delete

end TiltWatch
