import TiltWatch.Reducer.PodActions

/-! # What the pod reducers do to the tracked pods

Every reducer step keeps each target's ancestor and keeps or drops its pods, save one: a
change action that `maybeTrackPod` tracks as a new pod of the current deploy. That step runs
case 1 of `maybeTrackPod`, which may drop every pod and take the action's ancestor, and
then adds the pod, unless the pod is deleting, in which case pruning drops it again.
-/

namespace TiltWatch

def ManifestTarget.podIDs (t : ManifestTarget) : List PodID :=
  t.state.runtimeState.pods.map (·.podID)

/-- Every target after a step is a target before, of the same manifest and ancestor, that
tracked the pods it tracks, and maybe more. -/
def PodsShrink (st st' : EngineState) : Prop :=
  ∀ t' ∈ st'.manifestTargets, ∃ t ∈ st.manifestTargets, t'.manifest.name = t.manifest.name ∧
    t'.state.runtimeState.podAncestorUID = t.state.runtimeState.podAncestorUID ∧
    t'.podIDs.Sublist t.podIDs

theorem PodsShrink.refl (st : EngineState) : PodsShrink st st :=
  fun t ht => ⟨t, ht, rfl, rfl, List.Sublist.refl _⟩

theorem handlePodDeleteAction_shrink (st : EngineState) (a : PodDeleteAction) :
    PodsShrink st (handlePodDeleteAction st a) := by
  intro t' ht'
  simp only [handlePodDeleteAction, List.mem_map] at ht'
  obtain ⟨t, ht, rfl⟩ := ht'
  exact ⟨t, ht, rfl, rfl, (List.filter_sublist _).map _⟩

theorem handlePodResetRestartsAction_shrink (st : EngineState) (a : PodResetRestartsAction) :
    PodsShrink st (handlePodResetRestartsAction st a) := by
  unfold handlePodResetRestartsAction
  split
  · exact .refl st
  · split
    · exact .refl st
    · exact forall_updateManifestState (fun t ht _ => ⟨t, ht, rfl, rfl, .refl _⟩)
        fun t ht _ => ⟨t, ht, rfl, rfl, by
          simp [ManifestTarget.podIDs, ManifestState.setPod, map_podID_setPod]⟩

/-- A change action either adds no pod, and then only keeps or drops pods; or it adds its
pod as new. Then the matched manifest's targets have case 1's ancestor and track some of
the pods case 1 kept, and the new pod unless it is deleting. -/
theorem handlePodChangeAction_tracking (now : Time) (st : EngineState) (a : PodChangeAction) :
    (PodsShrink st (handlePodChangeAction now st a) ∧
      ∀ mt, matchPodChangeToManifest st a = some mt →
        ∀ p, (maybeTrackPod mt.state a).2 ≠ some (p, true)) ∨
    ∃ mt, matchPodChangeToManifest st a = some mt ∧
      (maybeTrackPod mt.state a).2 = some ({ podID := a.pod.name }, true) ∧
      ∀ t' ∈ (handlePodChangeAction now st a).manifestTargets,
        (t'.manifest.name ≠ mt.manifest.name ∧ t' ∈ st.manifestTargets) ∨
        (t'.manifest.name = mt.manifest.name ∧
          t'.state.runtimeState.podAncestorUID =
            (mt.state.runtimeState.forAncestor a.matchedAncestorUID).podAncestorUID ∧
          t'.podIDs.Sublist
            ((mt.state.runtimeState.forAncestor a.matchedAncestorUID).pods.map (·.podID) ++
              [a.pod.name]) ∧
          (a.pod.isDeleting = true → a.pod.name ∉ t'.podIDs)) := by
  rcases handlePodChangeAction_cases now st a with ⟨heq, hnone⟩ | ⟨mt, ms, p, isNew, msF, crash,
    h₁, h₂, heq, -, -, ⟨tm, hrt⟩, -⟩
  · exact .inl ⟨by rw [heq]; exact .refl st, fun mt h p hp => by simp [hnone mt h] at hp⟩
  have hmt := (matchPodChangeToManifest_some h₁).1
  obtain ⟨pods, hU, hsub, hdel⟩ := updateTrackedPod_eq ms (p.withStatus a.pod) a.pod isNew
  rw [hU] at hrt
  have hF : msF.runtimeState.podAncestorUID = ms.runtimeState.podAncestorUID ∧
      msF.runtimeState.pods = pods := by rw [hrt]; exact ⟨rfl, rfl⟩
  have hmem : ∀ t', t' ∈ (handlePodChangeAction now st a).manifestTargets →
      t' ∈ (st.updateManifestState mt.manifest.name fun _ => msF).manifestTargets := by
    rw [heq]; exact fun _ h => h
  rcases maybeTrackPod_cases mt.state a with ⟨hms, hold⟩ | ⟨-, -, hnew⟩
  · rw [h₂] at hms hold
    obtain ⟨rfl, -⟩ := hold p isNew rfl
    subst hms
    refine .inl ⟨fun t' ht' => ?_, fun mt' h p' hp' => ?_⟩
    · obtain ⟨t, ht, ⟨hn, rfl⟩ | ⟨-, rfl⟩⟩ := mem_updateManifestState.mp (hmem t' ht')
      · refine ⟨mt, hmt, hn, hF.1, ?_⟩
        simpa [ManifestTarget.podIDs, hF.2] using hsub
      · exact ⟨t', ht, rfl, rfl, .refl _⟩
    · rw [h₁] at h
      cases h
      rw [h₂] at hp'
      cases hp'
  · rw [h₂] at hnew
    simp only [Prod.mk.injEq, Option.some.injEq] at hnew
    obtain ⟨rfl, rfl, rfl⟩ := hnew
    refine .inr ⟨mt, h₁, by rw [h₂], fun t' ht' => ?_⟩
    obtain ⟨t, ht, ⟨hn, rfl⟩ | ⟨hn, rfl⟩⟩ := mem_updateManifestState.mp (hmem t' ht')
    · refine .inr ⟨hn, hF.1, ?_, fun hd hmem => ?_⟩
      · simpa [ManifestTarget.podIDs, hF.2] using hsub
      · obtain ⟨r, hr, hid⟩ := List.mem_map.mp (by simpa [ManifestTarget.podIDs, hF.2] using hmem)
        exact hdel (by simpa using hd) r hr (by simpa using hid)
    · exact .inl ⟨hn, ht⟩

end TiltWatch
