import TiltWatch.LogStream.Watches

/-! # Closed log streams stay closed

`Reconcile` marks a key in `hasClosedStream` when it receives the time a cancelled watch sent,
and `shouldStreamContainerLogs` turns down a terminated container whose key is marked. Nothing
removes a key from `hasClosedStream`: not the container loop, not the loop that cancels the
stream's other watches, not the end of a `consumeLogs` goroutine, and not `deleteStreams`,
which drops the stream's watches and status but leaves the set alone. So once a terminated
container's stream is closed, no later `Reconcile` streams it again, even when its
`PodLogStream` is deleted and created again.
-/

namespace TiltWatch

namespace Runtimelog

section Closed

variable {s : NamespacedName} {spec : PodLogStreamSpec} {nInit nRun : Nat}
  {L : List (Nat × Container)} {w w' : LogWorld} {cw cw' : List PodLogKey}

theorem foldlM_reconcileContainer_hasClosedStream
    (h : L.foldlM (LogWorld.reconcileContainer s spec nInit nRun) (w, cw) = some (w', cw')) :
    w.ctrl.hasClosedStream ⊆ w'.ctrl.hasClosedStream := by
  induction L generalizing w cw with
  | nil => obtain ⟨rfl, rfl⟩ := Prod.mk.inj (Option.some.inj h); exact fun _ h => h
  | cons ic L ih =>
    simp only [List.foldlM_cons, Option.bind_eq_bind, Option.bind_eq_some] at h
    obtain ⟨⟨w₁, cw₁⟩, h₁, h₂⟩ := h
    obtain ⟨i, c⟩ := ic
    exact (reconcileContainer_spec h₁).2.2.1.trans (ih h₂)

theorem reconcile_hasClosedStream {sn : NamespacedName} {stream : StreamLookup}
    {pod : PodLookup} (h : w.reconcile sn stream pod = some w') :
    w.ctrl.hasClosedStream ⊆ w'.ctrl.hasClosedStream := by
  rcases reconcile_cases h with rfl | rfl | ⟨spec, cs, nInit, nRun, w₂, cw, -, hfold, rfl⟩
  · exact fun _ h => h
  · exact fun _ h => h
  · simpa using foldlM_reconcileContainer_hasClosedStream hfold

theorem run_hasClosedStream {steps : List LogStep} (h : w.run steps = some w') :
    w.ctrl.hasClosedStream ⊆ w'.ctrl.hasClosedStream := by
  induction steps generalizing w with
  | nil => exact Option.some.inj h ▸ fun _ h => h
  | cons step steps ih =>
    simp only [LogWorld.run, List.foldlM_cons, Option.bind_eq_bind, Option.bind_eq_some] at h
    obtain ⟨w₁, h₁, h₂⟩ := h
    have hstep : w.ctrl.hasClosedStream ⊆ w₁.ctrl.hasClosedStream := by
      cases step with
      | reconcile sn stream pod => exact reconcile_hasClosedStream h₁
      | consumeLogsEnd ctx now =>
        cases Option.some.inj h₁
        unfold LogWorld.consumeLogsEnd
        split_ifs <;> exact fun _ h => h
    exact fun _ hx => ih h₂ (hstep hx)

theorem reconcile_closed_terminated {k : PodLogKey} (hk : k ∈ w.ctrl.hasClosedStream)
    {pod : V1.Pod} (hpod : pod.isDeleting = false)
    (hterm : ∀ c ∈ filterContainers spec pod.initContainers ++
      filterContainers spec pod.containers, c.id = k.cID → c.terminated = true)
    (hr : w.reconcile k.streamName (.found spec) ⟨some pod, none⟩ = some w') :
    w'.ctrl.watches.get? k = none := by
  rw [reconcile_of_found hpod] at hr
  obtain ⟨⟨w₂, cw⟩, hfold, rfl⟩ := Option.map_eq_some'.mp hr
  have hkeys := foldlM_reconcileContainer_keys w.ctrl hfold (by simp)
    (fun k hk => .inl (by simpa using hk)) k
  have hout : k ∉ cw := by
    rw [hkeys, exists_mem_enum
      (P := fun c =>
        k = ⟨k.streamName, spec.pod, c.id⟩ ∧ w.ctrl.shouldStreamContainerLogs c k)]
    rintro (h | ⟨c, hc, hkc, hs⟩)
    · cases h
    · have hid : c.id = k.cID := by rw [hkc]
      simp [PodLogStreamController.shouldStreamContainerLogs, hterm c hc hid, hk] at hs
  show ((w₂.ctrl.watches.filter _).get? k) = none
  rw [KeyedMap.get?_filter_of_neg (by simp [hout])]

/-- Once a key is in `hasClosedStream`, it stays there over every run of the controller, even
when its stream is deleted; and every later `Reconcile` of the key's stream whose pod reports
the key's container terminated leaves the key with no watch. A terminated container whose
stream was closed is never streamed again, even after its `PodLogStream` is deleted and
created again. -/
theorem closed_terminated_container_never_restreamed {w₀ w w' : LogWorld}
    {steps : List LogStep} (hrun : w₀.run steps = some w) {k : PodLogKey}
    (hk : k ∈ w₀.ctrl.hasClosedStream) {spec : PodLogStreamSpec} {pod : V1.Pod}
    (hpod : pod.isDeleting = false)
    (hterm : ∀ c ∈ filterContainers spec pod.initContainers ++
      filterContainers spec pod.containers, c.id = k.cID → c.terminated = true)
    (hr : w.reconcile k.streamName (.found spec) ⟨some pod, none⟩ = some w') :
    k ∈ w'.ctrl.hasClosedStream ∧ w'.ctrl.watches.get? k = none :=
  have hkw := run_hasClosedStream hrun hk
  ⟨reconcile_hasClosedStream hr hkw, reconcile_closed_terminated hkw hpod hterm hr⟩

/-- Container `c1` of pod `web-1` is streamed, its watch ends, and `Reconcile` restarts it and
closes its key. The stream is then deleted; when it comes back with `c1` terminated, `c1` is
not streamed. -/
theorem closed_terminated_container_never_restreamed_recreated :
    let sn : NamespacedName := ⟨"default", "web"⟩
    let spec : PodLogStreamSpec := { pod := "web-1", ns := "default" }
    let key : PodLogKey := ⟨sn, "web-1", "c1"⟩
    let podWith (c : Container) : PodLookup :=
      ⟨some { uid := "u1", name := "web-1", containers := [c] }, none⟩
    let running : Container := { name := "app", id := "c1", running := true }
    let terminated : Container := { name := "app", id := "c1", terminated := true }
    let closed := (LogWorld.run {} [.reconcile sn (.found spec) (podWith running),
      .consumeLogsEnd 0 5, .reconcile sn (.found spec) (podWith running)]).getD {}
    let deleted := (closed.run [.reconcile sn .notFound (podWith terminated)]).getD {}
    let recreated := (deleted.reconcile sn (.found spec) (podWith terminated)).getD {}
    key ∈ closed.ctrl.hasClosedStream ∧
      closed.run [.reconcile sn .notFound (podWith terminated)] = some deleted ∧
      deleted.reconcile sn (.found spec) (podWith terminated) = some recreated ∧
      key ∈ recreated.ctrl.hasClosedStream ∧ recreated.ctrl.watches.get? key = none := by
  intro sn spec key podWith running terminated closed deleted recreated
  have hk : key ∈ closed.ctrl.hasClosedStream := by decide
  have h₁ : closed.run [.reconcile sn .notFound (podWith terminated)] = some deleted :=
    (Option.getD_of_ne_none (Option.ne_none_iff_isSome.mpr (by decide)) _).symm
  have h₂ : deleted.reconcile sn (.found spec) (podWith terminated) = some recreated :=
    (Option.getD_of_ne_none (Option.ne_none_iff_isSome.mpr (by decide)) _).symm
  exact ⟨hk, h₁, h₂,
    closed_terminated_container_never_restreamed h₁ hk (by decide) (by decide) h₂⟩

end Closed

end Runtimelog

end TiltWatch
