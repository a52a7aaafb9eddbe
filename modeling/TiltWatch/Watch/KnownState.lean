import Mathlib.Data.List.Nodup
import TiltWatch.Basic

/-! # Known deployed UIDs and descendant indices

Both watchers walk an owner tree twice under their lock: once to record the object under
every owner in a descendant index, once to find the first owner that a deploy has
registered. The walks are shared here; the pod watcher skips the pod's own UID before
recording, the event watcher does not.
-/

namespace TiltWatch

/-- `set.Add(uid)` on the descendant set of `owner`, creating the set when missing. -/
def addDescendant (index : UID → List UID) (owner uid : UID) : UID → List UID :=
  Function.update index owner ((index owner).insert uid)

/-- The descendant-index loop of a triage: record `uid` under every owner in turn. -/
def recordDescendant (index : UID → List UID) (uid : UID) (owners : List UID) :
    UID → List UID :=
  owners.foldl (fun idx owner => addDescendant idx owner uid) index

/-- The manifest-name loop of a triage: the first owner a deploy registered. -/
def findDeployed (deployed : UID → Option ManifestName) : List UID → Option (ManifestName × UID)
  | [] => none
  | u :: us =>
    match deployed u with
    | some mn => some (mn, u)
    | none => findDeployed deployed us

theorem mem_addDescendant {index : UID → List UID} {owner uid u v : UID} :
    v ∈ addDescendant index owner uid u ↔ v ∈ index u ∨ (u = owner ∧ v = uid) := by
  unfold addDescendant
  by_cases h : u = owner
  · subst h; simp [or_comm]
  · simp [Function.update_noteq h, h]

theorem mem_recordDescendant {index : UID → List UID} {uid u v : UID} {owners : List UID} :
    v ∈ recordDescendant index uid owners u ↔ v ∈ index u ∨ (u ∈ owners ∧ v = uid) := by
  induction owners generalizing index with
  | nil => simp [recordDescendant]
  | cons o os ih =>
    simp only [recordDescendant, List.foldl_cons] at ih ⊢
    rw [ih, mem_addDescendant, List.mem_cons]
    tauto

theorem nodup_recordDescendant {index : UID → List UID} {uid : UID} {owners : List UID}
    (h : ∀ u, (index u).Nodup) (u : UID) : (recordDescendant index uid owners u).Nodup := by
  induction owners generalizing index with
  | nil => exact h u
  | cons o os ih =>
    refine ih fun w => ?_
    unfold addDescendant
    by_cases hw : w = o
    · subst hw; simpa using (h w).insert
    · simpa [Function.update_noteq hw] using h w

theorem findDeployed_some {deployed : UID → Option ManifestName} {owners : List UID}
    {mn : ManifestName} {u : UID} (h : findDeployed deployed owners = some (mn, u)) :
    u ∈ owners ∧ deployed u = some mn := by
  induction owners with
  | nil => simp [findDeployed] at h
  | cons o os ih =>
    simp only [findDeployed] at h
    split at h
    · rename_i mn' hd
      cases h; exact ⟨List.mem_cons_self _ _, hd⟩
    · exact ⟨List.mem_cons_of_mem _ (ih h).1, (ih h).2⟩

theorem findDeployed_none {deployed : UID → Option ManifestName} {owners : List UID}
    (h : ∀ u ∈ owners, deployed u = none) : findDeployed deployed owners = none := by
  induction owners with
  | nil => rfl
  | cons o os ih =>
    simp only [findDeployed, h o (List.mem_cons_self _ _)]
    exact ih fun u hu => h u (List.mem_cons_of_mem _ hu)

theorem findDeployed_unique {deployed : UID → Option ManifestName} {owners : List UID}
    {U : UID} {R : ManifestName} (hU : U ∈ owners) (hR : deployed U = some R)
    (hother : ∀ u ∈ owners, u ≠ U → deployed u = none) :
    findDeployed deployed owners = some (R, U) := by
  induction owners with
  | nil => simp at hU
  | cons o os ih =>
    by_cases ho : o = U
    · subst ho; simp [findDeployed, hR]
    · have hos : U ∈ os := (List.mem_cons.mp hU).resolve_left (Ne.symm ho)
      simp only [findDeployed, hother o (List.mem_cons_self _ _) ho]
      exact ih hos fun u hu => hother u (List.mem_cons_of_mem _ hu)

section Registrations

/-! Both watchers keep, for each UID, the manifest of its last registration. When `U` is the
only owner of a tree ever registered, and only to `R`, the walk over the tree finds `U`
once it is registered and nothing before. -/

variable {deployed : UID → Option ManifestName} {regs : UID → List ManifestName}
  {owners : List UID} {U : UID} {R : ManifestName}

theorem findDeployed_of_registered (hd : ∀ u, deployed u = (regs u).getLast?)
    (honly : ∀ u ∈ owners, ∀ mn ∈ regs u, u = U ∧ mn = R) (hU : U ∈ owners) (hR : R ∈ regs U) :
    findDeployed deployed owners = some (R, U) := by
  refine findDeployed_unique hU ?_ fun u hu hne => ?_
  · obtain ⟨mn, hmn⟩ := Option.ne_none_iff_exists'.mp
      (mt List.getLast?_eq_none_iff.mp (List.ne_nil_of_mem hR))
    rw [hd, hmn, (honly U hU mn (List.mem_of_getLast?_eq_some hmn)).2]
  · rw [hd, List.getLast?_eq_none_iff, List.eq_nil_iff_forall_not_mem]
    exact fun mn hmn => hne (honly u hu mn hmn).1

theorem findDeployed_of_unregistered (hd : ∀ u, deployed u = (regs u).getLast?)
    (honly : ∀ u ∈ owners, ∀ mn ∈ regs u, u = U ∧ mn = R) (hR : R ∉ regs U) :
    findDeployed deployed owners = none :=
  findDeployed_none fun u hu => by
    rw [hd, List.getLast?_eq_none_iff, List.eq_nil_iff_forall_not_mem]
    intro mn hmn
    obtain ⟨rfl, rfl⟩ := honly u hu mn hmn
    exact hR hmn

end Registrations

end TiltWatch
