import Mathlib.Data.List.Nodup

/-! # Go maps

A Go map as the controllers iterate it: its values in some order, at most one per key, where
each value determines its key. Lookup `m[k]` is `get?`, `m[key v] = v` is `set`, and a
`for k := range m` loop that deletes the keys failing `p` leaves `filter p` and deletes
`dropped p`. Every theorem about a controller holds for every iteration order.
-/

namespace TiltWatch

/-- A Go map, as the list of its values in iteration order; `key` gives a value's key. -/
structure KeyedMap (κ ν : Type) (key : ν → κ) where
  entries : List ν := []
  nodup : (entries.map key).Nodup := by decide

namespace KeyedMap

variable {κ ν : Type} {key : ν → κ} (m : KeyedMap κ ν key)

/-- The map after a loop that deletes every key failing `p`. -/
def filter (p : κ → Bool) : KeyedMap κ ν key :=
  ⟨m.entries.filter (p <| key ·), m.nodup.sublist ((List.filter_sublist _).map _)⟩

/-- The values that loop deletes. -/
def dropped (p : κ → Bool) : List ν :=
  m.entries.filter fun v => !p (key v)

section Filter

variable {m} {v : ν} {p : κ → Bool}

@[simp] theorem mem_filter :
    v ∈ (m.filter p).entries ↔ v ∈ m.entries ∧ p (key v) = true := by
  simp [filter]

@[simp] theorem mem_dropped : v ∈ m.dropped p ↔ v ∈ m.entries ∧ p (key v) = false := by
  simp [dropped]

theorem dropped_eq_nil : m.dropped p = [] ↔ ∀ v ∈ m.entries, p (key v) = true := by
  simp [dropped]

end Filter

variable [DecidableEq κ]

def get? (k : κ) : Option ν :=
  m.entries.find? (key · == k)

/-- `m[key v] = v`. -/
def set (v : ν) : KeyedMap κ ν key :=
  ⟨m.entries.filter (key · != key v) ++ [v], by
    rw [List.map_append, List.nodup_append]
    exact ⟨m.nodup.sublist ((List.filter_sublist _).map _), List.nodup_singleton _,
      by simp [List.disjoint_singleton]⟩⟩

variable {m} {k : κ} {v w : ν} {p : κ → Bool}

theorem get?_eq_none : m.get? k = none ↔ ∀ v ∈ m.entries, key v ≠ k := by
  simp [get?, List.find?_eq_none]

theorem get?_spec (h : m.get? k = some v) : v ∈ m.entries ∧ key v = k :=
  ⟨List.mem_of_find?_eq_some h, by simpa using List.find?_some h⟩

theorem get?_eq_some : m.get? k = some v ↔ v ∈ m.entries ∧ key v = k := by
  refine ⟨get?_spec, fun ⟨hv, hk⟩ => ?_⟩
  subst hk
  cases h : m.get? (key v) with
  | none => exact absurd rfl (get?_eq_none.mp h v hv)
  | some w =>
    have hw := get?_spec h
    rw [List.inj_on_of_nodup_map m.nodup hw.1 hv hw.2]

theorem isSome_get?_iff : (m.get? k).isSome ↔ ∃ v ∈ m.entries, key v = k := by
  simp [Option.isSome_iff_exists, get?_eq_some]

theorem get?_congr {m' : KeyedMap κ ν key}
    (h : ∀ v, key v = k → (v ∈ m'.entries ↔ v ∈ m.entries)) : m'.get? k = m.get? k :=
  Option.ext fun v => by
    rw [Option.mem_def, Option.mem_def, get?_eq_some, get?_eq_some]
    exact ⟨fun ⟨hv, hk⟩ => ⟨(h v hk).mp hv, hk⟩,
      fun ⟨hv, hk⟩ => ⟨(h v hk).mpr hv, hk⟩⟩

theorem mem_set : w ∈ (m.set v).entries ↔ w = v ∨ w ∈ m.entries ∧ key w ≠ key v := by
  simp [set, or_comm]

theorem get?_set_self : (m.set v).get? (key v) = some v :=
  get?_eq_some.mpr ⟨mem_set.mpr (.inl rfl), rfl⟩

theorem get?_set_of_ne (h : k ≠ key v) : (m.set v).get? k = m.get? k :=
  get?_congr fun w hw => by
    rw [mem_set]
    exact ⟨fun h' => h'.resolve_left (by rintro rfl; exact h hw.symm) |>.1,
      fun h' => .inr ⟨h', hw ▸ h⟩⟩

theorem isSome_get?_set (h : (m.get? k).isSome) : ((m.set v).get? k).isSome := by
  by_cases hk : k = key v
  · rw [hk, get?_set_self]; rfl
  · rwa [get?_set_of_ne hk]

theorem mem_foldl_set {vs : List ν} (h : w ∈ (vs.foldl (·.set ·) m).entries) :
    w ∈ m.entries ∨ w ∈ vs := by
  induction vs generalizing m with
  | nil => exact .inl h
  | cons v vs ih =>
    rcases ih h with h | h
    · rcases mem_set.mp h with rfl | ⟨h, -⟩
      · exact .inr (List.mem_cons_self _ _)
      · exact .inl h
    · exact .inr (List.mem_cons_of_mem _ h)

theorem isSome_get?_foldl_set {vs : List ν} (h : (m.get? k).isSome ∨ ∃ v ∈ vs, key v = k) :
    ((vs.foldl (·.set ·) m).get? k).isSome := by
  induction vs generalizing m with
  | nil => simpa using h
  | cons v vs ih =>
    refine ih ?_
    rcases h with h | ⟨v', hv', rfl⟩
    · exact .inl (isSome_get?_set h)
    · rcases List.mem_cons.mp hv' with rfl | hv'
      · rw [get?_set_self]; exact .inl rfl
      · exact .inr ⟨v', hv', rfl⟩

theorem get?_filter_of_pos (h : p k = true) : (m.filter p).get? k = m.get? k :=
  get?_congr fun w hw => by simp [hw, h]

theorem get?_filter_of_neg (h : p k = false) : (m.filter p).get? k = none :=
  get?_eq_none.mpr fun w hw hwk => by simp_all

end KeyedMap

end TiltWatch
