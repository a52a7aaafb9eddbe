import Mathlib.Data.List.Basic

/-! # Traces that only grow

A run of a controller records what happened in a trace that each step extends at its
end. A property of every entry together with the entries before it is then preserved
by a step as soon as it holds of the entries the step appends.
-/

namespace TiltWatch

variable {α : Type} {a b pre post : List α} {x : α}

theorem split_append (h : a ++ b = pre ++ x :: post) :
    (∃ post₀, a = pre ++ x :: post₀ ∧ post = post₀ ++ b) ∨
      (∃ mid, pre = a ++ mid ∧ b = mid ++ x :: post) := by
  rcases List.append_eq_append_iff.mp h with ⟨a', rfl, hb⟩ | ⟨c', rfl, hc⟩
  · exact .inr ⟨a', rfl, hb⟩
  · cases c' with
    | nil => exact .inr ⟨[], by simp, by simpa using hc.symm⟩
    | cons y c'' =>
      obtain ⟨rfl, rfl⟩ := List.cons.inj hc
      exact .inl ⟨c'', rfl, rfl⟩

theorem forall_split_append {Q : List α → α → Prop}
    (ha : ∀ pre x post, a = pre ++ x :: post → Q pre x)
    (hb : ∀ mid x post, b = mid ++ x :: post → Q (a ++ mid) x) :
    ∀ pre x post, a ++ b = pre ++ x :: post → Q pre x := by
  intro pre x post h
  rcases split_append h with ⟨post₀, hp, -⟩ | ⟨mid, rfl, hm⟩
  · exact ha _ _ _ hp
  · exact hb _ _ _ hm

theorem split_unique {pre' post' : List α} (ha : x ∉ pre) (hb : x ∉ post)
    (h : pre ++ x :: post = pre' ++ x :: post') : pre' = pre ∧ post' = post := by
  induction pre generalizing pre' with
  | nil =>
    cases pre' with
    | nil => simpa using h.symm
    | cons y ys =>
      obtain ⟨rfl, h'⟩ := List.cons.inj h
      exact absurd (h' ▸ List.mem_append_right _ (List.mem_cons_self _ _)) hb
  | cons y ys ih =>
    cases pre' with
    | nil =>
      obtain ⟨rfl, -⟩ := List.cons.inj h
      simp at ha
    | cons z zs =>
      obtain ⟨rfl, h'⟩ := List.cons.inj h
      obtain ⟨rfl, rfl⟩ := ih (fun hm => ha (List.mem_cons_of_mem _ hm)) h'
      exact ⟨rfl, rfl⟩

theorem countP_erase_add [DecidableEq α] {p : α → Bool} {l : List α} (h : x ∈ l) :
    (l.erase x).countP p + (if p x then 1 else 0) = l.countP p := by
  rw [(List.perm_cons_erase h).countP_eq p, List.countP_cons]

end TiltWatch
