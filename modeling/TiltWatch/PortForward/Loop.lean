import Mathlib.Logic.Function.Iterate
import Mathlib.Data.Nat.Defs
import Mathlib.Algebra.Group.Nat.Basic

/-! # The port-forward retry loop

`startPortForwardLoop` calls `onePortForward` again and again until the forward's context is
cancelled. After a call that returned within a second it sleeps for the next step of an
exponential backoff; after a longer one it resets the backoff. It looks at the context only
when a call returns: `time.Sleep` does not wait on the context, so a cancellation that comes
during a sleep is seen after the sleep and one more call.

Times are in milliseconds. The loop's environment is its input, as for the controllers: for
each call, how long `onePortForward` would run, and the jitter of the sleep after it. The
forwarder is made with the loop's context, so a call running when the context is cancelled
returns then, and a call made after it returns at once.

`wait.Backoff.Step` is library code, not under src/: it is modelled from the spec, as a
duration that doubles on each step up to the cap and then stays at the cap.
-/

namespace TiltWatch

namespace Portforward

/-- The fields of `wait.Backoff` that `startPortForwardLoop` sets and `Step` changes, in
milliseconds. `Factor` is 2; the jitter of each sleep is an input of the loop. -/
structure Backoff where
  steps : Nat
  duration : Nat
  cap : Nat
  deriving DecidableEq, Repr

def originalBackoff : Backoff := ⟨1000, 50, 15000⟩

/-- Modelled from the spec: `Backoff.Step` before its jitter, with the backoff after the step.
The duration doubles until it would pass the cap; the cap is then kept and the steps end. -/
def Backoff.step (b : Backoff) : Nat × Backoff :=
  if b.steps < 1 then (b.duration, b)
  else if b.cap < b.duration * 2 then (b.duration, ⟨0, b.cap, b.cap⟩)
  else (b.duration, ⟨b.steps - 1, b.duration * 2, b.cap⟩)

/-- `startPortForwardLoop` between two calls of `onePortForward`: its backoff, the time, the
sleeps so far, and the time it returned, once it has. -/
structure ForwardLoop where
  backoff : Backoff := originalBackoff
  now : Nat := 0
  sleeps : List Nat := []
  returned : Option Nat := none
  deriving DecidableEq, Repr

namespace ForwardLoop

/-- One pass of the loop's body, the context being cancelled at `cancelAt`: a call that runs
for `lasted` unless the context is cancelled first; then a return if the context is cancelled,
else a sleep of the next backoff step and `jitter` if the call took less than a second, else a
reset of the backoff. -/
def iterate (cancelAt : Nat) (l : ForwardLoop) (lasted jitter : Nat) : ForwardLoop :=
  if l.returned.isSome then l
  else
    let stop := if cancelAt ≤ l.now then l.now else min (l.now + lasted) cancelAt
    if cancelAt ≤ stop then { l with now := stop, returned := some stop }
    else if stop - l.now < 1000 then
      { l with
        backoff := l.backoff.step.2
        now := stop + l.backoff.step.1 + jitter
        sleeps := l.sleeps ++ [l.backoff.step.1 + jitter] }
    else { l with backoff := originalBackoff, now := stop }

end ForwardLoop

/-- `startPortForwardLoop` from the loop state `l`, over its calls in turn: each call's running
time and the jitter of the sleep after it. -/
def startPortForwardLoop (cancelAt : Nat) (l : ForwardLoop) (calls : List (Nat × Nat)) :
    ForwardLoop :=
  calls.foldl (fun l c => l.iterate cancelAt c.1 c.2) l

namespace Backoff

/-- The backoffs of the loop: at least the first step, at most the cap of 15 s. -/
def Bounded (b : Backoff) : Prop :=
  50 ≤ b.duration ∧ b.duration ≤ b.cap ∧ b.cap = 15000

theorem bounded_originalBackoff : originalBackoff.Bounded := ⟨by decide, by decide, rfl⟩

theorem step_fst (b : Backoff) : b.step.1 = b.duration := by
  unfold step; split
  · rfl
  · split <;> rfl

theorem Bounded.step {b : Backoff} (h : b.Bounded) : b.step.2.Bounded := by
  unfold Backoff.step Bounded at *
  split
  · exact h
  · split <;> simp only <;> omega

theorem step_iterate_originalBackoff (k : Nat) :
    ((fun b : Backoff => b.step.2)^[k] originalBackoff).step.1 =
      if k ≤ 8 then 50 * 2 ^ k else 15000 := by
  by_cases hk : k < 9
  · have : ∀ k < 9, ((fun b : Backoff => b.step.2)^[k] originalBackoff).step.1 = 50 * 2 ^ k := by
      decide
    rw [this k hk, if_pos (by omega)]
  · obtain ⟨m, rfl⟩ := Nat.exists_eq_add_of_le (Nat.le_of_not_lt hk)
    have h9 : (fun b : Backoff => b.step.2)^[9] originalBackoff = ⟨0, 15000, 15000⟩ := by decide
    rw [Nat.add_comm, Function.iterate_add_apply, h9, Function.iterate_fixed rfl, if_neg (by omega)]
    rfl

end Backoff

namespace ForwardLoop

variable {cancelAt J : Nat} {l : ForwardLoop} {lasted jitter : Nat}

theorem iterate_of_returned (h : l.returned.isSome) : l.iterate cancelAt lasted jitter = l := by
  simp [iterate, h]

/-- What one pass does: nothing once the loop returned; a return at the time or at the
cancellation, whichever is later; or, when the call ended before the cancellation, a sleep or
a reset. -/
theorem iterate_cases (l : ForwardLoop) (lasted jitter : Nat) :
    (l.returned.isSome ∧ l.iterate cancelAt lasted jitter = l) ∨
    (l.returned = none ∧ ∃ t, cancelAt ≤ t ∧ (t = l.now ∨ t = cancelAt) ∧
      l.iterate cancelAt lasted jitter = { l with now := t, returned := some t }) ∨
    (l.returned = none ∧ ∃ stop, l.now ≤ stop ∧ stop < cancelAt ∧
      ((stop - l.now < 1000 ∧ l.iterate cancelAt lasted jitter =
        { l with
          backoff := l.backoff.step.2
          now := stop + l.backoff.step.1 + jitter
          sleeps := l.sleeps ++ [l.backoff.step.1 + jitter] }) ∨
      (1000 ≤ stop - l.now ∧
        l.iterate cancelAt lasted jitter =
          { l with backoff := originalBackoff, now := stop }))) := by
  cases hr : l.returned with
  | some t => exact .inl ⟨rfl, iterate_of_returned (by simp [hr])⟩
  | none =>
    refine .inr ?_
    by_cases hc : cancelAt ≤ l.now
    · exact .inl ⟨rfl, l.now, hc, .inl rfl, by simp [iterate, hr, hc]⟩
    · have hstop : l.now ≤ min (l.now + lasted) cancelAt := by omega
      by_cases hs : cancelAt ≤ min (l.now + lasted) cancelAt
      · refine .inl ⟨rfl, min (l.now + lasted) cancelAt, hs, .inr (by omega), ?_⟩
        simp only [iterate, hr, hc, hs, Option.isSome_none, Bool.false_eq_true, if_false,
          if_true]
      · refine .inr ⟨rfl, min (l.now + lasted) cancelAt, hstop, by omega, ?_⟩
        by_cases hq : min (l.now + lasted) cancelAt - l.now < 1000
        · exact .inl ⟨hq, by simp only [iterate, hr, hc, hs, hq, Option.isSome_none,
            Bool.false_eq_true, if_false, if_true]⟩
        · exact .inr ⟨by omega, by simp only [iterate, hr, hc, hs, hq, Option.isSome_none,
            Bool.false_eq_true, if_false]⟩

theorem loop_of_returned {calls : List (Nat × Nat)} (h : l.returned.isSome) :
    startPortForwardLoop cancelAt l calls = l := by
  induction calls with
  | nil => rfl
  | cons c calls ih =>
    rw [startPortForwardLoop, List.foldl_cons, ← startPortForwardLoop, iterate_of_returned h]
    exact ih

/-- What every state of a loop started before its cancellation satisfies, each jitter being at
most `J`: it returns only once cancelled and at most one capped sleep after it, and every
sleep is at least the first step and at most the cap with its jitter. -/
structure Inv (cancelAt J : Nat) (l : ForwardLoop) : Prop where
  backoff : l.backoff.Bounded
  returned : ∀ t ∈ l.returned, cancelAt ≤ t ∧ t ≤ cancelAt + 15000 + J
  pending : l.returned = none → l.now ≤ cancelAt + 15000 + J
  sleeps : ∀ s ∈ l.sleeps, 50 ≤ s ∧ s ≤ 15000 + J

theorem inv_start {start : Nat} (h : start ≤ cancelAt) : Inv cancelAt J { now := start } :=
  ⟨Backoff.bounded_originalBackoff, by simp, fun _ => by simp only; omega, by simp⟩

theorem Inv.iterate (h : Inv cancelAt J l) (hj : jitter ≤ J) :
    Inv cancelAt J (l.iterate cancelAt lasted jitter) := by
  obtain ⟨hb, hd, hcap⟩ := h.backoff
  rcases iterate_cases l lasted jitter with
    ⟨-, he⟩ | ⟨hr, t, hct, ht, he⟩ | ⟨hr, stop, -, hstop, ⟨-, he⟩ | ⟨-, he⟩⟩
  all_goals rw [he]
  · exact h
  · have := h.pending hr
    exact ⟨h.backoff, by simp; omega, by simp, h.sleeps⟩
  · have hfst := Backoff.step_fst l.backoff
    refine ⟨h.backoff.step, h.returned, fun _ => by simp only; omega, fun s hs => ?_⟩
    rcases List.mem_append.mp hs with hs | hs
    · exact h.sleeps s hs
    · rw [List.mem_singleton.mp hs]; omega
  · exact ⟨Backoff.bounded_originalBackoff, h.returned, fun _ => by simp only; omega, h.sleeps⟩

theorem Inv.loop {calls : List (Nat × Nat)} (h : Inv cancelAt J l)
    (hJ : ∀ c ∈ calls, c.2 ≤ J) :
    Inv cancelAt J (startPortForwardLoop cancelAt l calls) := by
  induction calls generalizing l with
  | nil => exact h
  | cons c calls ih =>
    exact ih (h.iterate (hJ c (List.mem_cons_self _ _))) fun c hc =>
      hJ c (List.mem_cons_of_mem _ hc)

theorem loop_returned {calls : List (Nat × Nat)} (hb : l.backoff.Bounded) (n : Nat)
    (hn : cancelAt ≤ l.now + 50 * n) (hlen : n < calls.length) :
    (startPortForwardLoop cancelAt l calls).returned.isSome := by
  induction calls generalizing l n with
  | nil => cases hlen
  | cons c calls ih =>
    rw [startPortForwardLoop, List.foldl_cons, ← startPortForwardLoop]
    rcases @iterate_cases cancelAt l c.1 c.2 with
      ⟨hr, he⟩ | ⟨-, t, -, -, he⟩ | ⟨-, stop, hle, hstop, ⟨hq, he⟩ | ⟨hq, he⟩⟩
    · rw [he, loop_of_returned hr]; exact hr
    · rw [he, loop_of_returned (l := { l with now := t, returned := some t }) rfl]; rfl
    · have hfst := Backoff.step_fst l.backoff
      have hpos : 0 < n := by omega
      refine he ▸ ih hb.step (n - 1) ?_ (by simp at hlen; omega)
      simp only; have := hb.1; omega
    · have hpos : 0 < n := by omega
      exact he ▸ ih Backoff.bounded_originalBackoff (n - 1) (by simp only; omega)
        (by simp at hlen; omega)

/-- A loop started before its context is cancelled returns only once the context is cancelled,
and at most one capped sleep and its jitter later; every sleep is between the first step and the
cap with its jitter; and the loop returns within any number of calls larger than the number of
first steps between its start and the cancellation. -/
theorem forward_loop_exits_on_cancel (cancelAt start J : Nat) (calls : List (Nat × Nat))
    (hstart : start ≤ cancelAt) (hJ : ∀ c ∈ calls, c.2 ≤ J) :
    let l := startPortForwardLoop cancelAt { now := start } calls
    (∀ t ∈ l.returned, cancelAt ≤ t ∧ t ≤ cancelAt + 15000 + J) ∧
      (∀ s ∈ l.sleeps, 50 ≤ s ∧ s ≤ 15000 + J) ∧
      ∀ n, cancelAt ≤ start + 50 * n → n < calls.length → l.returned.isSome := by
  have h := (inv_start (J := J) hstart).loop hJ
  exact ⟨h.returned, h.sleeps, fun n hn hlen =>
    loop_returned Backoff.bounded_originalBackoff n hn hlen⟩

/-- Eleven calls that fail at once, the context cancelled 1 ms into the first capped sleep: the
loop returns 15 s after the cancellation, at the end of that sleep. -/
theorem forward_loop_exits_on_cancel_mid_sleep :
    (startPortForwardLoop 25551 { now := 0 } (List.replicate 11 (0, 0))).returned = some 40550 ∧
    let l := startPortForwardLoop 25551 { now := 0 } (List.replicate 11 (0, 0))
    (∀ t ∈ l.returned, 25551 ≤ t ∧ t ≤ 25551 + 15000 + 0) ∧
      (∀ s ∈ l.sleeps, 50 ≤ s ∧ s ≤ 15000 + 0) ∧
      ∀ n, 25551 ≤ 0 + 50 * n → n < (List.replicate 11 ((0 : Nat), (0 : Nat))).length →
        l.returned.isSome :=
  ⟨by decide, forward_loop_exits_on_cancel 25551 0 0 _ (by decide) (by simp)⟩

end ForwardLoop

end Portforward

end TiltWatch
