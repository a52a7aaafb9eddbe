import TiltWatch.LogStream.Watches

/-! # Tailing one container's log: reconnects and restarts

`consumeLogs` asks `ContainerLogs` for the log since `startReadTime` and copies it through a
`HardCancelReader`, which records the time of each read and returns nothing once its context
is cancelled. A health-check goroutine wakes every `podLogHealthCheck`; when the last read is
that old, it sets `retry`, moves `startReadTime` to `podLogReconnectGap` after the last read
and cancels the connection, and the loop asks again. When the loop ends, the deferred send
puts the time on the watch's termination channel, and `Reconcile` restarts the key's watch
from that time.

A `KeyLife` is one watch key through its watches: the clock, the `consumeLogs` goroutine of
the current watch with its connection, health check and reader, and ghost records of every
request's since-time, every read and every stale reconnect. A step is one atomic section:
the clock moving on, a request, a read, the health check reading the last read time, the
health check's reconnect (its writes of `retry` and `startReadTime` and its `cancel`), the
end of `io.Copy` with `close(done)` and `cancel()`, the test of `for retry`, or a restart by
`Reconcile`. `Reconcile` cancels a watch only when it
deletes the key, which ends the key's life; `reconcileContainer_startWatchTime` shows that it
starts a key's first watch from the stream's `SinceTime` and each later one from the time the
ended goroutine sent, which is what `start` and `restart` do here.

`close(done)` stops only a health check still waiting in its `select`, and not even that one
when a tick is pending: a health check that has taken its tick goes on after `io.Copy`
returned, and when it sets `retry` before the loop's test, `consumeLogs` asks again instead of
ending. The reconnect also races the reader: a read can land after the health check read the
last read time and before it cancels, so the next since-time can come before that read. Every
read up to the check comes before it, every read after it comes at least `podLogHealthCheck` later,
and the since-times never decrease while the first one is not in the future.

`HardCancelReader` is not under src/; it is modelled from the spec and from the way
`consumeLogs` uses it. Times count seconds, with `0` the zero time.
-/

namespace TiltWatch

namespace Runtimelog

/-- `podLogHealthCheck`, in seconds. -/
def podLogHealthCheck : Nat := 15

/-- `podLogReconnectGap`, in seconds. -/
def podLogReconnectGap : Nat := 2

/-- The health-check goroutine of a connection. -/
inductive HealthCheck
  /-- In its `select`. After `close(done)` it may still take a pending tick; taking `done`
  instead is never running again. -/
  | waiting
  /-- It read a stale last read time and is about to reconnect from it. -/
  | stale (lastRead : Nat)
  /-- It returned after its reconnect, or no connection started one. -/
  | returned
  deriving DecidableEq, Repr

/-- Where the `consumeLogs` goroutine is. -/
inductive ConsumePc
  /-- At the top of the loop, about to call `ContainerLogs`. -/
  | request
  /-- In `io.Copy`. -/
  | copying
  /-- At the test of `for retry`, after `io.Copy` returned, `close(done)` and `cancel()`. -/
  | loopTest
  /-- Returned, after its deferred send and cancel. -/
  | ended
  deriving DecidableEq, Repr

/-- The locals of `consumeLogs` and its current connection. -/
structure ConsumeLogs where
  startReadTime : Nat
  retry : Bool := true
  pc : ConsumePc := .request
  /-- The `HardCancelReader`'s last read time. -/
  lastReadTime : Nat := 0
  /-- Whether the connection's context is cancelled. -/
  cancelled : Bool := false
  healthCheck : HealthCheck := .returned
  /-- The time the deferred send put on the termination channel. -/
  terminationTime : Option Nat := none
  deriving DecidableEq, Repr

/-- `go r.consumeLogs(w, r.st)` for a watch whose `startWatchTime` is `startWatchTime`. -/
def ConsumeLogs.start (startWatchTime : Nat) : ConsumeLogs :=
  { startReadTime := startWatchTime }

/-- One watch key through its watches: the clock, the goroutine of the current watch, the
container's status as `mutateStatus` last set it, and ghost records of the since-time of every
`ContainerLogs` request in order, every read with the index of its request, and every stale
reconnect with the index of its request and the read time it saw. -/
structure KeyLife where
  clock : Nat
  consume : ConsumeLogs
  status : ContainerLogStreamStatus
  sinceTimes : List Nat := []
  reads : List (Nat × Nat) := []
  reconnects : List (Nat × Nat) := []
  deriving DecidableEq, Repr

namespace KeyLife

variable (s : KeyLife)

/-- A watch `Reconcile` starts at time `clock` from `since`, the container's status being
`status`. -/
def start (status : ContainerLogStreamStatus) (since clock : Nat) : KeyLife :=
  { clock := clock, consume := ConsumeLogs.start since, status := status }

def current : Nat := s.sinceTimes.length - 1

/-- The top of the loop: `retry = false`, then `ContainerLogs` since `startReadTime`. An
error goes to the status and ends the goroutine, whose deferred send puts the time on the
termination channel; a stream gets a fresh reader and health check, and the status turns
active. -/
def containerLogs (err : Option String) : KeyLife :=
  if s.consume.pc = .request then
    let c := { s.consume with retry := false }
    match err with
    | some e =>
      { s with
        sinceTimes := s.sinceTimes ++ [c.startReadTime]
        consume := { c with
          pc := .ended
          cancelled := true
          terminationTime := some s.clock }
        status := { s.status with active := false, error := e } }
    | none =>
      { s with
        sinceTimes := s.sinceTimes ++ [c.startReadTime]
        consume := { c with
          pc := .copying
          lastReadTime := 0
          cancelled := false
          healthCheck := .waiting }
        status := { s.status with active := true, error := "" } }
  else s

/-- Modelled from the spec: a read of the `HardCancelReader`, which is not under src/. Data
comes only while the connection's context is live, and the reader records the time. -/
def read : KeyLife :=
  if s.consume.pc = .copying ∧ s.consume.cancelled = false then
    { s with
      consume := { s.consume with lastReadTime := s.clock }
      reads := s.reads ++ [(s.current, s.clock)] }
  else s

/-- A tick of the health check: it reads `LastReadTime`, and goes on waiting when that is the
zero time or less than `podLogHealthCheck` old. -/
def healthCheck : KeyLife :=
  match s.consume.healthCheck with
  | .waiting =>
    let lastRead := s.consume.lastReadTime
    if lastRead = 0 ∨ s.clock - lastRead < podLogHealthCheck then s
    else { s with consume := { s.consume with healthCheck := .stale lastRead } }
  | _ => s

/-- The health check's reconnect: `retry = true`, `startReadTime` moved to
`podLogReconnectGap` after the stale read, and `cancel()`. It can come after `io.Copy`
returned; after the goroutine returned it writes only the locals of a finished call, and is
not recorded. -/
def reconnect : KeyLife :=
  match s.consume.healthCheck with
  | .stale lastRead =>
    { s with
      consume := { s.consume with
        retry := true
        startReadTime := lastRead + podLogReconnectGap
        cancelled := true
        healthCheck := .returned }
      reconnects :=
        if s.consume.pc = .ended then s.reconnects else s.reconnects ++ [(s.current, lastRead)] }
  | _ => s

/-- `io.Copy` returns: the reader closes, `close(done)`, and `cancel()` cancels the
connection. The error branch then tests the context just cancelled, so it never records the
error. -/
def copyEnd (err : Option String) : KeyLife :=
  if s.consume.pc = .copying then
    let c := { s.consume with cancelled := true }
    let status := if !c.retry && err.isSome && !c.cancelled then
      { s.status with active := false, error := err.getD "" } else s.status
    { s with consume := { c with pc := .loopTest }, status := status }
  else s

/-- The test of `for retry`: the loop asks again when `retry` is set; otherwise the goroutine
returns, and its deferred send puts the time on the termination channel. -/
def loopTest : KeyLife :=
  if s.consume.pc = .loopTest then
    if s.consume.retry then { s with consume := { s.consume with pc := .request } }
    else { s with consume := { s.consume with pc := .ended, terminationTime := some s.clock } }
  else s

/-- `Reconcile` restarts the ended watch from the time it sent. -/
def restart : KeyLife :=
  match s.consume.pc, s.consume.terminationTime with
  | .ended, some t => { s with consume := ConsumeLogs.start t }
  | _, _ => s

end KeyLife

/-- An atomic step of a watch key's life. -/
inductive ConsumeStep
  | advance (d : Nat)
  | containerLogs (err : Option String)
  | read
  | healthCheck
  | reconnect
  | copyEnd (err : Option String)
  | loopTest
  | restart
  deriving DecidableEq, Repr

def KeyLife.step (s : KeyLife) : ConsumeStep → KeyLife
  | .advance d => { s with clock := s.clock + d }
  | .containerLogs err => s.containerLogs err
  | .read => s.read
  | .healthCheck => s.healthCheck
  | .reconnect => s.reconnect
  | .copyEnd err => s.copyEnd err
  | .loopTest => s.loopTest
  | .restart => s.restart

def KeyLife.run (s : KeyLife) (steps : List ConsumeStep) : KeyLife :=
  steps.foldl KeyLife.step s

namespace KeyLife

/-- What a stale reconnect from request `i` at last read time `t` leaves: the next request asks
from `podLogReconnectGap` after `t`; every read of request `i` came at or before `t`, or at
least `podLogHealthCheck` after it; and until the next request the goroutine is bound to ask
again from there, its connection cancelled. -/
def Reconnected (s : KeyLife) (i t : Nat) : Prop :=
  i < s.sinceTimes.length ∧
  (∀ x, s.sinceTimes[i + 1]? = some x → x = t + podLogReconnectGap) ∧
  (∀ r, (i, r) ∈ s.reads → r ≤ t ∨ t + podLogHealthCheck ≤ r) ∧
  (i + 1 = s.sinceTimes.length → s.consume.startReadTime = t + podLogReconnectGap ∧
    s.consume.retry = true ∧ s.consume.cancelled = true ∧ s.consume.pc ≠ .ended)

/-- What every state of a key's life keeps: the since-times are sorted and none is after
`startReadTime`, which is not in the future; an ended goroutine sent a time no earlier than
them; reads are past and belong to a request made; a live health check watches a live
stream with `retry` unset, whose last read is not before its since-time, and a stale one saw
a read time every read of the request is apart from; and every reconnect is `Reconnected`. -/
structure Inv (s : KeyLife) : Prop where
  sorted : s.sinceTimes.Pairwise (· ≤ ·)
  since_le : ∀ x ∈ s.sinceTimes, x ≤ s.consume.startReadTime
  startReadTime_le : s.consume.startReadTime ≤ s.clock
  ended : ∀ t, s.consume.terminationTime = some t →
    s.consume.pc = .ended ∧ (∀ x ∈ s.sinceTimes, x ≤ t) ∧ t ≤ s.clock
  read_le : ∀ i r, (i, r) ∈ s.reads → r ≤ s.clock
  read_index : ∀ i r, (i, r) ∈ s.reads → i < s.sinceTimes.length
  copying : s.consume.pc = .copying → s.sinceTimes ≠ []
  checking : s.consume.healthCheck ≠ .returned → s.consume.retry = false ∧
    s.consume.pc ≠ .request ∧ s.sinceTimes ≠ [] ∧
    (s.consume.pc = .copying → s.consume.cancelled = false) ∧
    (s.consume.lastReadTime = 0 ∨ s.consume.startReadTime ≤ s.consume.lastReadTime) ∧
    s.consume.lastReadTime ≤ s.clock
  waiting : s.consume.healthCheck = .waiting →
    ∀ r, (s.current, r) ∈ s.reads → r ≤ s.consume.lastReadTime
  stale : ∀ t, s.consume.healthCheck = .stale t →
    s.consume.startReadTime ≤ t ∧ t + podLogHealthCheck ≤ s.clock ∧
    ∀ r, (s.current, r) ∈ s.reads → r ≤ t ∨ t + podLogHealthCheck ≤ r
  reconnected : ∀ i t, (i, t) ∈ s.reconnects → Reconnected s i t

variable {s : KeyLife}

theorem current_succ (h : s.sinceTimes ≠ []) : s.current + 1 = s.sinceTimes.length := by
  have := List.length_pos.mpr h
  unfold current; omega

theorem inv_start {status : ContainerLogStreamStatus} {since clock : Nat} (h : since ≤ clock) :
    Inv (start status since clock) where
  sorted := List.Pairwise.nil
  since_le := by simp [start]
  startReadTime_le := h
  ended := by simp [start, ConsumeLogs.start]
  read_le := by simp [start]
  read_index := by simp [start]
  copying := by simp [start, ConsumeLogs.start]
  checking := by simp [start, ConsumeLogs.start]
  waiting := by simp [start, ConsumeLogs.start]
  stale := by simp [start, ConsumeLogs.start]
  reconnected := by simp [start]

theorem Inv.advance (h : Inv s) (d : Nat) : Inv { s with clock := s.clock + d } :=
  have hle := Nat.le_add_right s.clock d
  { h with
    startReadTime_le := h.startReadTime_le.trans hle
    ended := fun t ht =>
      let ⟨hpc, hx, ht⟩ := h.ended t ht
      ⟨hpc, hx, ht.trans hle⟩
    read_le := fun i r hr => (h.read_le i r hr).trans hle
    checking := fun hc =>
      let ⟨hr, hreq, hne, hcan, hlast, hl⟩ := h.checking hc
      ⟨hr, hreq, hne, hcan, hlast, hl.trans hle⟩
    stale := fun t ht =>
      let ⟨hst, hl, hr⟩ := h.stale t ht
      ⟨hst, hl.trans hle, hr⟩ }

theorem Inv.returned_of_request (h : Inv s) (hpc : s.consume.pc = .request) :
    s.consume.healthCheck = .returned :=
  Decidable.byContradiction fun hc => (h.checking hc).2.1 hpc

theorem Inv.reconnected_request (h : Inv s) {s' : KeyLife}
    (hs : s'.sinceTimes = s.sinceTimes ++ [s.consume.startReadTime]) (hr : s'.reads = s.reads) :
    ∀ i t, (i, t) ∈ s.reconnects → Reconnected s' i t := by
  intro i t hit
  obtain ⟨hlt, hnext, hreads, hpend⟩ := h.reconnected i t hit
  refine ⟨by simp only [hs, List.length_append]; omega, fun x hx => ?_, hr ▸ hreads,
    fun he => by simp only [hs, List.length_append, List.length_singleton] at he; omega⟩
  rw [hs] at hx
  rcases Nat.lt_or_ge (i + 1) s.sinceTimes.length with hl | hl
  · exact hnext x (by rwa [List.getElem?_append_left hl] at hx)
  · have hi : i + 1 = s.sinceTimes.length := by omega
    rw [List.getElem?_append_right hl, hi, Nat.sub_self] at hx
    exact (Option.some.inj hx).symm.trans (hpend hi).1

theorem Inv.containerLogs (h : Inv s) (err : Option String) : Inv (s.containerLogs err) := by
  unfold KeyLife.containerLogs
  split_ifs with hpc
  swap; · exact h
  have hret := h.returned_of_request hpc
  have hsorted : (s.sinceTimes ++ [s.consume.startReadTime]).Pairwise (· ≤ ·) :=
    List.pairwise_append.mpr ⟨h.sorted, List.pairwise_singleton _ _,
      fun x hx y hy => (List.mem_singleton.mp hy) ▸ h.since_le x hx⟩
  have hsince :
      ∀ x ∈ s.sinceTimes ++ [s.consume.startReadTime], x ≤ s.consume.startReadTime := by
    simp only [List.mem_append, List.mem_singleton]
    rintro x (hx | rfl)
    exacts [h.since_le x hx, le_rfl]
  have hindex :
      ∀ i r, (i, r) ∈ s.reads → i < (s.sinceTimes ++ [s.consume.startReadTime]).length :=
    fun i r hr => by simpa using Nat.lt_succ_of_lt (h.read_index i r hr)
  cases err with
  | some e =>
    exact { h with
      sorted := hsorted
      since_le := hsince
      ended := by
        rintro t ⟨⟩
        exact ⟨rfl, fun x hx => (hsince x hx).trans h.startReadTime_le, le_rfl⟩
      read_index := hindex
      copying := nofun
      checking := fun hc => absurd hret hc
      waiting := fun hw => nomatch hret.symm.trans hw
      stale := fun _ ht => nomatch hret.symm.trans ht
      reconnected := h.reconnected_request rfl rfl }
  | none =>
    exact { h with
      sorted := hsorted
      since_le := hsince
      ended := fun t ht => nomatch hpc.symm.trans (h.ended t ht).1
      read_index := hindex
      copying := fun _ => by simp
      checking := fun _ => ⟨rfl, nofun, by simp, fun _ => rfl, .inl rfl, Nat.zero_le _⟩
      waiting := fun _ r hr => absurd (h.read_index _ r hr) (by simp [current])
      stale := nofun
      reconnected := h.reconnected_request rfl rfl }

theorem Inv.read (h : Inv s) : Inv s.read := by
  unfold KeyLife.read
  split_ifs with hc
  swap; · exact h
  obtain ⟨hpc, hcan⟩ := hc
  have hcur := current_succ (h.copying hpc)
  have hnew : ∀ i r, (i, r) ∈ s.reads ++ [(s.current, s.clock)] →
      (i, r) ∈ s.reads ∨ i = s.current ∧ r = s.clock := by simp
  exact { h with
    read_le := fun i r hr => (hnew i r hr).elim (h.read_le i r) fun ⟨_, hr⟩ => hr.le
    read_index := fun i r hr =>
      (hnew i r hr).elim (h.read_index i r) fun ⟨hi, _⟩ => show i < s.sinceTimes.length by omega
    checking := fun hc =>
      let ⟨hr, hreq, hne, hcan, _, _⟩ := h.checking hc
      ⟨hr, hreq, hne, hcan, .inr h.startReadTime_le, le_rfl⟩
    waiting := fun _ r hr => (hnew _ r hr).elim (h.read_le _ r) fun ⟨_, hr⟩ => hr.le
    stale := fun t ht =>
      let ⟨hst, hle, hr⟩ := h.stale t ht
      ⟨hst, hle, fun r hr' => (hnew _ r hr').elim (hr r) fun ⟨_, hr⟩ => .inr (hr ▸ hle)⟩
    reconnected := fun i t hit =>
      let ⟨hlt, hnext, hreads, hpend⟩ := h.reconnected i t hit
      ⟨hlt, hnext, fun r hr => (hnew i r hr).elim (hreads r) fun ⟨hi, _⟩ =>
        absurd (hpend (by omega)).2.2.1 (by simp [hcan]), hpend⟩ }

theorem Inv.healthCheck (h : Inv s) : Inv s.healthCheck := by
  unfold KeyLife.healthCheck
  split
  · rename_i hw
    dsimp only
    split_ifs with hfresh
    · exact h
    have hc := h.checking (by rw [hw]; nofun)
    have hlast := hc.2.2.2.2.1
    push_neg at hfresh
    exact { h with
      checking := fun _ => hc
      waiting := nofun
      stale := by
        rintro t ⟨⟩
        exact ⟨hlast.resolve_left hfresh.1, show _ ≤ s.clock by omega,
          fun r hr => .inl (h.waiting hw r hr)⟩ }
  · exact h

theorem Inv.reconnect (h : Inv s) : Inv s.reconnect := by
  unfold KeyLife.reconnect
  split
  · rename_i t ht
    obtain ⟨hr, -, hne, -, -, -⟩ := h.checking (by rw [ht]; nofun)
    obtain ⟨hst, hle, hreads⟩ := h.stale t ht
    have hcur := current_succ hne
    -- with the health check alive no reconnect is pending
    have hold : ∀ s' : KeyLife, s'.sinceTimes = s.sinceTimes → s'.reads = s.reads →
        ∀ i t', (i, t') ∈ s.reconnects → Reconnected s' i t' := fun s' hs hrd i t' hit =>
      let ⟨hlt, hnext, hreads', hpend⟩ := h.reconnected i t' hit
      ⟨hs ▸ hlt, hs ▸ hnext, hrd ▸ hreads', fun he => absurd (hpend (hs ▸ he)).2.1 (by simp [hr])⟩
    refine { h with
      since_le := fun x hx => (h.since_le x hx).trans (hst.trans (Nat.le_add_right _ _))
      startReadTime_le := show t + podLogReconnectGap ≤ s.clock by
        unfold podLogReconnectGap podLogHealthCheck at *; omega
      checking := fun hc => absurd rfl hc
      waiting := nofun
      stale := fun _ => nofun
      reconnected := fun i t' hit => ?_ }
    split_ifs at hit with hpc
    · exact hold _ (by rfl) (by rfl) i t' hit
    rcases List.mem_append.mp hit with hit | hit
    · exact hold _ (by rfl) (by rfl) i t' hit
    · obtain ⟨rfl, rfl⟩ := Prod.mk.inj (List.mem_singleton.mp hit)
      refine ⟨show _ < s.sinceTimes.length by omega, fun x hx => ?_, hreads,
        fun _ => ⟨rfl, rfl, rfl, hpc⟩⟩
      simp [hcur] at hx
  · exact h

theorem Inv.copyEnd (h : Inv s) (err : Option String) : Inv (s.copyEnd err) := by
  by_cases hpc : s.consume.pc = .copying
  swap; · simpa only [KeyLife.copyEnd, hpc, if_false] using h
  simp only [KeyLife.copyEnd, hpc, if_true]
  exact { h with
    ended := fun t ht => nomatch hpc.symm.trans (h.ended t ht).1
    copying := nofun
    checking := fun hc =>
      let ⟨hr, _, hne, _, hlast, hle⟩ := h.checking hc
      ⟨hr, nofun, hne, nofun, hlast, hle⟩
    reconnected := fun i t hit =>
      let ⟨hlt, hnext, hreads, hpend⟩ := h.reconnected i t hit
      ⟨hlt, hnext, hreads, fun he => ⟨(hpend he).1, (hpend he).2.1, rfl, nofun⟩⟩ }

theorem Inv.loopTest (h : Inv s) : Inv s.loopTest := by
  unfold KeyLife.loopTest
  split_ifs with hpc hr
  · exact { h with
      ended := fun t ht => nomatch hpc.symm.trans (h.ended t ht).1
      copying := nofun
      checking := fun hc => absurd hr (by simp [(h.checking hc).1])
      reconnected := fun i t hit =>
        let ⟨hlt, hnext, hreads, hpend⟩ := h.reconnected i t hit
        ⟨hlt, hnext, hreads, fun he => ⟨(hpend he).1, (hpend he).2.1, (hpend he).2.2.1, nofun⟩⟩ }
  · exact { h with
      ended := by
        rintro t ⟨⟩
        exact ⟨rfl, fun x hx => (h.since_le x hx).trans h.startReadTime_le, le_rfl⟩
      copying := nofun
      checking := fun hc =>
        let ⟨hr', _, hne, _, hlast, hle⟩ := h.checking hc
        ⟨hr', nofun, hne, nofun, hlast, hle⟩
      reconnected := fun i t hit =>
        let ⟨hlt, hnext, hreads, hpend⟩ := h.reconnected i t hit
        ⟨hlt, hnext, hreads, fun he => absurd (hpend he).2.1 hr⟩ }
  · exact h

theorem Inv.restart (h : Inv s) : Inv s.restart := by
  unfold KeyLife.restart
  split
  · rename_i hpc ht
    obtain ⟨-, hx, hle⟩ := h.ended _ ht
    exact { h with
      since_le := hx
      startReadTime_le := hle
      ended := fun _ => nofun
      copying := nofun
      checking := fun hc => absurd rfl hc
      waiting := nofun
      stale := fun _ => nofun
      reconnected := fun i t hit =>
        let ⟨hlt, hnext, hreads, hpend⟩ := h.reconnected i t hit
        ⟨hlt, hnext, hreads, fun he => absurd hpc (hpend he).2.2.2⟩ }
  · exact h

theorem Inv.step (h : Inv s) : ∀ e, Inv (s.step e)
  | .advance d => h.advance d
  | .containerLogs err => h.containerLogs err
  | .read => h.read
  | .healthCheck => h.healthCheck
  | .reconnect => h.reconnect
  | .copyEnd err => h.copyEnd err
  | .loopTest => h.loopTest
  | .restart => h.restart

theorem Inv.run (h : Inv s) (steps : List ConsumeStep) : Inv (s.run steps) := by
  induction steps generalizing s with
  | nil => exact h
  | cons e es ih => exact ih (h.step e)

@[simp] theorem copyEnd_status (err : Option String) : (s.copyEnd err).status = s.status := by
  by_cases hpc : s.consume.pc = .copying
  · simp [KeyLife.copyEnd, hpc]
  · simp only [KeyLife.copyEnd, hpc, if_false]

/-- From `io.Copy` to the loop's test, the container's status is active with no error. -/
def CopyingActive (s : KeyLife) : Prop :=
  s.consume.pc = .copying ∨ s.consume.pc = .loopTest →
    s.status.active = true ∧ s.status.error = ""

theorem CopyingActive.step (h : CopyingActive s) : ∀ e, CopyingActive (s.step e)
  | .advance _ => h
  | .containerLogs err => by
    show CopyingActive (s.containerLogs err)
    unfold KeyLife.containerLogs
    split_ifs
    · cases err
      · exact fun _ => ⟨rfl, rfl⟩
      · rintro (h | h) <;> cases h
    · exact h
  | .read => by
    show CopyingActive s.read
    unfold KeyLife.read; split_ifs <;> exact h
  | .healthCheck => by
    show CopyingActive s.healthCheck
    unfold KeyLife.healthCheck
    split
    · dsimp only; split_ifs <;> exact h
    · exact h
  | .reconnect => by
    show CopyingActive s.reconnect
    unfold KeyLife.reconnect; split <;> exact h
  | .copyEnd err => by
    show CopyingActive (s.copyEnd err)
    by_cases hpc : s.consume.pc = .copying
    · rw [CopyingActive, copyEnd_status]
      exact fun _ => h (.inl hpc)
    · simpa only [KeyLife.copyEnd, hpc, if_false] using h
  | .loopTest => by
    show CopyingActive s.loopTest
    unfold KeyLife.loopTest
    split_ifs
    · rintro (h | h) <;> cases h
    · rintro (h | h) <;> cases h
    · exact h
  | .restart => by
    show CopyingActive s.restart
    unfold KeyLife.restart
    split
    · rintro (h | h) <;> cases h
    · exact h

theorem CopyingActive.run (h : CopyingActive s) (steps : List ConsumeStep) :
    CopyingActive (s.run steps) := by
  induction steps generalizing s with
  | nil => exact h
  | cons e es ih => exact ih (h.step e)

/-- The health check takes its tick at 30 and finds the last read, at 10, stale; `io.Copy`
then ends on its own, and the health check reconnects after `close(done)`. The loop's test
finds `retry` set, and the goroutine asks again from 12 instead of ending. -/
example :
    let s := (start { name := "app" } 0 0).run [.containerLogs none, .advance 10, .read,
      .advance 20, .healthCheck, .copyEnd (some "unexpected EOF"), .reconnect, .loopTest,
      .containerLogs none]
    s.sinceTimes = [0, 12] ∧ s.consume.pc = .copying := by
  decide

end KeyLife

end Runtimelog

end TiltWatch
