import Mathlib.Data.List.Nodup
import Mathlib.Tactic.Common

/-! An `asyncio.Lock`: a flag and those who wait for it in turn. It does not know its owner: whoever releases it
frees it. -/

namespace EspIris

structure AsyncLock (Client : Type) where
  locked : Bool
  waiters : List Client
  deriving DecidableEq, Repr

namespace AsyncLock
variable {Client : Type} {lock after : AsyncLock Client} {client other : Client}

def free : AsyncLock Client := ⟨false, []⟩

/-- `acquire` up to its wait: with nobody before it the client has the lock at once. -/
def acquire (lock : AsyncLock Client) (client : Client) : AsyncLock Client × Bool :=
  if lock.locked = false ∧ lock.waiters = [] then ({ lock with locked := true }, true)
  else ({ lock with waiters := lock.waiters ++ [client] }, false)

/-- The turn of the first waiter of a lock that is free. -/
def grant (lock : AsyncLock Client) : Option (Client × AsyncLock Client) :=
  match lock.waiters with
  | first :: rest => if lock.locked then none else some (first, ⟨true, rest⟩)
  | [] => none

/-- A waiter is cancelled. -/
def leave [DecidableEq Client] (lock : AsyncLock Client) (client : Client) : AsyncLock Client :=
  { lock with waiters := lock.waiters.filter (· ≠ client) }

/-- `release`, for a lock that may be free. -/
def release (lock : AsyncLock Client) : AsyncLock Client := { lock with locked := false }

theorem acquire_cases (lock : AsyncLock Client) (client : Client) :
    (lock.locked = false ∧ lock.waiters = [] ∧ lock.acquire client = (⟨true, []⟩, true)) ∨
      lock.acquire client = (⟨lock.locked, lock.waiters ++ [client]⟩, false) := by
  unfold acquire
  split
  next isFree =>
    refine .inl ⟨isFree.1, isFree.2, ?_⟩
    rw [isFree.2]
  next => exact .inr rfl

theorem grant_cases (granted : lock.grant = some (client, after)) :
    lock.locked = false ∧ lock.waiters = client :: after.waiters ∧ after.locked = true := by
  unfold grant at granted
  split at granted
  next first rest waiters =>
    split at granted
    next => contradiction
    next unlocked =>
      cases granted
      exact ⟨Bool.eq_false_iff.mpr unlocked, waiters, rfl⟩
  next => contradiction

theorem mem_leave [DecidableEq Client] : other ∈ (lock.leave client).waiters ↔ other ∈ lock.waiters ∧ other ≠ client := by
  unfold leave
  rw [List.mem_filter, decide_eq_true_eq]

/-- The queue with a new waiter. -/
theorem appended_nodup {waiters : List Client} (nodup : waiters.Nodup) (fresh : client ∉ waiters) :
    (waiters ++ [client]).Nodup := by
  refine List.nodup_append.mpr ⟨nodup, List.nodup_singleton client, ?_⟩
  intro waiter isWaiter last isLast same
  rw [List.mem_singleton.mp isLast] at same
  exact fresh (same ▸ isWaiter)

theorem leave_nodup [DecidableEq Client] (nodup : lock.waiters.Nodup) : (lock.leave client).waiters.Nodup :=
  nodup.filter _

end AsyncLock

end EspIris
