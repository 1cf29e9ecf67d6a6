import SensorGateway.Foundations.Population

/-
  Threads that wait on a condition variable for tokens, where
  each deposit signals the condition once.

  Only numbers are kept: the tokens, the threads that are
  active in the monitor, and those that wait unsignalled. A
  signalled thread is active again, but has no claim on the
  token; another one may enter and take it first.

  Key definitions include:
    * `Monitor`
    * `Monitor.Step`
    * `Monitor.Covered`

  Key theorems include:
    * `Monitor.Covered.of_step`
    * `Monitor.Covered.active_pos`
-/

------------------------------------------------------------
-- Monitors
------------------------------------------------------------

namespace Foundations

structure Monitor where
  tokens : Nat
  active : Nat
  blocked : Nat

namespace Monitor

/-
  The moves of a monitor. A deposit signals a waiting thread
  if there is one. An active thread takes a token or, where
  there is none, starts to wait. A thread may also wake up
  without a signal.
-/
inductive Step : Monitor → Monitor → Prop where
  | deposit (t a : Nat) :
      Step ⟨t, a, 0⟩ ⟨t + 1, a, 0⟩
  | signal (t a b : Nat) :
      Step ⟨t, a, b + 1⟩ ⟨t + 1, a + 1, b⟩
  | enter (t a b : Nat) :
      Step ⟨t, a, b⟩ ⟨t, a + 1, b⟩
  | take (t a b : Nat) :
      Step ⟨t + 1, a + 1, b⟩ ⟨t, a, b⟩
  | block (a b : Nat) :
      Step ⟨0, a + 1, b⟩ ⟨0, a, b + 1⟩
  | wake (t a b : Nat) :
      Step ⟨t, a, b + 1⟩ ⟨t, a + 1, b⟩

/- While a thread waits, each token has an active thread. -/
def Covered
    (m : Monitor) : Prop :=
  0 < m.blocked → m.tokens ≤ m.active

namespace Covered

variable {m m' : Monitor}

theorem of_step
    (h : m.Covered)
    (hStep : Step m m') :
    m'.Covered := by
  unfold Covered at *
  cases hStep with
  | deposit t a =>
      intro hBlocked
      exact absurd hBlocked (Nat.lt_irrefl 0)
  | signal t a b =>
      intro _
      exact Nat.succ_le_succ (h (Nat.succ_pos b))
  | enter t a b =>
      intro hBlocked
      exact Nat.le_succ_of_le (h hBlocked)
  | take t a b =>
      intro hBlocked
      exact Nat.le_of_succ_le_succ (h hBlocked)
  | block a b =>
      intro _
      exact Nat.zero_le a
  | wake t a b =>
      intro _
      exact Nat.le_succ_of_le (h (Nat.succ_pos b))

/- The tokens are never left to waiting threads only. -/
theorem active_pos
    (h : m.Covered)
    (hBlocked : 0 < m.blocked)
    (hTokens : 0 < m.tokens) :
    0 < m.active :=
  Nat.lt_of_lt_of_le hTokens (h hBlocked)

end Covered

end Monitor

end Foundations
