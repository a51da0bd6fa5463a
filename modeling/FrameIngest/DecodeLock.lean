namespace FrameIngest

structure DecodeLock where
  held : Bool
  acquisitions : Nat
  deriving DecidableEq

namespace DecodeLock

/-- The lock before anyone has taken it. -/
def free : DecodeLock := ⟨false, 0⟩

def acquire (lock : DecodeLock) : DecodeLock :=
  ⟨true, lock.acquisitions + 1⟩

def release (lock : DecodeLock) : DecodeLock :=
  { lock with held := false }

/-- Takes the lock unless it is held already. -/
def hold (lock : DecodeLock) : DecodeLock :=
  if lock.held then lock else lock.acquire

@[simp] theorem held_hold (lock : DecodeLock) : lock.hold.held = true := by
  unfold hold
  split
  · assumption
  · rfl

@[simp] theorem hold_hold (lock : DecodeLock) : lock.hold.hold = lock.hold := by
  rw [hold, if_pos (held_hold lock)]

end DecodeLock

end FrameIngest
