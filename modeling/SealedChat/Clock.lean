/-!
# A clock set by hand

Times are counted in seconds and may lie before the start of the count. Everyone who holds the clock
sees the same time.
-/

namespace SealedChat

/-- A clock and the time that it shows. -/
structure Clock where
  now : Int64 := 0
  deriving DecidableEq, Repr

namespace Clock

/-- The clock set to a time. -/
def set (_ : Clock) (now : Int64) : Clock := ⟨now⟩

/-- The clock moved on by some seconds, around the ends of the count if need be. -/
def advance (clock : Clock) (seconds : Int64) : Clock := ⟨clock.now + seconds⟩

end Clock

end SealedChat
