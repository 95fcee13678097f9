import Mathlib

/-!
# The id space of a connection

Request and stream ids come from one counter per process.  Each end of a
connection places the ids it draws into its own half of the 32-bit space, which
keeps the two ends apart; within one end, ids repeat only after `2 ^ 31` draws.
-/

namespace Muxio.Rpc

inductive IdSpace where
  | client
  | server
  deriving DecidableEq, Repr

namespace IdSpace

/-- `IdSpace::MASK` -/
def mask : UInt32 := 0x80000000

def marker : IdSpace → UInt32
  | client => 0
  | server => mask

/-- Move an id into the half of this space. -/
def place (space : IdSpace) (id : UInt32) : UInt32 := (id &&& ~~~mask) ||| space.marker

/-- The first id of a space. -/
def base : IdSpace → Nat
  | client => 0
  | server => 2 ^ 31

theorem place_toNat (space : IdSpace) (id : UInt32) :
    (space.place id).toNat = space.base + id.toNat % 2 ^ 31 := by
  have low : (id &&& ~~~mask).toNat = id.toNat % 2 ^ 31 := by
    rw [UInt32.toNat_and, show (~~~mask).toNat = 2 ^ 31 - 1 from by decide,
      Nat.and_two_pow_sub_one_eq_mod]
  cases space with
  | client => simp [place, marker, base, low]
  | server =>
      have disjoint := Nat.two_pow_add_eq_or_of_lt (Nat.mod_lt id.toNat (Nat.two_pow_pos 31)) 1
      rw [place, UInt32.toNat_or, low, marker, base, Nat.or_comm]
      simpa [mask] using disjoint.symm

end IdSpace

/-- Draw the next id of the process.  The state is the number of ids handed out
so far, which the counter of the source holds modulo `2 ^ 64`. -/
def incrementU32Id (handedOut : Nat) : UInt32 × Nat :=
  ((UInt64.ofNat handedOut).toUInt32, handedOut + 1)

theorem incrementU32Id_toNat (handedOut : Nat) :
    (incrementU32Id handedOut).1.toNat = handedOut % 2 ^ 32 := by
  simp [incrementU32Id]

namespace IdSpace

/-- The id that an end makes of a draw. -/
def draw (space : IdSpace) (handedOut : Nat) : UInt32 := space.place (incrementU32Id handedOut).1

theorem draw_toNat (space : IdSpace) (handedOut : Nat) :
    (space.draw handedOut).toNat = space.base + handedOut % 2 ^ 31 := by
  rw [draw, place_toNat, incrementU32Id_toNat]
  omega

theorem draw_eq_iff (space : IdSpace) (m n : Nat) :
    space.draw m = space.draw n ↔ m % 2 ^ 31 = n % 2 ^ 31 := by
  rw [← UInt32.toNat_inj, draw_toNat, draw_toNat]
  exact Nat.add_left_cancel_iff

/-- Early draws determine their ids: neither the end nor the draw can be
confused. -/
theorem draw_inj {first second : IdSpace} {m n : Nat} (early : m < 2 ^ 31)
    (alsoEarly : n < 2 ^ 31) (same : first.draw m = second.draw n) : first = second ∧ m = n := by
  have values := congrArg UInt32.toNat same
  rw [draw_toNat, draw_toNat, Nat.mod_eq_of_lt early, Nat.mod_eq_of_lt alsoEarly] at values
  cases first <;> cases second <;> simp only [base] at values <;>
    first | exact ⟨rfl, by omega⟩ | omega

end IdSpace

end Muxio.Rpc
