/-!
# Integers on the wire

Words and signed counters as bytes, the most significant first.
-/

namespace DifferentialDrive.Wire

/-- The value in the signed 32-bit range that differs by a multiple of `2 ^ 32`. -/
def wrap32 (n : Int) : Int := n.bmod 0x100000000

/-- The low eight bits of an integer. -/
def lowByte (n : Int) : UInt8 := (n % 256).toNat.toUInt8

def wordBytes (w : UInt16) : List UInt8 := [UInt8.ofNat (w.toNat / 256), w.toUInt8]

def word (high low : UInt8) : UInt16 := (high.toNat * 256 + low.toNat).toUInt16

@[simp] theorem word_wordBytes (w : UInt16) :
    word (UInt8.ofNat (w.toNat / 256)) w.toUInt8 = w := by
  have := w.toNat_lt
  apply UInt16.toNat_inj.1
  simp [word]
  omega

/-- The four bytes of an integer modulo `2 ^ 32`. -/
def counterBytes (n : Int) : List UInt8 :=
  let u := (n % 0x100000000).toNat
  [(u / 0x1000000).toUInt8, (u / 0x10000).toUInt8, (u / 0x100).toUInt8, u.toUInt8]

/-- The signed integer that four bytes stand for. -/
def counter (a b c d : UInt8) : Int :=
  wrap32 (((a.toNat * 256 + b.toNat) * 256 + c.toNat) * 256 + d.toNat)

/-- A counter is read back as the signed value it was written for. -/
theorem counter_counterBytes (n : Int) (a b c d : UInt8) (h : counterBytes n = [a, b, c, d]) :
    counter a b c d = wrap32 n := by
  have value : ((n % 0x100000000).toNat : Int) = n % 0x100000000 := by omega
  have small : (n % 0x100000000).toNat < 0x100000000 := by omega
  unfold counterBytes at h
  generalize (n % 0x100000000).toNat = u at h value small
  obtain ⟨rfl, rfl, rfl, rfl⟩ := by simpa using h
  unfold counter wrap32
  refine (Int.emod_bmod _ _).symm.trans (Eq.trans ?_ (Int.emod_bmod n _))
  congr 1
  simp only [UInt8.toNat_ofNat']
  omega

end DifferentialDrive.Wire
