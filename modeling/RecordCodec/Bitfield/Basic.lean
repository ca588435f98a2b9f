import RecordCodec.Bitfield.Layout
import RecordCodec.Text.Quoted

namespace RecordCodec

-- Powers of natural numbers are those of the core library.
attribute [local instance (high)] instPowNat

inductive Container where
  | bits8
  | bits16
  | bits32
  | bits64
deriving DecidableEq, Inhabited

namespace Container

def all : List Container := [.bits8, .bits16, .bits32, .bits64]

def bytes : Container → Nat
  | .bits8 => 1
  | .bits16 => 2
  | .bits32 => 4
  | .bits64 => 8

def width (c : Container) : Nat :=
  8 * c.bytes

def name : Container → String
  | .bits8 => "Bitfield8"
  | .bits16 => "Bitfield16"
  | .bits32 => "Bitfield32"
  | .bits64 => "Bitfield64"

def ofName? (name : String) : Option Container :=
  all.find? fun c => c.name == name

def ofWidth? (width : Nat) : Option Container :=
  all.find? fun c => c.width == width

end Container

namespace Bits

/-- The `width` bits of `n` above the lowest `shift` ones. -/
def extract (n shift width : Nat) : Nat :=
  n / 2 ^ shift % 2 ^ width

def replace (n shift width cell : Nat) : Nat :=
  n / 2 ^ (shift + width) * 2 ^ (shift + width) + cell % 2 ^ width * 2 ^ shift + n % 2 ^ shift

def digits (width n : Nat) : List Char :=
  (List.range width).map fun i => if n.testBit (width - 1 - i) then '1' else '0'

theorem replace_lt {n shift width cell size : Nat} (hn : n < 2 ^ size)
    (hs : shift + width ≤ size) : replace n shift width cell < 2 ^ size := by
  obtain ⟨k, rfl⟩ := Nat.exists_eq_add_of_le hs
  have hlow : n % 2 ^ shift < 2 ^ shift := Nat.mod_lt _ (Nat.two_pow_pos _)
  have hcell : cell % 2 ^ width < 2 ^ width := Nat.mod_lt _ (Nat.two_pow_pos _)
  have hhigh : n / 2 ^ (shift + width) < 2 ^ k := by
    rw [Nat.div_lt_iff_lt_mul (Nat.two_pow_pos _), ← Nat.pow_add, Nat.add_comm k]
    exact hn
  have h₁ : (cell % 2 ^ width + 1) * 2 ^ shift ≤ 2 ^ (shift + width) := by
    rw [Nat.pow_add, Nat.mul_comm (2 ^ shift)]
    exact Nat.mul_le_mul_right _ hcell
  have h₂ : (n / 2 ^ (shift + width) + 1) * 2 ^ (shift + width) ≤ 2 ^ (shift + width + k) := by
    rw [Nat.pow_add 2 (shift + width) k, Nat.mul_comm (2 ^ (shift + width)) (2 ^ k)]
    exact Nat.mul_le_mul_right _ hhigh
  rw [Nat.add_mul] at h₁ h₂
  simp only [replace]
  omega

end Bits

structure Bitfield where
  container : Container
  layout : Layout
  raw : Nat
  fits : layout.width ≤ container.width
  raw_lt : raw < 2 ^ container.width
deriving DecidableEq

namespace Bitfield

def zero (c : Container) : Bitfield :=
  ⟨c, .empty, 0, Nat.zero_le _, Nat.two_pow_pos _⟩

instance : Inhabited Bitfield := ⟨zero .bits8⟩

def width (b : Bitfield) : Nat :=
  b.container.width

def shift (b : Bitfield) (p : Placed) : Nat :=
  b.width - p.offset - p.field.width

def cell (b : Bitfield) (p : Placed) : Nat :=
  Bits.extract b.raw (b.shift p) p.field.width

def get? (b : Bitfield) (name : String) : Option Nat :=
  (b.layout.find? name).map b.cell

/-- Replaces the bits of a run by the lowest bits of `value`, in two's complement if negative. -/
def setCell (b : Bitfield) (p : Placed) (h : p.offset + p.field.width ≤ b.layout.width)
    (value : Int) : Bitfield :=
  { b with
    raw := Bits.replace b.raw (b.shift p) p.field.width (value % (2 ^ p.field.width : Nat)).toNat
    raw_lt := Bits.replace_lt b.raw_lt (by
      have := b.fits
      have := p.field.pos
      simp only [shift, width]
      omega) }

def set? (b : Bitfield) (name : String) (value : Int) : Option Bitfield :=
  match h : b.layout.find? name with
  | none => none
  | some p => some (b.setCell p (Layout.offset_add_width_le_of_find? h) value)

def binary (b : Bitfield) : String :=
  "0b" ++ String.ofList (Bits.digits b.width b.raw)

def text (b : Bitfield) : String :=
  let run (f : SubField) := Text.quoted f.name ++ ": " ++ toString f.width
  b.container.name ++ "(" ++ b.binary ++ ", \x7b" ++ ", ".intercalate (b.layout.fields.map run) ++
    "\x7d)"

end Bitfield

end RecordCodec
