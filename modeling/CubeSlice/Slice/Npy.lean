import CubeSlice.Number.Bits
import CubeSlice.Slice.Basic

/-!
# Slices as NPY

Version 1.0 of the array format: a magic text, the version, the length of the header in two bytes,
the header line and the elements row by row. Numbers are in little-endian order, and the header is
padded so that the elements start at a multiple of 64 bytes. Not-a-number has many words, and which of
them is written is up to the machine.
-/

namespace CubeSlice.Slice.Npy

def magic : List UInt8 := [0x93, 0x4E, 0x55, 0x4D, 0x50, 0x59]

def preamble : Nat := 10

def alignment : Nat := 64

def description : DType → String
  | .double => "<f8"
  | .single => "<f4"

def dictionary (s : Slice) : String :=
  "\x7b'descr': '" ++ description s.dtype ++ "', 'fortran_order': False, 'shape': (" ++
    toString s.rows ++ ", " ++ toString s.cols ++ "), \x7d"

def padding (length : Nat) : Nat :=
  (alignment - (preamble + length + 1) % alignment) % alignment

def header (s : Slice) : String :=
  dictionary s ++ String.ofList (List.replicate (padding (dictionary s).length) ' ') ++ "\n"

theorem isNaNWord_quietBits (d : DType) : d.format.IsNaNWord d.format.quietBits := by
  cases d <;> decide +kernel

/-- The words that a machine writes for elements that are not-a-number. -/
structure Machine where
  nanWord : DType → Nat → Nat
  isNaNWord : ∀ (d : DType) (i : Nat), d.format.IsNaNWord (nanWord d i)

def Machine.quiet : Machine := ⟨fun d _ => d.format.quietBits, fun d _ => isNaNWord_quietBits d⟩

def element (m : Machine) (d : DType) (x : Number) (i : Nat) : List UInt8 :=
  littleEndian d.format.byteCount (x.toBits d.format (m.nanWord d i))

def bytes (m : Machine) (s : Slice) : List UInt8 :=
  let line := (header s).toList
  magic ++ [1, 0] ++ littleEndian 2 line.length ++ line.map (fun c => UInt8.ofNat c.toNat) ++
    s.toList.zipIdx.flatMap fun (x, i) => element m s.dtype x i

end CubeSlice.Slice.Npy
