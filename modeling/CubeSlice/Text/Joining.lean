import CubeSlice.Text.Table

/-!
# Joining

The letters of cursive scripts that join their neighbours, as far as host names tell them apart:
those of Arabic, Syriac, Mandaic, Mongolian and Phags-pa. The table is exact for the characters that
host names keep.
-/

namespace CubeSlice.Text

inductive Joining where
  | both
  | onward
  | back
  deriving DecidableEq, Repr

namespace Joining

def rows : List String := [
  "620:D 622-625:R 626:D 627:R 628:D 629:R 62A-62E:D 62F-632:R 633-63F:D 641-647:D 648:R",
  "649-64A:D 66E-66F:D 671-673:R 679-687:D 688-699:R 69A-6BF:D 6C0:R 6C1-6C2:D 6C3-6CB:R 6CC:D",
  "6CD:R 6CE:D 6CF:R 6D0-6D1:D 6D2-6D3:R 6D5:R 6EE-6EF:R 6FA-6FC:D 6FF:D 710:R 712-714:D",
  "715-719:R 71A-71D:D 71E:R 71F-727:D 728:R 729:D 72A:R 72B:D 72C:R 72D-72E:D 72F:R 74D:R",
  "74E-758:D 759-75B:R 75C-766:D 850-853:D 854:R 855:D 8A0:D 8A2-8A9:D 8AA-8AC:R 1807:D",
  "1820-1877:D 1887-18A8:D 18AA:D A840-A871:D A872:L"]

def read? : List Char → Option Joining
  | [':', 'D'] => some both
  | [':', 'L'] => some onward
  | [':', 'R'] => some back
  | _ => none

def table : Table Joining := Table.read read? rows

def joinsOnward (c : Char) : Bool :=
  table.get? c == some both || table.get? c == some onward

def joinsBack (c : Char) : Bool :=
  table.get? c == some both || table.get? c == some back

end Joining

end CubeSlice.Text
