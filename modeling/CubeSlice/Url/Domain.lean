import CubeSlice.Text.Direction
import CubeSlice.Text.Joining
import CubeSlice.Text.Mark
import CubeSlice.Text.Normal
import CubeSlice.Url.HostMap
import CubeSlice.Url.Punycode

/-!
# Domains

Which host names can be turned into ASCII. A name is mapped and put into normal form first; then its
labels are looked at. A label in ASCII may be anything, one in Punycode has to decode to a sound
label that the mapping leaves alone, and any other has to be sound itself and to have a Punycode
form. Soundness concerns the combining mark at the start, the joiners and the directions.
-/

namespace CubeSlice.Url.Domain

open Text

def mapped? (name : List Char) : Option (List Char) :=
  (name.mapM HostMap.image?).map fun parts => Normal.compose parts.flatten

def joiner : Char := Char.ofNat 0x200D

def nonJoiner : Char := Char.ofNat 0x200C

def isJoiner (c : Char) : Bool := c == joiner || c == nonJoiner

/-- Whether a joiner stands well between two parts of a label: behind a virama, or, asking for an
unjoined form, with letters on both sides that could join. -/
def standsWell (c : Char) (before behind : List Char) : Bool :=
  before.getLast?.any Mark.isVirama ||
    (c == nonJoiner && before.any Joining.joinsOnward && behind.any Joining.joinsBack)

/-- The directions of a label in which something runs from right to left; marks at its end do not
count. If it starts from left to right, nothing before its last character runs back or has an
unknown direction. If not, nothing runs from left to right or has an unknown direction, a letter or
a number ends it, and its numbers are of one kind. -/
def obeysDirection (label : List Char) : Bool :=
  let directions := label.map Direction.of
  let runsBack (d : Direction) : Bool := d == .right || d == .arabicNumber
  if directions.any runsBack then
    match directions.reverse.dropWhile (· == .nonspacing) with
    | [] => false
    | last :: before =>
      if directions.head? == some .left then before.all fun d => !runsBack d && d != .unknown
      else
        let body := last :: before
        body.all (fun d => d != .left && d != .unknown) &&
          (runsBack last || last == .europeanNumber) &&
          !(body.contains .europeanNumber && body.contains .arabicNumber)
  else
    true

/-- A label that starts with no mark. If it has joiners the first of them decides, else its
directions. -/
def isSound (label : List Char) : Bool :=
  !label.head?.any Mark.isMark &&
    match label.dropWhile (!isJoiner ·) with
    | c :: behind => standsWell c (label.takeWhile (!isJoiner ·)) behind
    | [] => obeysDirection label

def isAscii (label : List Char) : Bool := label.all fun c => c.toNat < 0x80

def marker : List Char := ['x', 'n', '-', '-']

/-- What follows the marker has to be ASCII, and to decode to a label in mapped and normal form. -/
def isPunycode (cs : List Char) : Bool :=
  isAscii cs &&
    (Punycode.decode? cs).any fun label =>
      !label.isEmpty && mapped? label == some label && isSound label

def isLabel (label : List Char) : Bool :=
  if marker.isPrefixOf label then isPunycode (label.drop marker.length)
  else isAscii label || (isSound label && Punycode.isEncodable label)

def isForbiddenHost (c : Char) : Bool :=
  c.toNat == 0 || "\t\n\r #/:<>?@[\\]^|".toList.contains c

def isForbidden (c : Char) : Bool :=
  isForbiddenHost c || c.toNat < 0x20 || c == '%' || c.toNat == 0x7F

/-- A host name as it is written, percent-decoded. -/
def isValid (name : List Char) : Bool :=
  match mapped? name with
  | none => false
  | some host =>
    !host.isEmpty && (fields '.' host).all isLabel && host.all (!isForbidden ·) &&
      (!Ipv4.endsInNumber host || Ipv4.isValid host)

end CubeSlice.Url.Domain
