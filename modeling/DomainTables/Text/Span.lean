/-!
# Spans of characters

The character properties of the following modules are tables of spans of code points, all of them
above the seven-bit range. A span runs from its first to its last code point; a strided span takes
every point (stride one) or every second point (stride two) on the way, as alternating capital and
small letters do. A shift is a strided span whose characters all have their counterpart at one
distance.
-/

namespace DomainTables.Text

/-- First and last code point of a run. -/
abbrev Span := Nat × Nat

/-- First and last code point of a run, and the distance between its members. -/
abbrev StridedSpan := Nat × Nat × Nat

/-- First and last code point of a run, the distance between its members, and the distance from
each member to its counterpart. -/
abbrev Shift := Nat × Nat × Nat × Int

/-- Tells whether a character lies in one of the spans. -/
def inSpans (spans : List Span) (c : Char) : Bool :=
  spans.any fun (first, last) => first ≤ c.toNat && c.toNat ≤ last

/-- Tells whether a code point belongs to the run from `first` to `last`. -/
def onStride (first last stride point : Nat) : Bool :=
  first ≤ point && point ≤ last && (point - first) % stride == 0

/-- Tells whether a character lies on one of the strided spans. -/
def inStridedSpans (spans : List StridedSpan) (c : Char) : Bool :=
  spans.any fun (first, last, stride) => onStride first last stride c.toNat

/-- The counterpart of a character, which is the character itself where no shift covers it. -/
def shifted (shifts : List Shift) (c : Char) : Char :=
  match shifts.find? fun (first, last, stride, _) => onStride first last stride c.toNat with
  | some (_, _, _, distance) => Char.ofNat (c.toNat + distance).toNat
  | none => c

end DomainTables.Text
