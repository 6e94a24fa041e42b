/-!
# Words with named bits

A hardware register, a set of ports and a set of buttons are all words of a fixed width in which
some bits carry a name. A `Layout` says which, and `Flags l` is a word read by the layout `l`.
A word may hold bits that its layout does not name. Every operation but `truncate` and
`complement` keeps them, because a register has to be written back as it was read.
-/

namespace ConsoleBus

/-- One named flag of a word of `width` bits. -/
structure Flag (width : Nat) where
  /-- The name the flag is listed under. -/
  name : String
  /-- The bits the flag stands for: mostly one, but a field may span several. -/
  bits : BitVec width

/-- A way to read a word: what it is called, how wide it is and which of its bits have names. -/
structure Layout where
  /-- What a word of this layout is called when it is shown. -/
  title : String
  /-- The number of bits in a word. -/
  width : Nat
  /-- The named flags, in the order they are listed. -/
  flags : List (Flag width)

/-- A word read by the layout `l`. -/
@[ext] structure Flags (l : Layout) where
  /-- The word itself, bits without a name included. -/
  bits : BitVec l.width
  deriving DecidableEq

namespace Flags

variable {l : Layout}

/-- No bit set. -/
def empty : Flags l := ⟨0⟩

instance : Inhabited (Flags l) := ⟨empty⟩

/-- All bits that the layout names. -/
def known : Flags l := ⟨l.flags.foldl (fun bits flag => bits ||| flag.bits) 0⟩

/-- The bits of either word. -/
def union (a b : Flags l) : Flags l := ⟨a.bits ||| b.bits⟩

/-- The bits of both words. -/
def inter (a b : Flags l) : Flags l := ⟨a.bits &&& b.bits⟩

/-- The bits of `a` that are not bits of `b`. -/
def diff (a b : Flags l) : Flags l := ⟨a.bits &&& ~~~b.bits⟩

/-- The bits of exactly one of the two words. -/
def symmDiff (a b : Flags l) : Flags l := ⟨a.bits ^^^ b.bits⟩

/-- The bits of `a` that the layout names. -/
def truncate (a : Flags l) : Flags l := a.inter known

/-- The named bits that `a` lacks. -/
def complement (a : Flags l) : Flags l := known.diff a

@[simp] theorem bits_empty : (empty : Flags l).bits = 0 := rfl

@[simp] theorem bits_union (a b : Flags l) : (a.union b).bits = a.bits ||| b.bits := rfl

@[simp] theorem bits_inter (a b : Flags l) : (a.inter b).bits = a.bits &&& b.bits := rfl

@[simp] theorem bits_diff (a b : Flags l) : (a.diff b).bits = a.bits &&& ~~~b.bits := rfl

@[simp] theorem bits_symmDiff (a b : Flags l) : (a.symmDiff b).bits = a.bits ^^^ b.bits := rfl

/-- Whether `a` has every bit of `b`. -/
def contains (a b : Flags l) : Bool := a.inter b == b

/-- Whether `a` has some bit of `b`. -/
def intersects (a b : Flags l) : Bool := a.inter b != empty

/-- Whether no bit is set. -/
def isEmpty (a : Flags l) : Bool := a == empty

/-- Whether every named bit is set. -/
def isAll (a : Flags l) : Bool := a.contains known

/-- The word, unless it has a bit without a name. -/
def ofKnown? (a : Flags l) : Option (Flags l) :=
  if known.contains a then some a else none

/-- The flag of exactly this name. -/
def ofName? (name : String) : Option (Flags l) :=
  (l.flags.find? fun flag => flag.name == name).map fun flag => ⟨flag.bits⟩

/-- The named flags whose bits are all in `a`, in the order of the layout. -/
def present (a : Flags l) : List (Flag l.width) :=
  l.flags.filter fun flag => a.contains ⟨flag.bits⟩

/-- The names of the flags in `a`, in the order of the layout. -/
def names (a : Flags l) : List String := a.present.map Flag.name

/-- What is left of `a` once every flag that `names` lists has been taken away. -/
def unnamed (a : Flags l) : Flags l :=
  a.present.foldl (fun rest flag => rest.diff ⟨flag.bits⟩) a

/-- Lower-case hexadecimal with its usual mark. -/
def hexText (n : Nat) : String := "0x" ++ String.ofList (Nat.toDigits 16 n)

/-- The word as text: the names of its flags and then what they leave over, with bars between,
in brackets after the title of the layout. A word without any bit is shown as a plain zero. -/
def describe (a : Flags l) : String :=
  let rest := if a.isEmpty || !a.unnamed.isEmpty then [hexText a.unnamed.bits.toNat] else []
  l.title ++ "(" ++ " | ".intercalate (a.names ++ rest) ++ ")"

end Flags

end ConsoleBus
