import TurtleGraphics.Journal.Place

/-! # Message templates

A template is text with places for arguments. A place starts with a percent sign. It may name its
argument in parentheses, give flags, a least width and a precision, and ends with a letter that says
how the argument is written; a letter for the size of a number before that one means nothing. Width
and precision are digits, or an asterisk for one more argument. Two percent signs in a row stand for
one.
-/

namespace TurtleGraphics

/-- Which argument a place shows. -/
inductive Choice where
  | next
  | named (name : String)
  | unclosed
  deriving Repr, DecidableEq

/-- What a template says about a measure. -/
inductive Extent where
  | unstated
  | stated (n : Nat)
  | argument
  deriving Repr, DecidableEq

/-- What a template says about a place. -/
structure Directive where
  /-- Which argument it shows. -/
  choice : Choice
  flags : List Char
  width : Extent
  precision : Extent
  /-- The letter at the end, unless the template ends before it. -/
  letter : Option Char
  deriving Repr, DecidableEq

namespace Directive

/-- The name up to the parenthesis that closes it, and what follows. Parentheses inside the name
    come in pairs. -/
def readName : Nat → List Char → Option (List Char × List Char)
  | _, [] => none
  | 0, ')' :: rest => some ([], rest)
  | depth, c :: rest =>
    let depth := if c = '(' then depth + 1 else if c = ')' then depth - 1 else depth
    (readName depth rest).map fun (name, after) => (c :: name, after)

/-- Which argument is meant, and what follows. -/
def readChoice : List Char → Choice × List Char
  | '(' :: rest =>
    match readName 0 rest with
    | some (name, after) => (.named (String.ofList name), after)
    | none => (.unclosed, [])
  | cs => (.next, cs)

def isFlag (c : Char) : Bool :=
  c = '-' || c = '+' || c = ' ' || c = '#' || c = '0'

/-- A measure at the front, and what follows. -/
def readExtent : List Char → Extent × List Char
  | '*' :: rest => (.argument, rest)
  | cs =>
    match cs.takeWhile Char.isDigit with
    | [] => (.unstated, cs)
    | digits =>
      (.stated (digits.foldl (fun n c => 10 * n + (c.toNat - '0'.toNat)) 0),
        cs.dropWhile Char.isDigit)

/-- The precision after a period, which alone stands for zero, and what follows. -/
def readPrecision : List Char → Extent × List Char
  | '.' :: rest =>
    match readExtent rest with
    | (.unstated, after) => (.stated 0, after)
    | found => found
  | cs => (.unstated, cs)

/-- What follows a letter for the size of a number, if there is one. -/
def skipSize : List Char → List Char
  | 'h' :: rest => rest
  | 'l' :: rest => rest
  | 'L' :: rest => rest
  | cs => cs

/-- A place, from behind its percent sign, and what follows it. -/
def read (cs : List Char) : Directive × List Char :=
  let (choice, cs) := readChoice cs
  let flags := cs.takeWhile isFlag
  let (width, cs) := readExtent (cs.dropWhile isFlag)
  let (precision, cs) := readPrecision cs
  match skipSize cs with
  | [] => (⟨choice, flags, width, precision, none⟩, [])
  | letter :: rest => (⟨choice, flags, width, precision, some letter⟩, rest)

theorem length_dropWhile_le (p : Char → Bool) (cs : List Char) :
    (cs.dropWhile p).length ≤ cs.length :=
  (List.dropWhile_sublist p).length_le

theorem length_readName {depth : Nat} {cs name after : List Char}
    (h : readName depth cs = some (name, after)) : after.length ≤ cs.length := by
  induction cs generalizing depth name with
  | nil => simp [readName] at h
  | cons c rest ih =>
    unfold readName at h
    split at h
    · cases h
    · rename_i heq
      cases heq
      cases h
      exact Nat.le_succ _
    · rename_i heq
      cases heq
      obtain ⟨⟨found, left⟩, read, same⟩ := Option.map_eq_some_iff.1 h
      cases same
      exact Nat.le_succ_of_le (ih read)

theorem length_readChoice (cs : List Char) : (readChoice cs).2.length ≤ cs.length := by
  unfold readChoice
  split
  · rename_i rest
    split
    · rename_i h
      exact Nat.le_succ_of_le (length_readName h)
    · exact Nat.zero_le _
  · exact Nat.le_refl _

theorem length_readExtent (cs : List Char) : (readExtent cs).2.length ≤ cs.length := by
  unfold readExtent
  split
  · exact Nat.le_succ _
  · split
    · exact Nat.le_refl _
    · exact length_dropWhile_le _ _

theorem length_readPrecision (cs : List Char) : (readPrecision cs).2.length ≤ cs.length := by
  unfold readPrecision
  split
  · rename_i rest
    have shorter := length_readExtent rest
    split <;> simp_all <;> omega
  · exact Nat.le_refl _

theorem length_skipSize (cs : List Char) : (skipSize cs).length ≤ cs.length := by
  unfold skipSize
  split <;> simp

/-- Reading a place leaves no more than there was. -/
theorem length_read (cs : List Char) : (read cs).2.length ≤ cs.length := by
  have choice := length_readChoice cs
  have flags := length_dropWhile_le isFlag (readChoice cs).2
  have width := length_readExtent ((readChoice cs).2.dropWhile isFlag)
  have precision := length_readPrecision (readExtent ((readChoice cs).2.dropWhile isFlag)).2
  have size := length_skipSize
    (readPrecision (readExtent ((readChoice cs).2.dropWhile isFlag)).2).2
  simp only [read]
  split
  · exact Nat.zero_le _
  · rename_i letter rest h
    simp only [h, List.length_cons] at size
    show rest.length ≤ cs.length
    omega

end Directive

/-- A part of a template. -/
inductive TemplatePart where
  /-- A character that stands for itself. -/
  | plain (c : Char)
  /-- A place, and the index of the letter at its end. -/
  | place (directive : Directive) (index : Nat)
  deriving Repr, DecidableEq

namespace TemplatePart

/-- The parts of what is left of a template of so many characters. -/
def split (length : Nat) : List Char → List TemplatePart
  | [] => []
  | '%' :: '%' :: rest => .plain '%' :: split length rest
  | '%' :: rest =>
    let after := (Directive.read rest).2
    .place (Directive.read rest).1 (length - after.length - 1) :: split length after
  | c :: rest => .plain c :: split length rest
termination_by cs => cs.length
decreasing_by
  · simp only [List.length_cons]; omega
  · simp only [List.length_cons]; exact Nat.lt_succ_of_le (Directive.length_read rest)
  · simp only [List.length_cons]; omega

end TemplatePart

/-- The arguments that places have not used yet, and the mapping that names arguments, if there is
    one. -/
structure Supply where
  /-- The arguments, the next one first. -/
  waiting : List Datum
  /-- The named arguments. -/
  mapping : Option Entries := none

/-- Work that uses arguments up. -/
abbrev Filling := StateT Supply (Except TemplateFault)

namespace Filling

def next : Filling Datum := do
  let supply ← get
  match supply.waiting with
  | [] => throw .tooFew
  | argument :: rest =>
    set { supply with waiting := rest }
    return argument

/-- See to it that the argument of a name is the next one. -/
def choose : Choice → Filling Unit
  | .next => pure ()
  | .unclosed => do
    match (← get).mapping with
    | none => throw .unnamed
    | some _ => throw .incompleteName
  | .named name => do
    let supply ← get
    match supply.mapping with
    | none => throw .unnamed
    | some entries =>
      match entries.value? name with
      | none => throw (.unknownName name)
      | some argument => set { supply with waiting := [argument] }

def measureOf (measure : Measure) (argument : Datum) : Filling Int := do
  let checked (n : Int) : Filling Int :=
    if -(measure.limit : Int) ≤ n ∧ n < measure.limit then pure n
    else throw (.measureBeyond measure)
  match argument with
  | .int n => checked n
  | .bool value => checked (if value then 1 else 0)
  | _ => throw .measureNotInteger

/-- A measure as a number, if there is one. -/
def measure (measure : Measure) : Extent → Filling (Option Int)
  | .unstated => pure none
  | .stated n => if n < measure.limit then pure (some n) else throw (.measureTooBig measure)
  | .argument => do return some (← measureOf measure (← next))

/-- The place that flags and measures describe. A negative width fills up on the right; the one
    without a positive counterpart asks for nothing. A negative precision is zero. -/
def placeOf (flags : List Char) (width precision : Option Int) : Place :=
  let width := width.getD 0
  { left := flags.contains '-' || width < 0
    zeros := flags.contains '0'
    plus := flags.contains '+'
    blank := flags.contains ' '
    marked := flags.contains '#'
    width := if width.natAbs < Measure.width.limit then width.natAbs else 0
    precision := precision.map Int.toNat }

/-- What a directive takes: its measures as a place, its letter, and its argument. -/
def take (directive : Directive) : Filling (Place × Char × Datum) := do
  choose directive.choice
  let width ← measure .width directive.width
  let precision ← measure .precision directive.precision
  match directive.letter with
  | none => throw .incomplete
  | some letter => return (placeOf directive.flags width precision, letter, ← next)

def part : TemplatePart → Filling Phrase
  | .plain c => pure [.ofChar c]
  | .place directive index => do
    let (place, letter, argument) ← take directive
    place.write letter index argument

/-- Whether a letter asks for decimal digits or for the text of a value. -/
def isPrinting (letter : Char) : Bool :=
  letter ∈ ['s', 'r', 'a', 'd', 'i', 'u']

/-- The argument that a part of a template prints. -/
def printed : TemplatePart → Filling (List Datum)
  | .plain _ => pure []
  | .place directive _ => do
    let (_, letter, argument) ← take directive
    return if isPrinting letter then [argument] else []

end Filling

namespace Template

/-- The arguments of a template at first. A single mapping that is not empty names arguments. -/
def supplyOf : List Datum → Supply
  | [.mapping (first :: rest)] => ⟨[.mapping (first :: rest)], some (first :: rest)⟩
  | arguments => ⟨arguments, none⟩

/-- A template with its arguments. Without arguments it stands for itself. Arguments that are left
    over are a fault, but a mapping need not be shown. -/
def fill (template : String) (arguments : List Datum) : Except TemplateFault Phrase :=
  if arguments.isEmpty then .ok template
  else do
    let cs := template.toList
    let parts := TemplatePart.split cs.length cs
    let (written, supply) ← (parts.mapM Filling.part).run (supplyOf arguments)
    if supply.mapping.isNone && !supply.waiting.isEmpty then throw .tooMany
    return written.flatten

/-- The arguments that a template prints, if it has all that it asks for. -/
def shown (template : String) (arguments : List Datum) : List Datum :=
  let cs := template.toList
  let parts := TemplatePart.split cs.length cs
  if arguments.isEmpty then []
  else
    match (parts.mapM Filling.printed).run (supplyOf arguments) with
    | .error _ => []
    | .ok (values, _) => values.flatten

end Template

end TurtleGraphics
