set_option autoImplicit false

/-! # Reading along a source

A cursor is a place in a source: the characters before it, last one first, and the ones that follow.
A reader moves the cursor on and gives a value, or fails and leaves the cursor where it was. -/

namespace LiveTemplates

/-- A place in a source. -/
structure Cursor where
  before : List Char
  rest : List Char
  line : Nat
  column : Nat
  offset : Nat
  deriving Inhabited

namespace Cursor

/-- The start of a source. -/
def start (source : String) : Cursor :=
  ⟨[], source.toList, 1, 1, 0⟩

/-- Move over one character. -/
def push (cursor : Cursor) (c : Char) (rest : List Char) : Cursor :=
  { before := c :: cursor.before
    rest
    line := if c = '\n' then cursor.line + 1 else cursor.line
    column := if c = '\n' then 1 else cursor.column + 1
    offset := cursor.offset + 1 }

/-- Move over the characters for which a test holds. -/
def skipFrom (test : Char → Bool) : List Char → Cursor → Cursor
  | [], cursor => cursor
  | c :: rest, cursor => if test c then skipFrom test rest (cursor.push c rest) else cursor

/-- Move over the characters for which a test holds. -/
def skip (test : Char → Bool) (cursor : Cursor) : Cursor :=
  skipFrom test cursor.rest cursor

/-- The characters between a place and a later one. -/
def upTo (first last : Cursor) : List Char :=
  first.rest.take (last.offset - first.offset)

end Cursor

/-- Reads a value at a cursor, or fails. -/
abbrev Reader (α : Type) := StateT Cursor Option α

namespace Reader

variable {α : Type}

/-- A character for which a test holds. -/
def satisfy (test : Char → Bool) : Reader Char := fun cursor =>
  match cursor.rest with
  | c :: rest => if test c then some (c, cursor.push c rest) else none
  | [] => none

/-- One character. -/
def char (expected : Char) : Reader Unit := do
  let _ ← satisfy (· = expected)

/-- Some characters in a row. -/
def exactly : List Char → Reader Unit
  | [] => pure ()
  | c :: rest => do
    char c
    exactly rest

/-- The characters for which a test holds, at least one. -/
def takeWhile1 (test : Char → Bool) : Reader String := fun cursor =>
  match cursor.rest.takeWhile test with
  | [] => none
  | taken => some (String.ofList taken, cursor.skip test)

/-- The characters for which a test holds, perhaps none. -/
def takeWhile (test : Char → Bool) : Reader String := fun cursor =>
  some (String.ofList (cursor.rest.takeWhile test), cursor.skip test)

/-- A value if it can be read. -/
def optionally (reader : Reader α) : Reader (Option α) := fun cursor =>
  match reader cursor with
  | some (value, next) => some (some value, next)
  | none => some (none, cursor)

/-- Whether something can be read, without moving on. -/
def ahead (reader : Reader α) : Reader Bool := fun cursor =>
  some ((reader cursor).isSome, cursor)

/-- Fails where something can be read. -/
def refuse (reader : Reader α) : Reader Unit := fun cursor =>
  match reader cursor with
  | some _ => none
  | none => some ((), cursor)

/-- Whether a character was there. -/
def flag (c : Char) : Reader Bool := do
  return (← optionally (char c)).isSome

/-- Read as often as it succeeds, at most `fuel` times; the values before come first, last one
first. -/
def many (reader : Reader α) : (fuel : Nat) → List α → Reader (List α)
  | 0, before => pure before.reverse
  | fuel + 1, before => fun cursor =>
    match reader cursor with
    | some (value, next) => many reader fuel (value :: before) next
    | none => some (before.reverse, cursor)

/-- The characters that a reader moves over. -/
def spelling (reader : Reader α) : Reader (List Char) := do
  let first ← get
  let _ ← reader
  let last ← get
  return first.upTo last

end Reader

end LiveTemplates
