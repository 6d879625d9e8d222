import LiveTemplates.Config.Setting
import LiveTemplates.Json.Parser
import LiveTemplates.Text.Cursor

set_option autoImplicit false

/-! # Settings in INI files

Lines of keys and values with `=` or `:` between them, sections in brackets, and comments that begin
a line. All values are texts; they may begin with a quoted part, which may go on over several lines,
and hold backslash escapes. Blanks around a value do not count, not even within its quotes. The keys
before the first section are settings, and a section is a table of them; of several sections of one
name the last counts. -/

namespace LiveTemplates

namespace Ini

open Reader

/-- The end of a line. -/
def isBreak (c : Char) : Bool :=
  c = '\n' || c = '\r'

/-- What a backslash and a character stand for; none if it takes more than that. -/
def shortEscape : Char → Option Char
  | '0' => some '\x00'
  | 'a' => some '\x07'
  | 'b' => some '\x08'
  | 't' => some '\t'
  | 'r' => some '\r'
  | 'n' => some '\n'
  | c => some c

/-- Four hexadecimal digits as a character; a plus sign may stand in the place of the first. -/
def hexChar : Reader Char := do
  let digit := satisfy fun c => (Json.hexDigit? c).isSome
  let a ← (do char '+'; return '0') <|> digit
  let b ← digit
  let c ← digit
  let d ← digit
  match Json.hexFour? a b c d with
  | some n => if Nat.isValidChar n then return Char.ofNat n else failure
  | none => failure

/-- A character of a text; a backslash at the end of a line joins the next line to it. -/
def textChar (atEnd : Char → Bool) : Reader (Option Char) := do
  let c ← satisfy fun c => !atEnd c
  if c ≠ '\\' then return some c
  let e ← satisfy fun _ => true
  if e = '\n' then return none
  if e = 'x' then return some (← hexChar)
  return shortEscape e

/-- A text up to an end, which is not passed. -/
def textUntil (atEnd : Char → Bool) (fuel : Nat) : Reader String := do
  return String.ofList ((← many (textChar atEnd) fuel []).filterMap id)

/-- A text between quotes, and what follows it on the line. -/
def quotedValue (quote : Char) (fuel : Nat) : Reader String := do
  char quote
  let inside ← textUntil (· = quote) fuel
  char quote
  let after ← textUntil isBreak fuel
  return inside ++ after

/-- A value up to the end of its line. -/
def value (fuel : Nat) : Reader String := do
  let _ ← takeWhile fun c => Text.isBlank c && !isBreak c
  let text ←
    if ← ahead (char '"') then quotedValue '"' fuel
    else if ← ahead (char '\'') then quotedValue '\'' fuel
    else textUntil isBreak fuel
  return Text.trim text

/-- A line of a file. -/
inductive Line where
  | comment
  | section (name : String)
  | entry (key value : String)

/-- A comment, a section or an entry. -/
def line (fuel : Nat) : Reader Line :=
  (do
    let start ← get
    let _ ← satisfy fun c => c = ';' || c = '#'
    if start.column ≠ 1 then failure
    let _ ← takeWhile (· ≠ '\n')
    return .comment)
  <|> (do
    char '['
    let name ← textUntil (fun c => c = ']') fuel
    char ']'
    return .section (Text.trim name))
  <|> (do
    refuse (satisfy fun c => c = ';' || c = '#' || c = '[')
    let key ← textUntil (fun c => c = '=' || c = ':') fuel
    let _ ← satisfy fun c => c = '=' || c = ':'
    let key := Text.trim key
    if key.isEmpty then failure
    return .entry key (← value fuel))

/-- Put lines into tables. The open section comes first, then what was read so far. -/
def gather (origin : Option String) : Option String → List (String × Setting) → List Line →
    List (String × Setting)
  | _, settings, [] => settings
  | part, settings, .comment :: rest => gather origin part settings rest
  | _, settings, .section name :: rest =>
    gather origin (some name) (Dictionary.insert name (.table origin []) settings) rest
  | part, settings, .entry key value :: rest =>
    let entry := Setting.scalar origin (.text value)
    match part with
    | none => gather origin part (Dictionary.insert key entry settings) rest
    | some name =>
      let entries := ((Dictionary.find? name settings).map Setting.entries).getD []
      gather origin part
        (Dictionary.insert name (.table origin (Dictionary.insert key entry entries)) settings) rest

/-- The settings of a file, as a table. -/
def parse? (origin : Option String) (text : String) : Option Setting :=
  let start := Cursor.start text
  let fuel := start.rest.length + 1
  let blanks := takeWhile Text.isBlank
  let file : Reader (List Line) := do
    let _ ← blanks
    many (do let l ← line fuel; let _ ← blanks; return l) fuel []
  match file start with
  | some (lines, ⟨_, [], _, _, _⟩) => some (.table origin (gather origin none [] lines))
  | _ => none

end Ini

end LiveTemplates
