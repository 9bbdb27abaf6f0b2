import Galley.File.Console
import Galley.File.Name
import Galley.File.Regular
import Galley.Font
import Galley.Memory
import Std.Data.HashMap

/-! The guest's files: the stored contents by name, the table of opened files, and the console. A handle is an
index into the table and is never used again. A file is its name: opening a name starts from the stored content
or from what was last written under the name, never from the cursor of another handle.

Operations that touch guest memory run on a desk and a memory together. They may fail after having changed
either, so a failure leaves both as they then are. -/
namespace Galley

/-- An entry of the table of opened files. -/
inductive OpenFile where
  /-- Terminal input: the script being typed. -/
  | keyboard (content : ByteArray) (cursor : Cursor)
  /-- Terminal output. -/
  | screen
  | regular (file : RegularFile)

namespace OpenFile

def label : OpenFile → String
  | keyboard .. => "console input"
  | screen => "console output"
  | regular _ => "regular file"

def atEnd : OpenFile → Bool
  | keyboard _ cursor => cursor.atEnd
  | screen => false
  | regular f => f.cursor.atEnd

def atLineEnd : OpenFile → Bool
  | keyboard _ cursor => cursor.atLineEnd
  | screen => false
  | regular f => f.cursor.atLineEnd

/-- 0 for a file that is open, 1 for one whose open failed. -/
def status : OpenFile → Nat
  | regular f => if f.isOpen then 0 else 1
  | _ => 0

/-- The file with another cursor. -/
def withCursor (cursor : Cursor) : OpenFile → OpenFile
  | keyboard content _ => keyboard content cursor
  | screen => screen
  | regular f => regular { f with cursor }

end OpenFile

/-- An operation on a file of the wrong direction. -/
inductive Misuse where
  | getFromScreen
  | lineFromScreen
  | writeToKeyboard
  deriving DecidableEq

/-- What can be wrong with a file operation. -/
inductive FileError where
  | badHandle (handle : Int32)
  | misuse (kind : Misuse)
  | lineOverflow (line capacity : Nat)
  | memory (fault : Memory.Fault)
  deriving DecidableEq

def Misuse.message : Misuse → String
  | getFromScreen => "Cannot get on console output"
  | lineFromScreen => "Cannot inputln on console output"
  | writeToKeyboard => "Cannot write on console input"

def FileError.message : FileError → String
  | badHandle handle => "Invalid file handle: " ++ toString handle.toInt
  | misuse kind => kind.message
  | lineOverflow line capacity =>
    "Line of " ++ toString line ++ " bytes does not fit input buffer of " ++ toString capacity ++ " bytes"
  | memory fault => fault.message

/-- How an operation can fail: with an error that is reported, or so that the host cannot go on, by a write that the
buffer has no place for or by a position or an address beyond all words. -/
inductive FileFailure where
  | error (cause : FileError)
  | abort
  deriving DecidableEq

/-- The files of one session. -/
structure Desk where
  contents : Std.HashMap String ByteArray
  table : Array OpenFile
  console : Console
  /-- What is typed at the terminal. -/
  script : ByteArray
  fonts : FontSource
  /-- The engine has reached its final end. -/
  finished : Bool

/-- The result of an open. -/
inductive OpenOutcome where
  /-- The file is in the table, perhaps with a failed status. -/
  | opened (handle : Nat)
  /-- The file must be fetched first. -/
  | fetch (name : String)
  deriving DecidableEq

/-- The addresses of a line read. -/
structure LineRequest where
  /-- Skip the terminator that the previous line left. -/
  bypass : Bool
  /-- Start of the line buffer. -/
  buffer : Nat
  /-- Where the index of the first free byte of the buffer is. -/
  first : Nat
  /-- Where the index past the line goes. -/
  last : Nat
  /-- Size of the line buffer. -/
  capacity : Nat

namespace Desk

/-- Nothing stored, nothing open. -/
def start (script : ByteArray) (fonts : FontSource) : Desk :=
  { contents := ∅, table := #[], console := .empty, script, fonts, finished := false }

/-- Stores a file. -/
def insert (d : Desk) (name : String) (content : ByteArray) : Desk :=
  { d with contents := d.contents.insert name content }

/-- Ends the held console line and marks the run as finished. -/
def finish (d : Desk) : Desk := { d with console := d.console.flush, finished := true }

/-- The file behind a handle. -/
def file (d : Desk) (handle : Int32) : Except FileError OpenFile :=
  if handle < 0 then .error (.badHandle handle)
  else
    match d.table[handle.toInt.toNat]? with
    | some f => .ok f
    | none => .error (.badHandle handle)

/-- The last opened file that `pick` accepts. -/
def latest {α : Type} (d : Desk) (pick : RegularFile → Option α) : Option α :=
  d.table.toList.reverse.findSome? fun
    | .regular f => pick f
    | _ => none

/-- What the session wrote under a name, through the last handle that was opened for writing it. -/
def readBack (d : Desk) (name : String) : Option ByteArray :=
  d.latest fun f => if f.name == name && f.mode == .write && f.isOpen then some f.written else none

/-- What an earlier open of a name left: its written bytes, or the content it was opened with. -/
def previous (d : Desk) (name : String) : Option ByteArray :=
  d.latest fun f =>
    if f.name == name && f.isOpen then
      some (match f.mode with
        | .write => f.written
        | .read => f.buffer)
    else none

/-- Puts a file into the table. -/
def push (d : Desk) (f : OpenFile) : OpenOutcome × Desk :=
  (.opened d.table.size, { d with table := d.table.push f })

/-- The metric bytes that answer a read of a font metric file. -/
def metric (d : Desk) (name : String) (mode : Mode) : Option ByteArray :=
  if mode == .read && FileName.isFontMetric name then d.fonts (FileName.fontOf name) else none

/-- Opens a file by name. A font the source knows comes first, then the stored content. A write of an unknown
name starts empty. A read of it sees what the session last had under that name; failing that, the file must be
fetched, except that a scratch file, or any file right after a fetch, is reported as not found. -/
def «open» (d : Desk) (name : String) (mode : Mode) (resuming : Bool) : OpenOutcome × Desk :=
  match d.metric name mode with
  | some data => d.push (.regular (.opened name mode data))
  | none =>
    match d.contents[name]? with
    | some content => d.push (.regular (.opened name mode content))
    | none =>
      if mode == .write then d.push (.regular (.opened name mode .empty))
      else
        match d.previous name with
        | some content => d.push (.regular (.opened name mode content))
        | none =>
          if resuming || FileName.isScratch name then d.push (.regular (.failed name))
          else (.fetch name, d)

/-- Opens what a name buffer names. -/
def openRaw (d : Desk) (raw : ByteArray) (mode : Mode) (resuming : Bool) : OpenOutcome × Desk :=
  match FileName.parse raw.data.toList with
  | .terminal =>
    match mode with
    | .read => d.push (.keyboard d.script .start)
    | .write => d.push .screen
  | .file name => d.open name mode resuming

/-- Closing checks the handle; the content stays for reading back. -/
def close (d : Desk) (handle : Int32) : Except FileError Unit := (d.file handle).map fun _ => ()

def atEnd (d : Desk) (handle : Int32) : Except FileError Bool := (d.file handle).map OpenFile.atEnd

def atLineEnd (d : Desk) (handle : Int32) : Except FileError Bool := (d.file handle).map OpenFile.atLineEnd

def status (d : Desk) (handle : Int32) : Except FileError Nat := (d.file handle).map OpenFile.status

/-- Writes text to the console. -/
def print (d : Desk) (data : ByteArray) : Desk :=
  { d with console := d.console.write (Text.latin1List data.data.toList) }

/-- Puts a file in the place of the one behind a handle. -/
def setFile (d : Desk) (handle : Int32) (f : OpenFile) : Desk :=
  { d with table := d.table.setIfInBounds handle.toInt.toNat f }

/-- Writes bytes at the cursor of a file, or to the console when the handle is negative or a screen. -/
def write (d : Desk) (handle : Int32) (data : ByteArray) : Except FileFailure Desk :=
  if handle < 0 then .ok (d.print data)
  else
    match d.file handle with
    | .error e => .error (.error e)
    | .ok (.keyboard ..) => .error (.error (.misuse .writeToKeyboard))
    | .ok .screen => .ok (d.print data)
    | .ok (.regular f) =>
      match f.write data with
      | none => .error .abort
      | some f => .ok (d.setFile handle (.regular f))

/-- Writes a stretch of guest memory. -/
def put (d : Desk) (memory : Memory) (handle : Int32) (offset length : Nat) : Except FileFailure Desk :=
  match memory.read offset length with
  | .error fault => .error (.error (.memory fault))
  | .ok data => d.write handle data

/-- A desk and the memory of the guest that works at it. -/
structure Seat where
  desk : Desk
  memory : Memory

/-- An operation on files and memory; a failure keeps what was done before it. -/
abbrev Operation (α : Type) := EStateM FileFailure Seat α

namespace Operation

/-- The file behind a handle. -/
def file (handle : Int32) : Operation OpenFile := fun s =>
  match s.desk.file handle with
  | .ok f => .ok f s
  | .error e => .error (.error e) s

def fail {α : Type} (e : FileError) : Operation α := throw (.error e)

/-- Changes the desk. -/
def onDesk (f : Desk → Desk) : Operation Unit := fun s => .ok () { s with desk := f s.desk }

/-- Moves the cursor of a file. -/
def setCursor (handle : Int32) (f : OpenFile) (cursor : Cursor) : Operation Unit :=
  onDesk (·.setFile handle (f.withCursor cursor))

/-- Runs an access of the memory. -/
def access {α : Type} (a : Memory.Access α) : Operation α := fun s =>
  match a s.memory with
  | .ok value memory => .ok value { s with memory }
  | .error fault memory => .error (.error (.memory fault)) { s with memory }

/-- Reads from the memory. -/
def look {α : Type} (read : Memory → Except Memory.Fault α) : Operation α := fun s =>
  match read s.memory with
  | .ok value => .ok value s
  | .error fault => .error (.error (.memory fault)) s

end Operation

open Operation

/-- A byte after which a reader is at the end of a line. -/
def endsLine (b : UInt8) : Bool := b == 0x0A || b == 0x0D

/-- The cursor after a read of `length` bytes that delivered `first` as its first; the new position has to be a
word. -/
def advance (cursor : Cursor) (first : UInt8) (length : Nat) : Operation Cursor :=
  if cursor.position + length < wordBound then
    pure { cursor with atLineEnd := endsLine first, position := cursor.position + length }
  else throw .abort

/-- The cursor at the end of its file. -/
def exhaust (cursor : Cursor) : Cursor := { cursor with atEnd := true, atLineEnd := true }

/-- Reads from the terminal: one byte is delivered whatever the length. Past the end of the script a carriage
return is delivered and the run is finished. -/
def getKeyboard (handle : Int32) (content : ByteArray) (cursor : Cursor) (offset length : Nat) :
    Operation Unit := do
  let self := OpenFile.keyboard content cursor
  match byteAt? content cursor.position with
  | some b =>
    access (Memory.writeByte offset b)
    setCursor handle self (← advance cursor b length)
  | none =>
    let cursor := { cursor with atEnd := true }
    setCursor handle self cursor
    access (Memory.writeByte offset 0x0D)
    setCursor handle self (← advance cursor 0x0D length)
    onDesk finish

/-- Reads from a file: as many bytes as there are, and a single zero byte at the end of the file. The cursor
moves by the length asked for. -/
def getRegular (handle : Int32) (f : RegularFile) (offset length : Nat) : Operation Unit := do
  let self := OpenFile.regular f
  if !f.isOpen then setCursor handle self (exhaust f.cursor)
  else
    let _ ← look (·.read offset length)
    let data := f.readAtCursor length
    match byteAt? data 0 with
    | none =>
      access (Memory.writeByte offset 0)
      setCursor handle self (exhaust f.cursor)
    | some first =>
      access (Memory.write offset data)
      setCursor handle self (← advance f.cursor first length)

/-- Reads at the cursor of a file into guest memory. -/
def get (handle : Int32) (offset length : Nat) : Operation Unit := do
  match ← Operation.file handle with
  | .keyboard content cursor => getKeyboard handle content cursor offset length
  | .screen => fail (.misuse .getFromScreen)
  | .regular f => getRegular handle f offset length

/-- The line of `content` that starts at a position, without its line feed. -/
def lineAt (content : ByteArray) (position : Nat) : ByteArray :=
  let rest := content.extract position content.size
  rest.extract 0 ((rest.data.findIdx? (· == 0x0A)).getD rest.size)

/-- How many bytes of a line there are before its trailing spaces. -/
def trimmedLength (line : ByteArray) : Nat := (Text.dropTrailing (· == 0x20) line.data.toList).length

/-- Delivers the next line of `content` into the guest's line buffer, and the index past its last byte that is
not a trailing space. At the end nothing is delivered, and at the end of the terminal's script the run is
finished. -/
def lineFrom (handle : Int32) (self : OpenFile) (content : ByteArray) (cursor : Cursor) (isTerminal : Bool)
    (r : LineRequest) : Operation Bool := do
  let first ← look (·.readWord r.first)
  access (Memory.writeWord r.last first)
  let skip := if r.bypass && !cursor.atEnd && cursor.atLineEnd then 1 else 0
  let cursor := { cursor with linePosition := cursor.linePosition + skip }
  setCursor handle self cursor
  if cursor.linePosition ≥ content.size then
    setCursor handle self { cursor with atEnd := true }
    if isTerminal then onDesk finish
    pure false
  else
    let line := lineAt content cursor.linePosition
    if first.toNat + line.size > r.capacity then
      fail (.lineOverflow line.size (r.capacity - first.toNat))
    else if r.buffer + first.toNat ≥ wordBound then throw .abort
    else
      access (Memory.write (r.buffer + first.toNat) line)
      access (Memory.writeWord r.last (UInt32.ofNat (first.toNat + trimmedLength line)))
      setCursor handle self
        { cursor with linePosition := cursor.linePosition + line.size, atLineEnd := true }
      pure true

/-- Reads the next line of a file into guest memory; false at the end of the file. -/
def inputLine (handle : Int32) (r : LineRequest) : Operation Bool := do
  let self ← Operation.file handle
  match self with
  | .keyboard content cursor => lineFrom handle self content cursor true r
  | .screen => fail (.misuse .lineFromScreen)
  | .regular f => lineFrom handle self f.buffer f.cursor false r

end Desk
end Galley
