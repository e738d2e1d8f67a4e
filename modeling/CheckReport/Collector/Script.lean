/-
Scripts.

A script is a program file that another program runs, its interpreter. Behind the two bytes `#!` its first line names
the interpreter and may give it one argument, which reaches to the end of the line. Only the first `headSize` bytes of a
file are looked at: a name that does not end in them makes the file no script, and an argument is cut.
-/
import CheckReport.Disk.Path

namespace CheckReport

open Text.Utf8 (Bytes)

structure Script where
  interpreter : Path
  argument : Option Bytes
  deriving DecidableEq, Repr

namespace Script

/-- number of bytes in which the first line is sought; a shorter file counts as filled up with zeros -/
def headSize : Nat := 256

def mark : Bytes := [0x23, 0x21]

def isSpace (b : UInt8) : Bool := b == 0x20 || b == 0x09

/-- the line without the blanks at its end -/
def trimmed (line : Bytes) : Bytes := (line.reverse.dropWhile isSpace).reverse

def firstWord (line : Bytes) : Bytes := (line.dropWhile isSpace).takeWhile (!isSpace ·)

def behindFirstWord (line : Bytes) : Bytes := (line.dropWhile isSpace).dropWhile (!isSpace ·)

def ofLine (line : Bytes) : Script :=
  let behind := behindFirstWord line
  ⟨⟨firstWord line⟩, if behind.isEmpty then none else some (behind.dropWhile isSpace)⟩

/-- the script that a file is. A first line ends with a line feed or where the head does, and blanks before that do not
count; or it ends with a zero byte in front of the head's last, where a missing name stands for the working
directory. -/
def ofBytes? (data : Bytes) : Option Script :=
  let head := (data.take headSize ++ List.replicate headSize 0).take headSize
  let line := (head.drop mark.length).takeWhile fun b => b != 0x0A && b != 0
  let size := mark.length + line.length
  if !mark.isPrefixOf head then none
  else if size = headSize then
    if (behindFirstWord line).isEmpty then none else some (ofLine (trimmed line.dropLast))
  else if head[size]? = some 0 && size + 1 < headSize then
    some (if (firstWord line).isEmpty then ⟨⟨Disk.hereName⟩, none⟩ else ofLine line)
  else if (firstWord line).isEmpty then none
  else some (ofLine (trimmed line))

end Script

end CheckReport
